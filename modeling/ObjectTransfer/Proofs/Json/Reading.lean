import ObjectTransfer.Json.Reader
import ObjectTransfer.Proofs.Control.Outcome
import ObjectTransfer.Proofs.Encoding.Utf8

/-!
# What it means to read a written form

`Reads reader written value` says that the reader, put before a written form,
gives the value and stands right behind the form, whatever follows there inside
a container.  The small steps of the reader are spelled out octet by octet.
-/

set_option autoImplicit false

namespace ObjectTransfer.Json.Reader

variable {α β : Type}

/-- What follows a value inside a container: the end, a comma or a closing bracket. -/
def Follows (rest : Octets) : Prop :=
  ∀ octet ∈ rest.head?, octet = 44 ∨ octet = 93 ∨ octet = 125

structure Reads (reader : Reader α) (written : List Char) (value : α) : Prop where
  /-- The form starts with what is neither a space nor the end of a list. -/
  starts : ∃ first more,
    Utf8.encodeChars written = first :: more ∧ isSpace first = false ∧ first ≠ 93
  read : ∀ rest, Follows rest → reader (Utf8.encodeChars written ++ rest) = .ok (value, rest)

theorem follows_nil : Follows [] := by simp [Follows]

theorem follows_comma (rest : Octets) : Follows (44 :: rest) := by simp [Follows]

theorem follows_bracket (rest : Octets) : Follows (93 :: rest) := by simp [Follows]

theorem follows_brace (rest : Octets) : Follows (125 :: rest) := by simp [Follows]

/-! ## Single steps -/

theorem bind_read (first : Reader α) (next : α → Reader β) (octets rest : Octets) (value : α)
    (read : first octets = .ok (value, rest)) : (first >>= next) octets = next value rest := by
  change (first octets >>= fun pair => next pair.1 pair.2) = next value rest
  rw [read, ok_bind]

@[simp] theorem pure_read (value : α) (octets : Octets) :
    (pure value : Reader α) octets = .ok (value, octets) := rfl

@[simp] theorem peek_read (octets : Octets) : peek octets = .ok (octets.head?, octets) := rfl

@[simp] theorem drop_read (octet : UInt8) (rest : Octets) :
    drop (octet :: rest) = .ok ((), rest) := rfl

@[simp] theorem rounds_read (octets : Octets) :
    rounds octets = .ok (octets.length + 1, octets) := rfl

theorem next_read (octet : UInt8) (rest : Octets) (notSpace : isSpace octet = false) :
    next (octet :: rest) = .ok (some octet, octet :: rest) := by
  change Except.ok (((octet :: rest).dropWhile isSpace).head?, (octet :: rest).dropWhile isSpace) =
    _
  simp [List.dropWhile, notSpace]

theorem run_written (reader : Reader α) (written : List Char) (value : α)
    (reads : Reads reader written value) :
    run reader (Utf8.encodeChars written) = .ok value := by
  have whole := reads.read [] follows_nil
  rw [List.append_nil] at whole
  simp only [run, whole, ok_bind]
  rfl

end ObjectTransfer.Json.Reader
