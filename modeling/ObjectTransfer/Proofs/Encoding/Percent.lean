import ObjectTransfer.Encoding.Percent
import ObjectTransfer.Proofs.Encoding.Utf8
import ObjectTransfer.Text.Pieces

/-!
# Percent escapes are read back

If only octets of ASCII stand for themselves, and the percent sign does not,
reading an escaped text gives the octets of the text again, whatever follows
it.  Two texts with the same escaped form are therefore the same.

Escaping a second time changes nothing where the percent sign and whatever else
stands in the escaped text are allowed to stand for themselves.

In an escaped text every percent sign begins an escape: two upper case digits
follow it.
-/

set_option autoImplicit false

namespace ObjectTransfer

theorem forall_octet {holds : UInt8 → Prop} (all : ∀ code : Fin 256, holds (UInt8.ofNat code))
    (octet : UInt8) : holds octet := by
  have here := all ⟨octet.toNat, octet.toNat_lt⟩
  rwa [UInt8.ofNat_toNat] at here

namespace Percent

/-- The octets that stand for themselves are in ASCII, and the percent sign is not one of them. -/
def Faithful (plain : UInt8 → Bool) : Prop :=
  ∀ octet, plain octet = true → octet.toNat < 128 ∧ octet ≠ percent

theorem faithful_isUnreserved : Faithful isUnreserved :=
  forall_octet (by decide +kernel)

/-! ## Reading -/

theorem decode_cons_of_ne_percent (octet : UInt8) (rest : Octets) (other : octet ≠ percent) :
    decode (octet :: rest) = octet :: decode rest := by
  match rest with
  | [] => rfl
  | [_] => rfl
  | _ :: _ :: _ => rw [decode, if_neg other]

theorem upperDigit_octet (n : Fin 16) :
    ∃ octet, String.utf8EncodeChar (Hex.upperDigit n) = [octet] ∧
      Hex.value? (Char.ofNat octet.toNat) = some n.val := by
  have all : ∀ n : Fin 16, String.utf8EncodeChar (Hex.upperDigit n) =
        [UInt8.ofNat (Hex.upperDigit n).toNat] ∧
      Hex.value? (Char.ofNat (UInt8.ofNat (Hex.upperDigit n).toNat).toNat) = some n.val := by
    decide +kernel
  exact ⟨_, all n⟩

theorem decode_escape (octet : UInt8) (rest : Octets) :
    decode (Utf8.encodeChars (escape octet) ++ rest) = octet :: decode rest := by
  have bound := octet.toNat_lt
  obtain ⟨high, highWritten, highRead⟩ := upperDigit_octet ⟨octet.toNat / 16, by omega⟩
  obtain ⟨low, lowWritten, lowRead⟩ := upperDigit_octet ⟨octet.toNat % 16, by omega⟩
  have written : Utf8.encodeChars (escape octet) = [percent, high, low] := by
    simp only [escape, Hex.upperOctet, Utf8.encodeChars_cons, highWritten, lowWritten]
    rfl
  have value : pairValue? high low = some octet := by
    have whole : 16 * (octet.toNat / 16) + octet.toNat % 16 = octet.toNat := by omega
    simp [pairValue?, highRead, lowRead, whole]
  simp only [written, List.cons_append, List.nil_append, decode, if_true, value]

theorem decode_encodeOctet (plain : UInt8 → Bool) (faithful : Faithful plain) (octet : UInt8)
    (rest : Octets) :
    decode (Utf8.encodeChars (encodeOctet plain octet) ++ rest) = octet :: decode rest := by
  unfold encodeOctet
  split
  · rename_i itself
    obtain ⟨small, other⟩ := faithful octet itself
    have written := Utf8.encodeChars_ofNat [octet] (by simpa using small)
    rw [List.map_singleton] at written
    rw [written, List.singleton_append, decode_cons_of_ne_percent octet rest other]
  · exact decode_escape octet rest

theorem decode_encodeOctets_append (plain : UInt8 → Bool) (faithful : Faithful plain)
    (octets rest : Octets) :
    decode (Utf8.encodeChars (encodeOctets plain octets) ++ rest) = octets ++ decode rest := by
  induction octets with
  | nil => rfl
  | cons octet more ih =>
    have step : encodeOctets plain (octet :: more) =
        encodeOctet plain octet ++ encodeOctets plain more := rfl
    rw [step, Utf8.encodeChars_append, List.append_assoc, decode_encodeOctet plain faithful, ih]
    rfl

theorem decode_encode (plain : UInt8 → Bool) (faithful : Faithful plain) (text : List Char) :
    decode (Utf8.encodeChars (encode plain text)) = Utf8.encodeChars text := by
  have whole := decode_encodeOctets_append plain faithful (Utf8.encodeChars text) []
  rwa [List.append_nil, decode, List.append_nil] at whole

/-! ## Characters of an escaped text -/

/-- Escaped texts consist of the characters that stand for themselves, of percent signs and of
upper case digits. -/
theorem forall_mem_encode {plain : UInt8 → Bool} {holds : Char → Prop}
    (itself : ∀ octet, plain octet = true → holds (Char.ofNat octet.toNat)) (sign : holds '%')
    (digit : ∀ n : Fin 16, holds (Hex.upperDigit n)) (text : List Char) :
    ∀ c ∈ encode plain text, holds c := by
  intro c inside
  obtain ⟨octet, _, written⟩ := List.mem_flatMap.mp inside
  unfold encodeOctet at written
  split at written
  · rename_i stands
    rw [List.mem_singleton.mp written]
    exact itself octet stands
  · have bound := octet.toNat_lt
    simp only [escape, Hex.upperOctet, List.mem_cons, List.not_mem_nil, or_false] at written
    rcases written with rfl | rfl | rfl
    · exact sign
    · exact digit ⟨octet.toNat / 16, by omega⟩
    · exact digit ⟨octet.toNat % 16, by omega⟩

theorem toNat_ofNat_octet (octet : UInt8) : (Char.ofNat octet.toNat).toNat = octet.toNat := by
  revert octet
  exact forall_octet (by decide +kernel)

theorem mem_of_mem_encode {plain : UInt8 → Bool} {c : Char} {text : List Char}
    (ascii : Text.isAscii c = true) (notSign : c ≠ '%')
    (notDigit : ∀ n : Fin 16, c ≠ Hex.upperDigit n) (inside : c ∈ encode plain text) :
    c ∈ text := by
  obtain ⟨octet, written, here⟩ := List.mem_flatMap.mp inside
  have bound := octet.toNat_lt
  unfold encodeOctet at here
  split at here
  · have small : c.toNat < 128 := by simpa [Text.isAscii] using ascii
    have code : c.toNat = octet.toNat := by
      rw [List.mem_singleton.mp here, toNat_ofNat_octet]
    obtain ⟨other, member, coded⟩ := List.mem_flatMap.mp written
    have otherAscii : Text.isAscii other = true := by
      refine Decidable.byContradiction fun beyond => ?_
      have large : 128 ≤ other.toNat := by simpa [Text.isAscii] using beyond
      have := Utf8.le_of_mem_utf8EncodeChar other large octet coded
      omega
    have otherSmall : other.toNat < 128 := by simpa [Text.isAscii] using otherAscii
    rw [Text.utf8EncodeChar_of_isAscii other otherAscii, List.mem_singleton] at coded
    have same : other.toNat = c.toNat := by
      rw [code, coded, UInt8.toNat_ofNat_of_lt' (by simp only [UInt8.size]; omega)]
    rwa [← Char.toNat_inj.mp same]
  · simp only [escape, Hex.upperOctet, List.mem_cons, List.not_mem_nil, or_false] at here
    rcases here with sign | high | low
    · exact absurd sign notSign
    · exact absurd high (notDigit ⟨octet.toNat / 16, by omega⟩)
    · exact absurd low (notDigit ⟨octet.toNat % 16, by omega⟩)

/-! ## Escaping again -/

def isPlain (plain : UInt8 → Bool) (c : Char) : Bool :=
  Text.isAscii c && plain (UInt8.ofNat c.toNat)

theorem encode_of_isPlain (plain : UInt8 → Bool) (text : List Char)
    (fine : ∀ c ∈ text, isPlain plain c = true) : encode plain text = text := by
  induction text with
  | nil => rfl
  | cons c rest ih =>
    have first := fine c List.mem_cons_self
    simp only [isPlain, Bool.and_eq_true] at first
    have itself : encodeOctets plain [UInt8.ofNat c.toNat] = [c] := by
      have small : c.toNat < 128 := by simpa [Text.isAscii] using first.1
      have code : (UInt8.ofNat c.toNat).toNat = c.toNat :=
        UInt8.toNat_ofNat_of_lt' (by simp only [UInt8.size]; omega)
      simp [encodeOctets, encodeOctet, first.2, code]
    have later := ih fun other inside => fine other (List.mem_cons_of_mem c inside)
    calc encode plain (c :: rest)
        = encodeOctets plain [UInt8.ofNat c.toNat] ++ encode plain rest := by
          rw [encode, Utf8.encodeChars_cons, Text.utf8EncodeChar_of_isAscii c first.1]
          exact List.flatMap_append
      _ = c :: rest := by rw [itself, later, List.singleton_append]

/-! ## The form of an escaped text -/

def isEscapeDigit (c : Char) : Bool := c.isDigit || ('A' ≤ c && c ≤ 'F')

/-- A text of characters that stand for themselves and of whole escapes. -/
inductive IsWritten (stands : Char → Prop) : List Char → Prop
  | nil : IsWritten stands []
  | itself {c : Char} {rest : List Char} (fine : stands c) (more : IsWritten stands rest) :
      IsWritten stands (c :: rest)
  | escape {high low : Char} {rest : List Char} (first : isEscapeDigit high = true)
      (second : isEscapeDigit low = true) (more : IsWritten stands rest) :
      IsWritten stands ('%' :: high :: low :: rest)

variable {stands : Char → Prop}

theorem IsWritten.append {left right : List Char} (written : IsWritten stands left)
    (too : IsWritten stands right) : IsWritten stands (left ++ right) := by
  induction written with
  | nil => exact too
  | itself fine _ ih => exact .itself fine ih
  | escape first second _ ih => exact .escape first second ih

theorem IsWritten.join {separator : Char} (fine : stands separator) {pieces : List (List Char)}
    (written : ∀ piece ∈ pieces, IsWritten stands piece) :
    IsWritten stands (Text.join separator pieces) := by
  induction pieces with
  | nil => exact .nil
  | cons piece more ih =>
    have first := written piece List.mem_cons_self
    cases more with
    | nil => exact first
    | cons next others =>
      have later := ih fun other inside => written other (List.mem_cons_of_mem piece inside)
      exact first.append (.itself fine later)

theorem isWritten_encode {plain : UInt8 → Bool}
    (itself : ∀ octet, plain octet = true → stands (Char.ofNat octet.toNat)) (text : List Char) :
    IsWritten stands (encode plain text) := by
  have digit : ∀ n : Fin 16, isEscapeDigit (Hex.upperDigit n) = true := by decide
  have all : ∀ octets : Octets, IsWritten stands (encodeOctets plain octets) := by
    intro octets
    induction octets with
    | nil => exact .nil
    | cons octet rest ih =>
      have first : IsWritten stands (encodeOctet plain octet) := by
        unfold encodeOctet
        split
        · rename_i plainly
          exact .itself (itself octet plainly) .nil
        · have bound := octet.toNat_lt
          exact .escape (digit ⟨octet.toNat / 16, by omega⟩) (digit ⟨octet.toNat % 16, by omega⟩)
            .nil
      exact first.append ih
  exact all _

end Percent

end ObjectTransfer
