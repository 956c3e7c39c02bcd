import ObjectTransfer.Encoding.Utf8

/-!
# Hexadecimal digits

A digit value below sixteen is written as one character, in lower case (`digit`) or upper case
(`upperDigit`); `value?` reads either. `encode` writes two lower case digits per octet, and
`decode?` reads pairs of digits of either case.
-/

set_option autoImplicit false

namespace ObjectTransfer.Hex

def digit (n : Nat) : Char :=
  if n < 10 then Char.ofNat (48 + n) else Char.ofNat (87 + n)

def upperDigit (n : Nat) : Char :=
  if n < 10 then Char.ofNat (48 + n) else Char.ofNat (55 + n)

def value? (c : Char) : Option Nat :=
  if '0' ≤ c ∧ c ≤ '9' then some (c.toNat - 48)
  else if 'a' ≤ c ∧ c ≤ 'f' then some (c.toNat - 87)
  else if 'A' ≤ c ∧ c ≤ 'F' then some (c.toNat - 55)
  else none

def octet (b : UInt8) : List Char := [digit (b.toNat / 16), digit (b.toNat % 16)]

def upperOctet (b : UInt8) : List Char := [upperDigit (b.toNat / 16), upperDigit (b.toNat % 16)]

def encode (octets : Octets) : List Char := octets.flatMap octet

def decode? : List Char → Option Octets
  | [] => some []
  | [_] => none
  | high :: low :: rest =>
    match value? high, value? low with
    | some h, some l => (decode? rest).map (UInt8.ofNat (16 * h + l) :: ·)
    | _, _ => none

def digits (n : Nat) : List Char := Nat.toDigits 16 n

theorem value_digit : ∀ n : Fin 16, value? (digit n) = some n.val := by decide

theorem forall_mem_encode {holds : Char → Prop} (all : ∀ n : Fin 16, holds (digit n))
    (octets : Octets) : ∀ c ∈ encode octets, holds c := by
  intro c inside
  obtain ⟨b, _, written⟩ := List.mem_flatMap.mp inside
  have bound := b.toNat_lt
  simp only [octet, List.mem_cons, List.not_mem_nil, or_false] at written
  rcases written with rfl | rfl
  · exact all ⟨b.toNat / 16, by omega⟩
  · exact all ⟨b.toNat % 16, by omega⟩

theorem decode_encode (octets : Octets) : decode? (encode octets) = some octets := by
  induction octets with
  | nil => rfl
  | cons b rest ih =>
    have bound : b.toNat < 256 := b.toNat_lt
    have high := value_digit ⟨b.toNat / 16, by omega⟩
    have low := value_digit ⟨b.toNat % 16, by omega⟩
    simp only [encode, List.flatMap_cons, octet, List.cons_append, List.nil_append, decode?] at ih ⊢
    simp only [high, low]
    rw [ih]
    have whole : 16 * (b.toNat / 16) + b.toNat % 16 = b.toNat := by omega
    simp [whole]

end ObjectTransfer.Hex
