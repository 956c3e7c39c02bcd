import ObjectTransfer.Encoding.Utf8
import ObjectTransfer.Text.Ascii

/-!
# Texts are told apart by their octets

Two texts with the same octets are the same text.  An octet below 128 stands
for a character of its own, and the octets of any other character all lie at
128 or above, so nothing in ASCII is ever found inside a longer character.
-/

set_option autoImplicit false

namespace ObjectTransfer.Utf8

theorem decode_encodeChars (text : List Char) :
    decode? (encodeChars text) = some (String.ofList text) := by
  have whole := decode_encode (String.ofList text)
  rwa [encode, String.toList_ofList] at whole

theorem encodeChars_injective (left right : List Char)
    (same : encodeChars left = encodeChars right) : left = right := by
  have decoded := decode_encodeChars left
  rw [same, decode_encodeChars right] at decoded
  exact (String.ofList_injective (Option.some.inj decoded)).symm

theorem le_of_mem_utf8EncodeChar (c : Char) (large : 128 ≤ c.toNat) (octet : UInt8)
    (inside : octet ∈ String.utf8EncodeChar c) : 128 ≤ octet.toNat := by
  have notOne : ¬ c.val.toNat ≤ 127 := by
    have same : c.val.toNat = c.toNat := rfl
    omega
  -- Each octet is a mark of at least 128 with some bits of the code point below it.
  have marked : ∀ value width mark : Nat, 0 < width → 128 ≤ mark → mark + width ≤ 256 →
      128 ≤ (UInt8.ofNat (value % width + mark)).toNat := by
    intro value width mark positive high fits
    have below := Nat.mod_lt value positive
    rw [UInt8.toNat_ofNat_of_lt' (by simp only [UInt8.size]; omega)]
    omega
  simp only [String.utf8EncodeChar, notOne, if_false] at inside
  split at inside
  · simp only [List.mem_cons, List.not_mem_nil, or_false] at inside
    rcases inside with rfl | rfl
    · exact marked _ _ _ (by omega) (by omega) (by omega)
    · exact marked _ _ _ (by omega) (by omega) (by omega)
  · split at inside
    · simp only [List.mem_cons, List.not_mem_nil, or_false] at inside
      rcases inside with rfl | rfl | rfl
      · exact marked _ _ _ (by omega) (by omega) (by omega)
      · exact marked _ _ _ (by omega) (by omega) (by omega)
      · exact marked _ _ _ (by omega) (by omega) (by omega)
    · simp only [List.mem_cons, List.not_mem_nil, or_false] at inside
      rcases inside with rfl | rfl | rfl | rfl
      · exact marked _ _ _ (by omega) (by omega) (by omega)
      · exact marked _ _ _ (by omega) (by omega) (by omega)
      · exact marked _ _ _ (by omega) (by omega) (by omega)
      · exact marked _ _ _ (by omega) (by omega) (by omega)

theorem encodeChars_ofNat (octets : Octets) (small : ∀ octet ∈ octets, octet.toNat < 128) :
    encodeChars (octets.map fun octet => Char.ofNat octet.toNat) = octets := by
  induction octets with
  | nil => rfl
  | cons octet rest ih =>
    have octetSmall : octet.toNat < 128 := small octet List.mem_cons_self
    have restSmall : ∀ later ∈ rest, later.toNat < 128 :=
      fun later inside => small later (List.mem_cons_of_mem _ inside)
    have codes : ∀ code : Fin 128, (Char.ofNat code.val).toNat = code.val := by decide
    have code : (Char.ofNat octet.toNat).toNat = octet.toNat := codes ⟨octet.toNat, octetSmall⟩
    have ascii : Text.isAscii (Char.ofNat octet.toNat) = true := by
      simpa [Text.isAscii, code] using octetSmall
    rw [List.map_cons, encodeChars_cons, ih restSmall, Text.utf8EncodeChar_of_isAscii _ ascii,
      code, UInt8.ofNat_toNat, List.singleton_append]

end ObjectTransfer.Utf8
