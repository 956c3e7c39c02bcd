import Mathlib.Tactic.SplitIfs
import ObjectTransfer.Json.Reader
import ObjectTransfer.Json.Writer
import ObjectTransfer.Proofs.Control.Outcome
import ObjectTransfer.Proofs.Encoding.Utf8

/-!
# Written texts are read back

A text is written character by character, and the reader follows the octets of
each character: an escape becomes the character that it stands for, and the
octets of any other character pass unchanged, since none of them is a quote, a
backslash or a control character.
-/

set_option autoImplicit false

namespace ObjectTransfer.Json.Reader

theorem prepend_prepend (first second : Octets) (result : Except Stop (Octets × Octets)) :
    prepend first (prepend second result) = prepend (first ++ second) result := by
  cases result with
  | error stop => rfl
  | ok pair => simp [prepend, Except.map]

/-! ## One character -/

theorem textOctets_plain (plain rest : Octets)
    (clear : ∀ octet ∈ plain, octet ≠ 34 ∧ octet ≠ 92 ∧ ¬ octet < 32) :
    textOctets .outside (plain ++ rest) = prepend plain (textOctets .outside rest) := by
  induction plain with
  | nil =>
    cases read : textOctets .outside rest <;> simp [prepend, Except.map, read]
  | cons octet more ih =>
    obtain ⟨notQuote, notSlash, notControl⟩ := clear octet List.mem_cons_self
    have moreClear : ∀ later ∈ more, later ≠ 34 ∧ later ≠ 92 ∧ ¬ later < 32 :=
      fun later inside => clear later (List.mem_cons_of_mem _ inside)
    rw [List.cons_append, textOctets, if_neg notQuote, if_neg notSlash, if_neg notControl,
      ih moreClear, prepend_prepend, List.singleton_append]

theorem clear_utf8EncodeChar (c : Char) (notQuote : c ≠ '"') (notSlash : c ≠ '\\')
    (notControl : ¬ c.toNat < 32) (octet : UInt8) (inside : octet ∈ String.utf8EncodeChar c) :
    octet ≠ 34 ∧ octet ≠ 92 ∧ ¬ octet < 32 := by
  by_cases small : c.toNat < 128
  · have ascii : Text.isAscii c = true := by simpa [Text.isAscii] using small
    rw [Text.utf8EncodeChar_of_isAscii c ascii, List.mem_singleton] at inside
    have code : octet.toNat = c.toNat := by
      rw [inside, UInt8.toNat_ofNat_of_lt' (by simp only [UInt8.size]; omega)]
    refine ⟨?_, ?_, ?_⟩
    · rintro rfl
      exact notQuote (Char.toNat_inj.mp code.symm)
    · rintro rfl
      exact notSlash (Char.toNat_inj.mp code.symm)
    · intro control
      have below : octet.toNat < 32 := UInt8.lt_iff_toNat_lt.mp control
      omega
  · have large := Utf8.le_of_mem_utf8EncodeChar c (by omega) octet inside
    refine ⟨?_, ?_, ?_⟩
    · rintro rfl
      exact absurd large (by decide)
    · rintro rfl
      exact absurd large (by decide)
    · intro control
      have below : octet.toNat < 32 := UInt8.lt_iff_toNat_lt.mp control
      omega

theorem textOctets_digits (code : Nat) (control : code < 32) (rest : Octets) :
    textOctets .outside (Utf8.encodeChars
        ['\\', 'u', '0', '0', Hex.digit (code / 16), Hex.digit (code % 16)] ++ rest) =
      prepend (octetsOf code) (textOctets .outside rest) := by
  have all : ∀ place : Fin 32, ∃ high low : UInt8,
      Utf8.encodeChars ['\\', 'u', '0', '0', Hex.digit (place.val / 16),
        Hex.digit (place.val % 16)] = [92, 117, 48, 48, high, low] ∧
      hexValue? [48, 48, high, low] = some place.val ∧
      isTrail place.val = false ∧ isLead place.val = false := by
    intro place
    refine ⟨UInt8.ofNat (Hex.digit (place.val / 16)).toNat,
      UInt8.ofNat (Hex.digit (place.val % 16)).toNat, ?_⟩
    revert place
    decide
  obtain ⟨high, low, written, value, notTrail, notLead⟩ := all ⟨code, control⟩
  rw [written]
  simp [textOctets, value, notTrail, notLead]

theorem textOctets_escaped (c : Char) (rest : Octets) :
    textOctets .outside (Utf8.encodeChars (escaped c) ++ rest) =
      prepend (String.utf8EncodeChar c) (textOctets .outside rest) := by
  have letter : ∀ (mark : Char) (written plain : UInt8),
      Utf8.encodeChars ['\\', mark] = [92, written] → letter? written = some plain →
      written ≠ 117 → String.utf8EncodeChar c = [plain] →
      textOctets .outside (Utf8.encodeChars ['\\', mark] ++ rest) =
        prepend (String.utf8EncodeChar c) (textOctets .outside rest) := by
    intro mark written plain octets meaning notDigits same
    simp [octets, textOctets, notDigits, meaning, same]
  unfold escaped
  split_ifs with quote slash back feed line carriage tab control
  · exact letter '"' 34 34 rfl rfl (by decide) (by rw [quote]; rfl)
  · exact letter '\\' 92 92 rfl rfl (by decide) (by rw [slash]; rfl)
  · exact letter 'b' 98 8 rfl rfl (by decide) (by rw [back]; rfl)
  · exact letter 'f' 102 12 rfl rfl (by decide) (by rw [feed]; rfl)
  · exact letter 'n' 110 10 rfl rfl (by decide) (by rw [line]; rfl)
  · exact letter 'r' 114 13 rfl rfl (by decide) (by rw [carriage]; rfl)
  · exact letter 't' 116 9 rfl rfl (by decide) (by rw [tab]; rfl)
  · rw [textOctets_digits c.toNat control rest, octetsOf, Char.ofNat_toNat]
    simp [Utf8.encodeChars]
  · rw [Utf8.encodeChars_cons, show Utf8.encodeChars [] = [] from rfl, List.append_nil]
    exact textOctets_plain _ rest (clear_utf8EncodeChar c quote slash control)

/-! ## Whole texts -/

theorem textOctets_written (text : List Char) (rest : Octets) :
    textOctets .outside (Utf8.encodeChars (text.flatMap escaped) ++ 34 :: rest) =
      .ok (Utf8.encodeChars text, rest) := by
  induction text with
  | nil => rfl
  | cons c more ih =>
    rw [List.flatMap_cons, Utf8.encodeChars_append, List.append_assoc, textOctets_escaped, ih,
      Utf8.encodeChars_cons]
    rfl

/-- Behind its opening quote, a written text is read back as it was. -/
theorem textTail_written (text : String) (rest : Octets) :
    textTail (Utf8.encodeChars (text.toList.flatMap escaped ++ ['"']) ++ rest) =
      .ok (text, rest) := by
  have quote : Utf8.encodeChars ['"'] = [34] := rfl
  rw [Utf8.encodeChars_append, quote, List.append_assoc, List.singleton_append, textTail,
    textOctets_written, ok_bind]
  simp only [Utf8.decode_encodeChars, String.ofList_toList]

end ObjectTransfer.Json.Reader
