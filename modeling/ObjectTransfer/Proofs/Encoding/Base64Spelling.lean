import Mathlib.Algebra.Group.Nat.Defs
import ObjectTransfer.Proofs.Encoding.Base64Url

/-!
# What a base64 text spells

A letter of the alphabet stands for six binary digits, an octet for eight.  A text
spells octets if its digits are those of the octets, with as few zeros after them
as fill up the last letter.  What is written for octets spells them, and since the
zeros are fewer than the digits of a letter, no other text does.
-/

set_option autoImplicit false

namespace ObjectTransfer.Base64Url

/-! ## Binary digits -/

/-- The lowest binary digits of a number, the highest of these first. -/
def bits : Nat → Nat → List Bool
  | 0, _ => []
  | count + 1, value => bits count (value / 2) ++ [value % 2 == 1]

theorem length_bits (count value : Nat) : (bits count value).length = count := by
  induction count generalizing value with
  | zero => rfl
  | succ count ih => rw [bits, List.length_append, ih, List.length_singleton]

theorem bits_zero (count : Nat) : bits count 0 = List.replicate count false := by
  induction count with
  | zero => rfl
  | succ count ih =>
    rw [bits, Nat.zero_div, ih, List.replicate_succ']
    rfl

theorem bits_mul_add (high low count lower : Nat) (small : low < 2 ^ lower) :
    bits (count + lower) (high * 2 ^ lower + low) = bits count high ++ bits lower low := by
  induction lower generalizing low with
  | zero =>
    obtain rfl : low = 0 := by simpa using small
    simp [bits]
  | succ lower ih =>
    have half : (high * 2 ^ (lower + 1) + low) / 2 = high * 2 ^ lower + low / 2 := by
      rw [Nat.pow_succ, ← Nat.mul_assoc]
      omega
    have last : (high * 2 ^ (lower + 1) + low) % 2 = low % 2 := by
      rw [Nat.pow_succ, ← Nat.mul_assoc]
      omega
    rw [← Nat.add_assoc, bits, half, last, ih (low / 2) (by rw [Nat.pow_succ] at small; omega), bits,
      List.append_assoc]

theorem bits_mul (high count lower : Nat) :
    bits (count + lower) (high * 2 ^ lower) = bits count high ++ List.replicate lower false := by
  have split := bits_mul_add high 0 count lower (Nat.two_pow_pos lower)
  rwa [Nat.add_zero, bits_zero] at split

theorem bits_inj {count value other : Nat} (small : value < 2 ^ count) (less : other < 2 ^ count)
    (same : bits count value = bits count other) : value = other := by
  induction count generalizing value other with
  | zero => omega
  | succ count ih =>
    rw [bits, bits] at same
    obtain ⟨front, last⟩ := List.append_inj' same rfl
    rw [Nat.pow_succ] at small less
    have halves := ih (by omega) (by omega) front
    have parity : (value % 2 == 1) = (other % 2 == 1) := List.singleton_inj.mp last
    rw [Bool.eq_iff_iff, beq_iff_eq, beq_iff_eq] at parity
    omega

/-! ## Spelling -/

def alphabet : List Char :=
  "ABCDEFGHIJKLMNOPQRSTUVWXYZabcdefghijklmnopqrstuvwxyz0123456789-_".toList

/-- Every letter stands for six bits.  All of them together are those of the octets, and then fewer
than six zeros. -/
structure Spells (text : List Char) (octets : Octets) : Prop where
  letters : ∀ c ∈ text, c ∈ alphabet
  digits : ∃ spare < 6, text.flatMap (fun c => bits 6 (alphabet.idxOf c)) =
    octets.flatMap (fun octet => bits 8 octet.toNat) ++ List.replicate spare false

/-! ## The written form spells its octets -/

def letter (octet : UInt8) : Char := Char.ofNat octet.toNat

theorem letter_symbol (value : Nat) (small : value < 64) :
    letter (symbol value) ∈ alphabet ∧ alphabet.idxOf (letter (symbol value)) = value := by
  have all : ∀ index : Fin 64, letter (symbol index.val) ∈ alphabet ∧
      alphabet.idxOf (letter (symbol index.val)) = index.val := by decide +kernel
  exact all ⟨value, small⟩

theorem bits_octet (octet : UInt8) (count lower : Nat) (whole : count + lower = 8) :
    bits 8 octet.toNat =
      bits count (octet.toNat / 2 ^ lower) ++ bits lower (octet.toNat % 2 ^ lower) := by
  have split := bits_mul_add (octet.toNat / 2 ^ lower) (octet.toNat % 2 ^ lower) count lower
    (Nat.mod_lt _ (Nat.two_pow_pos lower))
  rwa [whole, Nat.div_add_mod'] at split

theorem bits_encode (octets : Octets) : ∃ spare < 6,
    ((encode octets).map letter).flatMap (fun c => bits 6 (alphabet.idxOf c)) =
      octets.flatMap (fun octet => bits 8 octet.toNat) ++ List.replicate spare false := by
  have read : ∀ value < 64, bits 6 (alphabet.idxOf (letter (symbol value))) = bits 6 value :=
    fun value small => by rw [(letter_symbol value small).2]
  -- An octet is cut after its sixth bit, the next after its fourth and the third after its second.
  have six : ∀ a : UInt8, bits 8 a.toNat = bits 6 (a.toNat / 4) ++ bits 2 (a.toNat % 4) :=
    fun a => bits_octet a 6 2 rfl
  have four : ∀ b : UInt8, bits 8 b.toNat = bits 4 (b.toNat / 16) ++ bits 4 (b.toNat % 16) :=
    fun b => bits_octet b 4 4 rfl
  have two : ∀ c : UInt8, bits 8 c.toNat = bits 2 (c.toNat / 64) ++ bits 6 (c.toNat % 64) :=
    fun c => bits_octet c 2 6 rfl
  have second : ∀ high low, low < 16 → bits 6 (high * 16 + low) = bits 2 high ++ bits 4 low :=
    fun high low small => bits_mul_add high low 2 4 small
  have third : ∀ high low, low < 4 → bits 6 (high * 4 + low) = bits 4 high ++ bits 2 low :=
    fun high low small => bits_mul_add high low 4 2 small
  induction octets using encode.induct with
  | case1 => exact ⟨0, by omega, rfl⟩
  | case2 a =>
    have := a.toNat_lt
    refine ⟨4, by omega, ?_⟩
    have last : bits 6 (a.toNat % 4 * 16) = bits 2 (a.toNat % 4) ++ List.replicate 4 false :=
      bits_mul (a.toNat % 4) 2 4
    simp only [encode, List.map_cons, List.map_nil, List.flatMap_cons, List.flatMap_nil]
    rw [read _ (by omega), read _ (by omega), last, six]
    simp only [List.append_nil, List.append_assoc]
  | case3 a b =>
    have := a.toNat_lt
    have := b.toNat_lt
    refine ⟨2, by omega, ?_⟩
    have last : bits 6 (b.toNat % 16 * 4) = bits 4 (b.toNat % 16) ++ List.replicate 2 false :=
      bits_mul (b.toNat % 16) 4 2
    simp only [encode, List.map_cons, List.map_nil, List.flatMap_cons, List.flatMap_nil]
    rw [read _ (by omega), read _ (by omega), read _ (by omega), second _ _ (by omega), last, six,
      four]
    simp only [List.append_nil, List.append_assoc]
  | case4 a b c rest ih =>
    have := a.toNat_lt
    have := b.toNat_lt
    have := c.toNat_lt
    obtain ⟨spare, few, others⟩ := ih
    refine ⟨spare, few, ?_⟩
    simp only [encode, List.map_cons, List.flatMap_cons]
    rw [read _ (by omega), read _ (by omega), read _ (by omega), read _ (by omega), others,
      second _ _ (by omega), third _ _ (by omega), six, four, two]
    simp only [List.append_assoc]

theorem spells_encode (octets : Octets) : Spells ((encode octets).map letter) octets where
  letters := by
    intro c inside
    obtain ⟨written, member, rfl⟩ := List.mem_map.mp inside
    obtain ⟨value, small, rfl⟩ := exists_symbol_of_mem_encode octets written member
    exact (letter_symbol value small).1
  digits := bits_encode octets

/-! ## Nothing else spells them -/

theorem eq_of_bits {text other : List Char} (letters : ∀ c ∈ text, c ∈ alphabet)
    (others : ∀ c ∈ other, c ∈ alphabet) (long : text.length = other.length)
    (same : text.flatMap (fun c => bits 6 (alphabet.idxOf c)) =
      other.flatMap (fun c => bits 6 (alphabet.idxOf c))) : text = other := by
  induction text generalizing other with
  | nil => exact (List.length_eq_zero_iff.mp long.symm).symm
  | cons c rest ih =>
    cases other with
    | nil => cases long
    | cons d more =>
      obtain ⟨first, later⟩ := List.append_inj same (by rw [length_bits, length_bits])
      have here := letters c List.mem_cons_self
      have there := others d List.mem_cons_self
      have index := bits_inj (List.idxOf_lt_length_of_mem here) (List.idxOf_lt_length_of_mem there)
        first
      have same : c = d := by
        rw [← List.getElem_idxOf (List.idxOf_lt_length_of_mem here),
          ← List.getElem_idxOf (List.idxOf_lt_length_of_mem there)]
        simp only [index]
      have behind := ih (fun e inside => letters e (List.mem_cons_of_mem c inside))
        (fun e inside => others e (List.mem_cons_of_mem d inside)) (Nat.succ.inj long) later
      rw [same, behind]

theorem length_digits (text : List Char) :
    (text.flatMap fun c => bits 6 (alphabet.idxOf c)).length = 6 * text.length := by
  induction text with
  | nil => rfl
  | cons c rest ih =>
    rw [List.flatMap_cons, List.length_append, length_bits, ih, List.length_cons]
    omega

theorem length_octets (octets : Octets) :
    (octets.flatMap fun octet => bits 8 octet.toNat).length = 8 * octets.length := by
  induction octets with
  | nil => rfl
  | cons octet rest ih =>
    rw [List.flatMap_cons, List.length_append, length_bits, ih, List.length_cons]
    omega

theorem Spells.length {text : List Char} {octets : Octets} (spells : Spells text octets) :
    text.length = (8 * octets.length + 5) / 6 := by
  obtain ⟨spare, few, digits⟩ := spells.digits
  have same := congrArg List.length digits
  rw [length_digits, List.length_append, length_octets, List.length_replicate] at same
  omega

theorem Spells.eq {text other : List Char} {octets : Octets} (spells : Spells text octets)
    (also : Spells other octets) : text = other := by
  have long : text.length = other.length := spells.length.trans also.length.symm
  obtain ⟨spare, few, digits⟩ := spells.digits
  obtain ⟨extra, less, others⟩ := also.digits
  have first := congrArg List.length digits
  have second := congrArg List.length others
  rw [length_digits, List.length_append, List.length_replicate] at first second
  obtain rfl : spare = extra := by omega
  exact eq_of_bits spells.letters also.letters long (digits.trans others.symm)

end ObjectTransfer.Base64Url
