import ObjectTransfer.Json.Writer
import ObjectTransfer.Proofs.Json.Reading

/-!
# Written whole numbers are read back

The digits of a number are its last digit behind the digits of its tenth part,
and the reader appends digit by digit in the same way.  A number of sixty-four
bits, with or without a sign, never overflows the reader on the way and so stays
a whole number.
-/

set_option autoImplicit false

namespace ObjectTransfer.Json.Reader

def decimal (n : Nat) : Octets := Utf8.encodeChars (Nat.toDigits 10 n)

/-! ## Digits -/

theorem encodeChars_digitChar (digit : Nat) (small : digit < 10) :
    Utf8.encodeChars [digit.digitChar] = [UInt8.ofNat (48 + digit)] := by
  have all : ∀ place : Fin 10,
      Utf8.encodeChars [place.val.digitChar] = [UInt8.ofNat (48 + place.val)] := by decide
  exact all ⟨digit, small⟩

theorem isDigit_ofNat (digit : Nat) (small : digit < 10) :
    isDigit (UInt8.ofNat (48 + digit)) = true := by
  have all : ∀ place : Fin 10, isDigit (UInt8.ofNat (48 + place.val)) = true := by decide
  exact all ⟨digit, small⟩

theorem eq_of_isDigit (octet : UInt8) (digit : isDigit octet = true) :
    octet = 48 ∨ octet = 49 ∨ octet = 50 ∨ octet = 51 ∨ octet = 52 ∨ octet = 53 ∨ octet = 54 ∨
      octet = 55 ∨ octet = 56 ∨ octet = 57 := by
  simp only [isDigit, Bool.and_eq_true, decide_eq_true_eq, UInt8.le_iff_toNat_le] at digit
  simp only [← UInt8.toNat_inj]
  have low : (48 : UInt8).toNat ≤ octet.toNat := digit.1
  have high : octet.toNat ≤ (57 : UInt8).toNat := digit.2
  simp only [UInt8.reduceToNat] at low high ⊢
  omega

theorem digitValue_ofNat (digit : Nat) (small : digit < 10) :
    digitValue (UInt8.ofNat (48 + digit)) = digit := by
  have all : ∀ place : Fin 10, digitValue (UInt8.ofNat (48 + place.val)) = place.val := by decide
  exact all ⟨digit, small⟩

theorem decimal_small (n : Nat) (small : n < 10) : decimal n = [UInt8.ofNat (48 + n)] := by
  rw [decimal, Nat.toDigits_of_lt_base small, encodeChars_digitChar n small]

theorem decimal_large (n : Nat) (large : 10 ≤ n) :
    decimal n = decimal (n / 10) ++ [UInt8.ofNat (48 + n % 10)] := by
  rw [decimal, Nat.toDigits_of_base_le (by omega) large, Utf8.encodeChars_append,
    encodeChars_digitChar (n % 10) (Nat.mod_lt n (by omega)), decimal]

theorem decimal_shape (n : Nat) : ∃ first more, decimal n = first :: more ∧
    isDigit first = true ∧ (∀ octet ∈ more, isDigit octet = true) ∧
    (first = 48 → n = 0 ∧ more = []) := by
  induction n using Nat.strongRecOn with
  | ind n ih =>
    by_cases small : n < 10
    · refine ⟨UInt8.ofNat (48 + n), [], decimal_small n small, isDigit_ofNat n small, by simp, ?_⟩
      intro zero
      have value := digitValue_ofNat n small
      rw [zero] at value
      exact ⟨value.symm, rfl⟩
    · obtain ⟨first, more, digits, firstDigit, moreDigits, noZero⟩ := ih (n / 10) (by omega)
      refine ⟨first, more ++ [UInt8.ofNat (48 + n % 10)], ?_, firstDigit, ?_, ?_⟩
      · rw [decimal_large n (by omega), digits, List.cons_append]
      · intro octet inside
        rcases List.mem_append.mp inside with earlier | last
        · exact moreDigits octet earlier
        · rw [List.mem_singleton.mp last]
          exact isDigit_ofNat (n % 10) (Nat.mod_lt n (by omega))
      · intro zero
        have tenth := (noZero zero).1
        omega

/-! ## The value of digits -/

theorem appendDigits_append (limit : Nat) (earlier later : Octets) :
    ∀ value middle : Nat, appendDigits limit value earlier = (middle, []) →
      appendDigits limit value (earlier ++ later) = appendDigits limit middle later := by
  induction earlier with
  | nil =>
    intro value middle read
    have same : value = middle := congrArg Prod.fst read
    rw [List.nil_append, same]
  | cons octet rest ih =>
    intro value middle read
    simp only [List.cons_append, appendDigits] at read ⊢
    split at read
    · cases read
    · rename_i fits
      rw [if_neg fits]
      exact ih _ _ read

theorem appendDigits_decimal (limit n : Nat) (fits : n ≤ limit) :
    appendDigits limit 0 (decimal n) = (n, []) := by
  induction n using Nat.strongRecOn with
  | ind n ih =>
    by_cases small : n < 10
    · rw [decimal_small n small]
      simp only [appendDigits, digitValue_ofNat n small, Nat.zero_mul, Nat.zero_add]
      rw [if_neg (by omega)]
    · have tenth := ih (n / 10) (by omega) (by omega)
      have whole : n / 10 * 10 + n % 10 = n := by omega
      rw [decimal_large n (by omega), appendDigits_append limit _ _ _ _ tenth]
      simp only [appendDigits, digitValue_ofNat (n % 10) (Nat.mod_lt n (by omega)), whole]
      rw [if_neg (by omega)]

/-! ## Numbers -/

theorem not_isDigit_of_follows (rest : Octets) (follows : Follows rest) :
    ∀ octet ∈ rest.head?, isDigit octet = false := by
  intro octet here
  rcases follows octet here with rfl | rfl | rfl <;> decide

theorem digits_read (front rest : Octets) (digitsOnly : ∀ octet ∈ front, isDigit octet = true)
    (ends : ∀ octet ∈ rest.head?, isDigit octet = false) :
    digits (front ++ rest) = .ok (front, rest) := by
  have restStops : rest.takeWhile isDigit = [] ∧ rest.dropWhile isDigit = rest := by
    cases rest with
    | nil => exact ⟨rfl, rfl⟩
    | cons octet more => simp [List.takeWhile, List.dropWhile, ends octet rfl]
  change Except.ok ((front ++ rest).takeWhile isDigit, (front ++ rest).dropWhile isDigit) = _
  rw [List.takeWhile_append_of_pos digitsOnly, List.dropWhile_append_of_pos digitsOnly,
    restStops.1, restStops.2, List.append_nil]

/-- The number that digits and a sign make up; where it is no whole number, it becomes binary. -/
theorem number_read (negative : Bool) (n : Nat) (fits : n ≤ largestWord) (rest : Octets)
    (follows : Follows rest) :
    number negative (decimal n ++ rest) =
      if negative = false then .ok (.integer n, rest)
      else if n = 0 ∨ UInt64.size / 2 < n then floatOf true n 0 rest
      else .ok (.integer (-n), rest) := by
  obtain ⟨first, more, written, firstDigit, moreDigits, noZero⟩ := decimal_shape n
  have firstRead : requiredDigit (decimal n ++ rest) = .ok (first, more ++ rest) := by
    simp [requiredDigit, written, firstDigit]
  have moreRead := digits_read more rest moreDigits (not_isDigit_of_follows rest follows)
  have noLeadingZero : ¬ (first = 48 ∧ more ≠ []) := fun zero => zero.2 (noZero zero.1).2
  have value : appendDigits largestWord (digitValue first) more = (n, []) := by
    have whole := appendDigits_decimal largestWord n fits
    rw [written] at whole
    simp only [appendDigits, Nat.zero_mul, Nat.zero_add] at whole
    split at whole
    · cases whole
    · exact whole
  have settled : (if ([] : Octets) ≠ [] then floatOf negative n 0
      else if negative = false then pure (.integer n)
      else if n = 0 ∨ UInt64.size / 2 < n then floatOf true n 0
      else pure (.integer (-n)) : Reader Number) rest =
        if negative = false then .ok (.integer n, rest)
        else if n = 0 ∨ UInt64.size / 2 < n then floatOf true n 0 rest
        else .ok (.integer (-n), rest) := by
    simp only [ne_eq, not_true_eq_false, if_false]
    split
    · rfl
    · split <;> rfl
  rw [number, bind_read _ _ _ _ _ firstRead, bind_read _ _ _ _ _ moreRead, if_neg noLeadingZero,
    value]
  dsimp only
  rw [bind_read _ _ _ _ _ (peek_read rest)]
  cases here : rest.head? with
  | none => exact settled
  | some octet => rcases follows octet here with rfl | rfl | rfl <;> exact settled

end ObjectTransfer.Json.Reader
