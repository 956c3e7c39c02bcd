/-!
# Binary floating point numbers

A finite binary number of sixty-four bits is a sign, a significand below 2^53 and a power of two
from -1074 to 971. Products and quotients are computed exactly and then rounded to the nearest
number, a tie going to the even significand; a magnitude beyond the largest number is no number.

`ofDecimal` reads digits and a power of ten the quick way: the digits are rounded first, then
multiplied or divided once by a rounded power of ten. So the result may be off by one unit in the
last place from the decimal's nearest number, and it is the same in every run.
-/

set_option autoImplicit false

namespace ObjectTransfer

structure Binary64 where
  negative : Bool
  significand : Nat
  power : Int
  deriving DecidableEq, Repr

namespace Binary64

def leastFull : Nat := 1 <<< 52

def tenTo (places : Nat) : Nat := Nat.pow 10 places

/-- A positive numerator and denominator of `significand * 2 ^ power`. -/
def ratio (significand : Nat) (power : Int) : Nat × Nat :=
  if power < 0 then (significand, 1 <<< power.natAbs) else (significand <<< power.natAbs, 1)

/-- The nearest whole number to a quotient, a tie going to the even one. -/
def nearest (numerator denominator : Nat) : Nat :=
  let whole := numerator / denominator
  let twice := 2 * (numerator % denominator)
  if twice < denominator then whole
  else if denominator < twice then whole + 1
  else whole + whole % 2

/-- The power of two whose unit gives a quotient fifty-three binary digits, or the least power. -/
def unitPower (numerator denominator : Nat) : Int :=
  let estimate : Int := Int.ofNat numerator.log2 - Int.ofNat denominator.log2 - 52
  let (scaled, unit) := ratio denominator (estimate + 52)
  let exact := if numerator * unit < scaled then estimate - 1 else estimate
  max exact (-1074)

/-- A non-negative quotient, rounded; none beyond the largest number. -/
def roundRatio (negative : Bool) (numerator denominator : Nat) : Option Binary64 :=
  if numerator = 0 then some ⟨negative, 0, -1074⟩
  else
    let power := unitPower numerator denominator
    let (scaled, unit) := ratio denominator power
    let digits := nearest (numerator * unit) scaled
    let (digits, power) := if digits = 2 * leastFull then (leastFull, power + 1) else (digits, power)
    if 971 < power then none else some ⟨negative, digits, power⟩

def ofNat (n : Nat) : Option Binary64 := roundRatio false n 1

def isZero (x : Binary64) : Bool := x.significand == 0

def scaledBy (x : Binary64) (numerator denominator : Nat) : Option Binary64 :=
  let (top, bottom) := ratio x.significand x.power
  roundRatio x.negative (top * numerator) (bottom * denominator)

/-- Multiplies by a power of ten that is first rounded itself. -/
def timesTen (x : Binary64) (places : Nat) : Option Binary64 := do
  let ten ← ofNat (tenTo places)
  let (top, bottom) := ratio ten.significand ten.power
  x.scaledBy top bottom

def overTen (x : Binary64) (places : Nat) : Option Binary64 := do
  let ten ← ofNat (tenTo places)
  let (top, bottom) := ratio ten.significand ten.power
  x.scaledBy bottom top

/-- The power of ten beyond which a single factor would leave the range. -/
def largestTen : Nat := 308

def shrink (x : Binary64) : Nat → Option Binary64
  | 0 => some x
  | steps + 1 => if x.isZero then some x else do shrink (← x.overTen largestTen) steps

/-- Divides by a power of ten of any size, in steps that stay within the range. -/
def overAnyTen (x : Binary64) (places : Nat) : Option Binary64 := do
  let steps := (places - 1) / largestTen
  let smaller ← x.shrink steps
  if smaller.isZero then some smaller else smaller.overTen (places - steps * largestTen)

/-- The number with the given decimal digits times a power of ten; none if it is too large. -/
def ofDecimal (negative : Bool) (digits : Nat) (exponent : Int) : Option Binary64 := do
  let start ← ofNat digits
  let signed := { start with negative := negative }
  if exponent < 0 then signed.overAnyTen exponent.natAbs
  else if signed.isZero then some signed
  else if largestTen < exponent.natAbs then none
  else signed.timesTen exponent.natAbs

end Binary64

end ObjectTransfer
