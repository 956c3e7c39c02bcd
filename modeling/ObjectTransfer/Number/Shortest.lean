import ObjectTransfer.Number.Binary64

/-!
# Shortest decimals

The text of a binary number has the fewest decimal digits that read back as the number, and of
those the ones nearest to it. A decimal reads back if it lies between the midpoints to the two
neighbouring numbers; a midpoint itself belongs to the number with the even significand. `shortest`
tries grids of one digit, two digits and so on, and looks at the two grid points around the value.

`text` sets the digits: positional while the decimal point falls at most five places before or
sixteen places after the start of the digits, else with an exponent that always carries a sign.
-/

set_option autoImplicit false

namespace ObjectTransfer.Binary64

/-- Digits and the power of ten of the last of them. -/
structure Decimal where
  digits : Nat
  exponent : Int
  deriving DecidableEq, Repr

/-- Twice the value and twice the two midpoints, over a common denominator. -/
structure Interval where
  low : Nat
  value : Nat
  high : Nat
  denominator : Nat
  closed : Bool

/-- Below a power of two the numbers are twice as dense, so the lower midpoint is nearer there. -/
def interval (x : Binary64) : Interval :=
  let (top, bottom) := ratio 1 (x.power - 2)
  let below := if x.significand = leastFull ∧ x.power ≠ -1074 then 1 else 2
  { low := (4 * x.significand - below) * top
    value := 4 * x.significand * top
    high := (4 * x.significand + 2) * top
    denominator := bottom
    closed := x.significand % 2 == 0 }

/-- Whether `units` steps of the grid `step / scale` lie inside the interval. -/
def Interval.contains (range : Interval) (units step scale : Nat) : Bool :=
  let point := units * step * range.denominator
  let low := range.low * scale
  let high := range.high * scale
  if range.closed then decide (low ≤ point ∧ point ≤ high) else decide (low < point ∧ point < high)

/-- The grid point inside the interval that is nearest to the value, if there is one. -/
def gridPoint (range : Interval) (exponent : Int) : Option Nat :=
  let (step, scale) := if exponent < 0 then (1, tenTo exponent.natAbs) else (tenTo exponent.natAbs, 1)
  let value := range.value * scale
  let unit := step * range.denominator
  let below := value / unit
  let above := below + 1
  let belowFits := decide (0 < below) && range.contains below step scale
  let aboveFits := range.contains above step scale
  let belowNearer := 2 * (value % unit) < unit ∨ (2 * (value % unit) = unit ∧ below % 2 = 0)
  if belowFits && (!aboveFits || decide belowNearer) then some below
  else if aboveFits then some above
  else none

def dropZeros : Nat → Decimal → Decimal
  | 0, decimal => decimal
  | fuel + 1, decimal =>
    if decimal.digits % 10 = 0 ∧ decimal.digits ≠ 0 then
      dropZeros fuel ⟨decimal.digits / 10, decimal.exponent + 1⟩
    else decimal

/-- An exponent of ten that no grid with a hit exceeds. -/
def topExponent (range : Interval) : Int :=
  let digits := (Nat.toDigits 10 range.high).length
  let scale := (Nat.toDigits 10 range.denominator).length
  Int.ofNat digits - Int.ofNat scale + 1

/-- The first grid with a hit, going down from `exponent`. -/
def firstHit (range : Interval) : Nat → Int → Decimal
  | 0, exponent => ⟨0, exponent⟩
  | fuel + 1, exponent =>
    match gridPoint range exponent with
    | some digits => ⟨digits, exponent⟩
    | none => firstHit range fuel (exponent - 1)

def shortest (x : Binary64) : Decimal :=
  let range := x.interval
  dropZeros 400 (firstHit range 24 (topExponent range))

def exponentText (exponent : Int) : List Char :=
  (if exponent < 0 then '-' else '+') :: Nat.toDigits 10 exponent.natAbs

def decimalText (decimal : Decimal) : List Char :=
  let digits := Nat.toDigits 10 decimal.digits
  let point := Int.ofNat digits.length + decimal.exponent
  if point ≤ -5 ∨ 16 < point then
    let fraction := digits.drop 1
    digits.take 1 ++ (if fraction.isEmpty then [] else '.' :: fraction) ++
      'e' :: exponentText (point - 1)
  else if point ≤ 0 then
    ['0', '.'] ++ List.replicate point.natAbs '0' ++ digits
  else if 0 ≤ decimal.exponent then
    digits ++ List.replicate decimal.exponent.natAbs '0' ++ ['.', '0']
  else
    digits.take point.natAbs ++ '.' :: digits.drop point.natAbs

def text (x : Binary64) : List Char :=
  let magnitude := if x.isZero then ['0', '.', '0'] else decimalText x.shortest
  if x.negative then '-' :: magnitude else magnitude

end ObjectTransfer.Binary64
