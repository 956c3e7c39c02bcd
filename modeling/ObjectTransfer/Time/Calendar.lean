import ObjectTransfer.Text.Pieces

/-!
# Civil time stamps

A clock value is a whole number of seconds since the start of 1970, before or after. `stamp` writes
it as date, letter T, time of day and letter Z in the proleptic Gregorian calendar. Years from 0 to
9999 have four digits; others carry a sign and at least four digits.
-/

set_option autoImplicit false

namespace ObjectTransfer.Calendar

structure Date where
  year : Int
  month : Nat
  day : Nat
  deriving DecidableEq, Repr

/-- The date of a day counted from the start of 1970. Years begin in March, so that the leap day is
the last of its year, and four hundred years are one cycle of 146097 days. -/
def dateOfDay (day : Int) : Date :=
  let shifted := day + 719468
  let cycle := shifted.fdiv 146097
  let dayOfCycle := (shifted.fmod 146097).toNat
  let yearOfCycle :=
    (dayOfCycle - dayOfCycle / 1460 + dayOfCycle / 36524 - dayOfCycle / 146096) / 365
  let dayOfYear := dayOfCycle - (365 * yearOfCycle + yearOfCycle / 4 - yearOfCycle / 100)
  let shiftedMonth := (5 * dayOfYear + 2) / 153
  let month := if shiftedMonth < 10 then shiftedMonth + 3 else shiftedMonth - 9
  { year := cycle * 400 + yearOfCycle + (if month ≤ 2 then 1 else 0)
    month := month
    day := dayOfYear - (153 * shiftedMonth + 2) / 5 + 1 }

def padded (width n : Nat) : List Char :=
  let digits := Nat.toDigits 10 n
  List.replicate (width - digits.length) '0' ++ digits

def yearText (year : Int) : List Char :=
  if year < 0 then '-' :: padded 4 year.natAbs
  else if year ≤ 9999 then padded 4 year.natAbs
  else '+' :: padded 4 year.natAbs

def stamp (seconds : Int) : List Char :=
  let date := dateOfDay (seconds.fdiv 86400)
  let second := (seconds.fmod 86400).toNat
  yearText date.year ++ padded 2 date.month ++ padded 2 date.day ++ 'T' ::
    padded 2 (second / 3600) ++ padded 2 (second / 60 % 60) ++ padded 2 (second % 60) ++ ['Z']

end ObjectTransfer.Calendar
