import ObjectTransfer.Text.Ascii

/-!
# Domain labels in ASCII

A label with other characters than ASCII is written as its ASCII characters, a hyphen after them if
there are any, and then the places and code points of the others as numbers of varying length.
`encode` writes a label in this way and `decode?` reads it; both give nothing when a number leaves
the range of thirty-two bits or is no character.
-/

set_option autoImplicit false

namespace ObjectTransfer.Punycode

def digit (value : Nat) : Char :=
  if value < 26 then Char.ofNat (97 + value) else Char.ofNat (22 + value)

def value? (c : Char) : Option Nat :=
  let code := c.toNat
  if 97 ≤ code ∧ code ≤ 122 then some (code - 97)
  else if 65 ≤ code ∧ code ≤ 90 then some (code - 65)
  else if 48 ≤ code ∧ code ≤ 57 then some (code - 22)
  else none

def threshold (place bias : Nat) : Nat :=
  if place ≤ bias then 1 else if bias + 26 ≤ place then 26 else place - bias

/-- Halves the growth of the numbers until it is small; `fuel` bounds the steps. -/
def settle : Nat → Nat → Nat → Nat
  | 0, growth, steps => steps + 36 * growth / (growth + 38)
  | fuel + 1, growth, steps =>
    if 455 < growth then settle fuel (growth / 35) (steps + 36)
    else steps + 36 * growth / (growth + 38)

/-- The bias after a number: how long the next number will probably be. -/
def adapt (delta count : Nat) (first : Bool) : Nat :=
  let start := if first then delta / 700 else delta / 2
  settle 32 (start + start / count) 0

def limit : Nat := UInt32.size

def numberDigits : Nat → Nat → Nat → Nat → List Char
  | 0, _, _, _ => []
  | fuel + 1, bias, place, number =>
    let least := threshold place bias
    if number < least then [digit number]
    else
      digit (least + (number - least) % (36 - least)) ::
        numberDigits fuel bias (place + 36) ((number - least) / (36 - least))

structure Writing where
  code : Nat
  delta : Nat
  bias : Nat
  handled : Nat
  written : List Char

/-- Goes over the label once and writes a number for each character with the current code point. -/
def writeCode (basic : Nat) (state : Writing) (c : Char) : Writing :=
  if c.toNat < state.code then { state with delta := state.delta + 1 }
  else if c.toNat = state.code then
    { state with
      written := state.written ++ numberDigits 16 state.bias 36 state.delta
      bias := adapt state.delta (state.handled + 1) (state.handled = basic)
      delta := 0
      handled := state.handled + 1 }
  else state

def writeCodes (label : List Char) (basic : Nat) : Nat → Writing → Option (List Char)
  | 0, state => some state.written
  | fuel + 1, state =>
    let later := (label.map Char.toNat).filter fun code => state.code ≤ code
    match later.min? with
    | none => some state.written
    | some least =>
      let delta := state.delta + (least - state.code) * (state.handled + 1)
      if limit ≤ delta then none
      else
        let after := label.foldl (writeCode basic) { state with code := least, delta := delta }
        writeCodes label basic fuel { after with code := least + 1, delta := after.delta + 1 }

def encode (label : List Char) : Option (List Char) :=
  let basic := label.filter Text.isAscii
  let front := if basic.isEmpty then [] else basic ++ ['-']
  writeCodes label basic.length (label.length + 1)
    { code := 128, delta := 0, bias := 72, handled := basic.length, written := front }

/-- Reads one number: its value added to `index`, and the characters after it. -/
def readNumber (bias : Nat) : Nat → Nat → Nat → List Char → Option (Nat × List Char)
  | _, _, _, [] => none
  | place, weight, index, c :: rest => do
    let value ← value? c
    let index := index + value * weight
    if limit ≤ index then none
    else
      let least := threshold place bias
      if value < least then some (index, rest)
      else readNumber bias (place + 36) (weight * (36 - least)) index rest

def character? (code : Nat) : Option Char :=
  if code < 0xD800 ∨ (0xE000 ≤ code ∧ code < 0x110000) then some (Char.ofNat code) else none

def readCodes : Nat → Nat → Nat → Nat → List Char → List Char → Option (List Char)
  | 0, _, _, _, label, _ => some label
  | _ + 1, _, _, _, label, [] => some label
  | fuel + 1, code, index, bias, label, digits => do
    let (next, rest) ← readNumber bias 36 1 index digits
    let count := label.length + 1
    let code := code + next / count
    let place := next % count
    let c ← character? code
    let bias := adapt (next - index) count (index = 0)
    readCodes fuel code (place + 1) bias (label.take place ++ c :: label.drop place) rest

/-- The characters before the last hyphen and those after it; a hyphen in front divides nothing. -/
def cutLast (written : List Char) : List Char × List Char :=
  let backwards := written.reverse
  let after := backwards.takeWhile (· ≠ '-')
  match backwards.drop (after.length + 1) with
  | [] => ([], written)
  | before => (before.reverse, after.reverse)

def decode? (written : List Char) : Option (List Char) :=
  let (basic, digits) := cutLast written
  if basic.all Text.isAscii then readCodes (digits.length + 1) 128 0 72 basic digits else none

end ObjectTransfer.Punycode
