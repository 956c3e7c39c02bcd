import ObjectTransfer.Encoding.Hex
import ObjectTransfer.Text.Pieces
import ObjectTransfer.Url.Fault

/-!
# Numeric hosts

An address of four octets is written with points between decimal numbers; it may be read from one
to four numbers, each decimal, octal or hexadecimal, the last of which fills the remaining octets.
An address of eight words is written in lower case hexadecimal, the longest run of at least two
zero words as a double colon.
-/

set_option autoImplicit false

namespace ObjectTransfer.Url

/-! ## Four octets -/

/-- A number in an address: nothing if it is none, and `some none` if it has too many digits. -/
def readRadix (radix : Nat) (digits : List Char) : Option (Option Nat) := do
  let value ← digits.foldl (fun value c => do
    let sum ← value
    let digit ← Hex.value? c
    if digit < radix then some (sum * radix + digit) else none) (some 0)
  if value < UInt32.size then some (some value) else some none

def readNumber (text : List Char) : Option (Option Nat) :=
  match text with
  | [] => none
  | ['0'] => some (some 0)
  | '0' :: 'x' :: digits => readRadix 16 digits
  | '0' :: 'X' :: digits => readRadix 16 digits
  | '0' :: digits => readRadix 8 digits
  | digits => readRadix 10 digits

def isDecimal (text : List Char) : Bool :=
  !text.isEmpty && text.all Char.isDigit

/-- The last label, without regard to a point at the end. -/
def lastLabel (domain : List Char) : List Char :=
  match (Text.split '.' domain).reverse with
  | [] :: label :: _ => label
  | label :: _ => label
  | [] => []

/-- A domain that ends like this must be an address. -/
def endsInNumber (domain : List Char) : Bool :=
  let label := lastLabel domain
  isDecimal label || (readNumber label).isSome

/-- All but the last number are octets; the last one fills what they leave. -/
def joinNumbers : Nat → List Nat → Option Nat
  | _, [] => none
  | places, [last] => if last < Nat.pow 256 places then some last else none
  | places, octet :: rest =>
    if octet < 256 ∧ 1 < places then
      (joinNumbers (places - 1) rest).map (octet * Nat.pow 256 (places - 1) + ·)
    else none

def ipv4? (domain : List Char) : Option Nat := do
  let labels := Text.split '.' domain
  let labels := if labels.getLast? = some [] then labels.dropLast else labels
  let numbers ← labels.mapM fun label => do
    let number ← readNumber label
    number
  joinNumbers 4 numbers

def ipv4Text (address : Nat) : List Char :=
  Text.join '.' ([address >>> 24, (address >>> 16) % 256, (address >>> 8) % 256,
    address % 256].map (Nat.toDigits 10))

/-! ## Eight words -/

/-- Four octets in decimal, as the last two words. Numbers have no leading zeros. -/
def octetOf? (text : List Char) : Option Nat :=
  if isDecimal text ∧ text.length ≤ 3 ∧ (text.length = 1 ∨ text.head? ≠ some '0') then
    let value := text.foldl (fun sum c => sum * 10 + (c.toNat - 48)) 0
    if value < 256 then some value else none
  else none

def lastWords? (text : List Char) : Option (List Nat) := do
  match ← (Text.split '.' text).mapM octetOf? with
  | [a, b, c, d] => some [a * 256 + b, c * 256 + d]
  | _ => none

def wordOf? (text : List Char) : Option Nat :=
  if text.isEmpty ∨ 4 < text.length then none
  else text.foldl (fun value c => do some (16 * (← value) + (← Hex.value? c))) (some 0)

/-- Words between colons, the last of which may be two words written as four octets. -/
def wordsOf? : List (List Char) → Option (List Nat)
  | [] => some []
  | [last] =>
    if last.contains '.' then lastWords? last else (wordOf? last).map ([·])
  | group :: rest => do
    let word ← wordOf? group
    let words ← wordsOf? rest
    some (word :: words)

def cutGap? : List Char → Option (List Char × List Char)
  | ':' :: ':' :: rest => some ([], rest)
  | c :: rest => (cutGap? rest).map fun (before, after) => (c :: before, after)
  | [] => none

def groupsOf? (text : List Char) : Option (List Nat) :=
  if text.isEmpty then some [] else wordsOf? (Text.split ':' text)

def ipv6? (text : List Char) : Option (List Nat) :=
  match cutGap? text with
  | some (before, after) => do
    let front ← if before.contains '.' then none else groupsOf? before
    let back ← groupsOf? after
    if front.length + back.length ≤ 7 then
      some (front ++ List.replicate (8 - front.length - back.length) 0 ++ back)
    else none
  | none => do
    let words ← groupsOf? text
    if words.length = 8 then some words else none

/-- The start and the length of the first longest run of zero words; `place` counts the words. -/
def longestRun : Nat → List Nat → Nat × Nat
  | _, [] => (0, 0)
  | place, word :: rest =>
    let here := ((word :: rest).takeWhile (· = 0)).length
    let later := longestRun (place + 1) rest
    if here ≠ 0 ∧ later.2 ≤ here then (place, here) else later

def wordsText (words : List Nat) : List Char := Text.join ':' (words.map Hex.digits)

def ipv6Text (words : List Nat) : List Char :=
  let (start, length) := longestRun 0 words
  if length < 2 then wordsText words
  else wordsText (words.take start) ++ [':', ':'] ++ wordsText (words.drop (start + length))

end ObjectTransfer.Url
