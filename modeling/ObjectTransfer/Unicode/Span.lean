import ObjectTransfer.Encoding.Hex
import ObjectTransfer.Text.Pieces

/-!
# Tables of code points

A table is a list of lines, and a line is a list of entries with spaces between them. An entry
begins with a code point in hexadecimal or with the first and the last of several: `c0-d6` is every
code point from the one to the other, `100/12e` every second one. What the table says about them
follows: after an equals sign numbers with points between them, the same for all, or after a plus
sign one number that grows along with the code point. A table that is just a set says nothing more.
-/

set_option autoImplicit false

namespace ObjectTransfer.Unicode

structure Span where
  first : Nat
  last : Nat
  step : Nat
  grows : Bool
  values : List Nat
  deriving DecidableEq, Repr

namespace Span

def covers (span : Span) (code : Nat) : Bool :=
  span.first ≤ code && code ≤ span.last && (code - span.first) % span.step == 0

def about (span : Span) (code : Nat) : List Nat :=
  if span.grows then span.values.map (· + (code - span.first)) else span.values

end Span

/-! ## Reading -/

def number (text : List Char) : Nat :=
  text.foldl (fun sum c => 16 * sum + (Hex.value? c).getD 0) 0

def readRange (text : List Char) (grows : Bool) (values : List Nat) : Span :=
  match Text.cut? '-' text with
  | some (first, last) => ⟨number first, number last, 1, grows, values⟩
  | none =>
    match Text.cut? '/' text with
    | some (first, last) => ⟨number first, number last, 2, grows, values⟩
    | none => ⟨number text, number text, 1, grows, values⟩

def readSpan (text : List Char) : Span :=
  match Text.cut? '=' text with
  | some (range, values) => readRange range false ((Text.split '.' values).map number)
  | none =>
    match Text.cut? '+' text with
    | some (range, start) => readRange range true [number start]
    | none => readRange text false []

abbrev Spans := List Span

def readLines (lines : List String) : Spans :=
  lines.flatMap fun line => (Text.split ' ' line.toList).map readSpan

/-! ## Looking up -/

namespace Spans

def find? (table : Spans) (code : Nat) : Option (List Nat) :=
  (List.find? (fun span => span.covers code) table).map fun span => span.about code

def contains (table : Spans) (code : Nat) : Bool := table.any fun span => span.covers code

/-- The one number that a table says about a code point, zero for all others. -/
def classOf (table : Spans) (code : Nat) : Nat := ((table.find? code).bind List.head?).getD 0

end Spans

end ObjectTransfer.Unicode
