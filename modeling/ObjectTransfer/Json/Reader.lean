import ObjectTransfer.Encoding.Hex
import ObjectTransfer.Json.Fault

/-!
# Reading JSON

A reader takes octets from the front of a text and gives a value and the octets that are left, or
stops with a fault and the number of octets that were unread there. From that number
`Stop.position` finds the line and the column.

Two rules run through the whole reader. A fault about a character that was only looked at lies one
place further than the octets read so far. A container may lie at most 127 containers deep where
its value is kept; in a value that is skipped only the brackets are followed.
-/

set_option autoImplicit false

namespace ObjectTransfer.Json

structure Stop where
  fault : Fault
  unread : Nat
  deriving DecidableEq, Repr

abbrev Reader (α : Type) := StateT Octets (Except Stop) α

/-- How many containers may lie inside each other where nothing has been read yet. -/
def depthLimit : Nat := 128

namespace Reader
variable {α : Type}

/-- Stops after the octets that were read. -/
def stop (fault : Fault) : Reader α := fun rest => .error ⟨fault, rest.length⟩

/-- Stops at the next octet, which was only looked at. -/
def stopAtNext (fault : Fault) : Reader α := fun rest => .error ⟨fault, rest.length - 1⟩

def isSpace (octet : UInt8) : Bool := octet == 32 || octet == 10 || octet == 9 || octet == 13

def isDigit (octet : UInt8) : Bool := 48 ≤ octet && octet ≤ 57

def skipSpace : Reader Unit := fun rest => .ok ((), rest.dropWhile isSpace)

def peek : Reader (Option UInt8) := fun rest => .ok (rest.head?, rest)

def drop : Reader Unit := fun rest => .ok ((), rest.drop 1)

def next : Reader (Option UInt8) := do
  skipSpace
  peek

def word : Octets → Reader Unit
  | [], rest => .ok ((), rest)
  | _ :: _, [] => .error ⟨.endInValue, 0⟩
  | wanted :: more, octet :: rest =>
    if octet = wanted then word more rest else .error ⟨.expectedWord, rest.length⟩

/-! ## Texts -/

/-- Where the reader stands in an escape: after the backslash, among the four digits (with the
leading half of a pair, if there is one), or before the backslash or the letter of the second half. -/
inductive Escape where
  | outside
  | begun
  | digits (lead : Option Nat) (seen : Octets)
  | pairSlash (lead : Nat)
  | pairLetter (lead : Nat)

def hexValue? (octets : Octets) : Option Nat :=
  octets.foldl (fun value octet => do
    some (16 * (← value) + (← Hex.value? (Char.ofNat octet.toNat)))) (some 0)

def letter? (octet : UInt8) : Option UInt8 :=
  if octet = 34 ∨ octet = 92 ∨ octet = 47 then some octet
  else if octet = 98 then some 8
  else if octet = 102 then some 12
  else if octet = 110 then some 10
  else if octet = 114 then some 13
  else if octet = 116 then some 9
  else none

def isLead (code : Nat) : Bool := 0xD800 ≤ code && code ≤ 0xDBFF

def isTrail (code : Nat) : Bool := 0xDC00 ≤ code && code ≤ 0xDFFF

def joined (lead trail : Nat) : Nat := 0x10000 + (lead - 0xD800) * 1024 + (trail - 0xDC00)

def octetsOf (code : Nat) : Octets := Utf8.encodeChars [Char.ofNat code]

def prepend (front : Octets) (result : Except Stop (Octets × Octets)) :
    Except Stop (Octets × Octets) :=
  result.map fun (later, rest) => (front ++ later, rest)

/-- The octets of a text up to its closing quote, with escapes replaced. -/
def textOctets : Escape → Octets → Except Stop (Octets × Octets)
  | _, [] => .error ⟨.endInText, 0⟩
  | .outside, octet :: rest =>
    if octet = 34 then .ok ([], rest)
    else if octet = 92 then textOctets .begun rest
    else if octet < 32 then .error ⟨.controlCharacter, rest.length⟩
    else prepend [octet] (textOctets .outside rest)
  | .begun, octet :: rest =>
    if octet = 117 then textOctets (.digits none []) rest
    else
      match letter? octet with
      | some plain => prepend [plain] (textOctets .outside rest)
      | none => .error ⟨.invalidEscape, rest.length⟩
  | .pairSlash lead, octet :: rest =>
    if octet = 92 then textOctets (.pairLetter lead) rest
    else .error ⟨.unfinishedEscape, rest.length⟩
  | .pairLetter lead, octet :: rest =>
    if octet = 117 then textOctets (.digits (some lead) []) rest
    else .error ⟨.unfinishedEscape, rest.length⟩
  | .digits lead seen, octet :: rest =>
    if seen.length < 3 then textOctets (.digits lead (seen ++ [octet])) rest
    else
      match lead, hexValue? (seen ++ [octet]) with
      | _, none => .error ⟨.invalidEscape, rest.length⟩
      | none, some code =>
        if isTrail code then .error ⟨.loneSurrogate, rest.length⟩
        else if isLead code then textOctets (.pairSlash code) rest
        else prepend (octetsOf code) (textOctets .outside rest)
      | some first, some code =>
        if isTrail code then prepend (octetsOf (joined first code)) (textOctets .outside rest)
        else .error ⟨.loneSurrogate, rest.length⟩

/-- The rest of a text whose opening quote was read. Octets that are no character stop the reader
behind the first of them, counted back from the closing quote. -/
def textTail : Reader String := fun octets => do
  let (content, rest) ← textOctets .outside octets
  match Utf8.decode? content with
  | some decoded => .ok (decoded, rest)
  | none =>
    .error ⟨.invalidCodePoint, rest.length + (content.length - Utf8.soundLength content)⟩

/-- Skips the rest of a text; the digits of an escape must be digits, but need not be a character. -/
def skipTextFrom : Escape → Octets → Except Stop (Unit × Octets)
  | _, [] => .error ⟨.endInText, 0⟩
  | .begun, octet :: rest =>
    if octet = 117 then skipTextFrom (.digits none []) rest
    else if (letter? octet).isSome then skipTextFrom .outside rest
    else .error ⟨.invalidEscape, rest.length⟩
  | .digits _ seen, octet :: rest =>
    if seen.length < 3 then skipTextFrom (.digits none (seen ++ [octet])) rest
    else if (hexValue? (seen ++ [octet])).isSome then skipTextFrom .outside rest
    else .error ⟨.invalidEscape, rest.length⟩
  | _, octet :: rest =>
    if octet = 34 then .ok ((), rest)
    else if octet = 92 then skipTextFrom .begun rest
    else if octet < 32 then .error ⟨.controlCharacter, rest.length + 1⟩
    else skipTextFrom .outside rest

def skipTextTail : Reader Unit := skipTextFrom .outside

/-! ## Numbers -/

inductive Number where
  | integer (value : Int)
  | float (value : Binary64)
  deriving DecidableEq, Repr

def Number.json : Number → Json
  | .integer value => .integer value
  | .float value => .float value

def Number.found : Number → Found
  | .integer value => .integer value
  | .float value => .float value

def digits : Reader Octets := fun rest => .ok (rest.takeWhile isDigit, rest.dropWhile isDigit)

def digitValue (octet : UInt8) : Nat := octet.toNat - 48

/-- Appends digits to a number while it stays within the limit; gives the digits left over too. -/
def appendDigits (limit : Nat) : Nat → Octets → Nat × Octets
  | value, [] => (value, [])
  | value, octet :: rest =>
    let longer := value * 10 + digitValue octet
    if limit < longer then (value, octet :: rest) else appendDigits limit longer rest

def largestWord : Nat := UInt64.size - 1

/-- The largest exponent that is counted, one below 2^31. -/
def largestExponent : Nat := 2147483647

def floatOf (negative : Bool) (significand : Nat) (exponent : Int) : Reader Number :=
  match Binary64.ofDecimal negative significand exponent with
  | some value => pure (.float value)
  | none => stop .numberOutOfRange

def exponentSign : Reader Bool := do
  match ← peek with
  | some 43 => do
    drop
    pure false
  | some 45 => do
    drop
    pure true
  | _ => pure false

def requiredDigit : Reader UInt8 := fun rest =>
  match rest with
  | [] => .error ⟨.endInValue, 0⟩
  | octet :: more =>
    if isDigit octet then .ok (octet, more) else .error ⟨.invalidNumber, more.length⟩

def exponentPart (negative : Bool) (significand : Nat) (start : Int) : Reader Number := do
  drop
  let down ← exponentSign
  let first ← requiredDigit
  let more ← digits
  let (exponent, beyond) := appendDigits largestExponent (digitValue first) more
  match beyond with
  | [] => floatOf negative significand (if down then start - exponent else start + exponent)
  | _ :: later =>
    if significand ≠ 0 ∧ down = false then
      fun rest => .error ⟨.numberOutOfRange, rest.length + later.length⟩
    else floatOf negative 0 0

def isExponentMark (octet : Option UInt8) : Bool := octet == some 101 || octet == some 69

def fractionPart (negative : Bool) (significand : Nat) (start : Int) : Reader Number := do
  drop
  let places ← digits
  if places.isEmpty then
    match ← peek with
    | some _ => stopAtNext .invalidNumber
    | none => stop .endInValue
  else
    let (significand, beyond) := appendDigits largestWord significand places
    let exponent := start - Int.ofNat (places.length - beyond.length)
    if isExponentMark (← peek) then exponentPart negative significand exponent
    else floatOf negative significand exponent

/-- A number without its sign. Whole numbers of sixty-four bits are kept as they are; a longer one,
a fraction, an exponent or a negative zero makes a binary number. -/
def number (negative : Bool) : Reader Number := do
  let first ← requiredDigit
  let more ← digits
  if first = 48 ∧ more ≠ [] then
    fun rest => .error ⟨.invalidNumber, rest.length + more.length - 1⟩
  else
    let (significand, beyond) := appendDigits largestWord (digitValue first) more
    let exponent := Int.ofNat beyond.length
    match ← peek with
    | some 46 => fractionPart negative significand exponent
    | mark =>
      if isExponentMark mark then exponentPart negative significand exponent
      else if beyond ≠ [] then floatOf negative significand exponent
      else if negative = false then pure (.integer significand)
      else if significand = 0 ∨ UInt64.size / 2 < significand then floatOf true significand 0
      else pure (.integer (-significand))

def skipNumber : Reader Unit := do
  let first ← fun rest =>
    match rest with
    | octet :: more =>
      if isDigit octet then .ok (octet, more) else .error ⟨.invalidNumber, more.length⟩
    | [] => .error ⟨.invalidNumber, 0⟩
  let more ← digits
  if first = 48 ∧ more ≠ [] then
    fun rest => .error ⟨.invalidNumber, rest.length + more.length - 1⟩
  else do
    if (← peek) = some 46 then
      drop
      if (← digits).isEmpty then stopAtNext .invalidNumber
    if isExponentMark (← peek) then
      drop
      let _ ← exponentSign
      match ← peek with
      | some octet =>
        drop
        if isDigit octet then
          let _ ← digits
        else stop .invalidNumber
      | none => stop .invalidNumber

/-! ## Lists and members -/

/-- Whether another element follows; the reader then stands before it. -/
def moreElements (first : Bool) : Reader Bool := do
  match ← next with
  | none => stopAtNext .endInList
  | some 93 => pure false
  | some octet =>
    if first then pure true
    else if octet = 44 then do
      drop
      match ← next with
      | some 93 => stopAtNext .trailingComma
      | some _ => pure true
      | none => stopAtNext .endInValue
    else stopAtNext .expectedElementEnd

/-- Whether another member follows; the reader then stands before the quote of its key. -/
def moreMembers (first : Bool) : Reader Bool := do
  match ← next with
  | none => stopAtNext .endInObject
  | some 125 => pure false
  | some octet =>
    if first then
      if octet = 34 then pure true else stopAtNext .keyNotText
    else if octet = 44 then do
      drop
      match ← next with
      | some 34 => pure true
      | some 125 => stopAtNext .trailingComma
      | some _ => stopAtNext .keyNotText
      | none => stopAtNext .endInValue
    else stopAtNext .expectedMemberEnd

def key : Reader String := do
  drop
  textTail

def colon : Reader Unit := do
  match ← next with
  | some 58 => drop
  | some _ => stopAtNext .expectedColon
  | none => stopAtNext .endInObject

def closeList : Reader Unit := do
  match ← next with
  | some 93 => drop
  | some 44 => do
    drop
    match ← next with
    | some 93 => stopAtNext .trailingComma
    | _ => stopAtNext .trailingCharacters
  | some _ => stopAtNext .trailingCharacters
  | none => stopAtNext .endInList

/-- The elements up to the closing bracket; `fuel` bounds their number. -/
def elements (element : Reader α) : Nat → Bool → Reader (List α)
  | 0, _ => stop .trailingCharacters
  | fuel + 1, first => do
    if ← moreElements first then
      let value ← element
      let rest ← elements element fuel false
      pure (value :: rest)
    else
      drop
      pure []

/-- The members up to the closing brace; `fuel` bounds their number. -/
def members (value : Reader α) : Nat → Bool → Reader (List (String × α))
  | 0, _ => stop .trailingCharacters
  | fuel + 1, first => do
    if ← moreMembers first then
      let name ← key
      colon
      let entry ← value
      let rest ← members value fuel false
      pure ((name, entry) :: rest)
    else
      drop
      pure []

def rounds : Reader Nat := fun rest => .ok (rest.length + 1, rest)

def inside (depth : Nat) (body : Nat → Reader α) : Reader α :=
  match depth with
  | 0 | 1 => stopAtNext .tooDeep
  | deeper + 1 => do
    drop
    body deeper

def listOf (element : Reader α) : Reader (List α) := do elements element (← rounds) true

def membersOf (value : Reader α) : Reader (List (String × α)) := do members value (← rounds) true

/-! ## Whole values -/

/-- A value of any kind; `depth` bounds the containers inside each other. -/
def json : Nat → Reader Json
  | 0 => stop .tooDeep
  | depth + 1 => do
    match ← next with
    | none => stopAtNext .endInValue
    | some 110 => do
      drop
      word [117, 108, 108]
      pure .null
    | some 116 => do
      drop
      word [114, 117, 101]
      pure (.boolean true)
    | some 102 => do
      drop
      word [97, 108, 115, 101]
      pure (.boolean false)
    | some 45 => do
      drop
      return (← number true).json
    | some 34 => do
      drop
      return .text (← textTail)
    | some 91 =>
      if depth = 0 then stopAtNext .tooDeep
      else do
        drop
        return .array (← listOf (json depth))
    | some 123 =>
      if depth = 0 then stopAtNext .tooDeep
      else do
        drop
        return .object (← membersOf (json depth))
    | some octet =>
      if isDigit octet then return (← number false).json else stopAtNext .expectedValue

/-- Stops with a fault of what stands here instead of the wanted value. A word, a number or a text
is read first, so that the fault lies behind it; a list or an object stays unread. -/
def wrongType (expected : String) : Reader α := do
  match ← peek with
  | some 110 => do
    drop
    word [117, 108, 108]
    stop (.wrongType .null expected)
  | some 116 => do
    drop
    word [114, 117, 101]
    stop (.wrongType (.boolean true) expected)
  | some 102 => do
    drop
    word [97, 108, 115, 101]
    stop (.wrongType (.boolean false) expected)
  | some 45 => do
    drop
    let value ← number true
    stop (.wrongType value.found expected)
  | some 34 => do
    drop
    let content ← textTail
    stop (.wrongType (.text content) expected)
  | some 91 => stop (.wrongType .sequence expected)
  | some 123 => stop (.wrongType .map expected)
  | some octet =>
    if isDigit octet then do
      let value ← number false
      stop (.wrongType value.found expected)
    else stopAtNext .expectedValue
  | none => stopAtNext .expectedValue

/-! ## Skipped values -/

/-- Closes containers and goes to the next value to skip. The octets are the open brackets, the
innermost first; the flag says whether a value has just ended, so that a comma may come. -/
def skipToValue : Nat → Bool → Octets → Reader (Option Octets)
  | 0, _, _ => stop .trailingCharacters
  | _ + 1, _, [] => pure none
  | fuel + 1, afterValue, bracket :: outer => do
    let isList := bracket = 91
    let closing : UInt8 := if isList then 93 else 125
    let enter : Reader (Option Octets) := do
      if isList then pure (some (bracket :: outer))
      else
        match ← next with
        | some 34 => do
          drop
          skipTextTail
          colon
          pure (some (bracket :: outer))
        | some _ => stopAtNext .keyNotText
        | none => stopAtNext .endInObject
    match ← next with
    | none => stopAtNext (if isList then .endInList else .endInObject)
    | some octet =>
      if afterValue ∧ octet = 44 then do
        drop
        enter
      else if octet = closing then do
        drop
        skipToValue fuel true outer
      else if afterValue then
        stopAtNext (if isList then .expectedElementEnd else .expectedMemberEnd)
      else enter

/-- Skips one value, with the containers that are already open around it. -/
def skipValues : Nat → Octets → Reader Unit
  | 0, _ => stop .trailingCharacters
  | fuel + 1, around => do
    let simple (skip : Reader Unit) : Reader Unit := do
      skip
      match ← skipToValue (around.length + 1) true around with
      | none => pure ()
      | some still => skipValues fuel still
    match ← next with
    | none => stopAtNext .endInValue
    | some 110 => simple (do
        drop
        word [117, 108, 108])
    | some 116 => simple (do
        drop
        word [114, 117, 101])
    | some 102 => simple (do
        drop
        word [97, 108, 115, 101])
    | some 45 => simple (do
        drop
        skipNumber)
    | some 34 => simple (do
        drop
        skipTextTail)
    | some octet =>
      if octet = 91 ∨ octet = 123 then do
        drop
        match ← skipToValue (around.length + 2) false (octet :: around) with
        | none => pure ()
        | some still => skipValues fuel still
      else if isDigit octet then simple skipNumber
      else stopAtNext .expectedValue

def skipValue : Reader Unit := do skipValues (← rounds) []

def finish : Reader Unit := do
  match ← next with
  | none => pure ()
  | some _ => stopAtNext .trailingCharacters

def run (reader : Reader α) (octets : Octets) : Except Stop α := do
  let (value, rest) ← reader octets
  let _ ← finish rest
  .ok value

end Reader

/-- The line, counted from one, and the octets read on it, where a reader of `octets` stopped. -/
def Stop.position (stop : Stop) (octets : Octets) : Nat × Nat :=
  let seen := octets.take (octets.length - stop.unread)
  (seen.count 10 + 1, (seen.reverse.takeWhile fun octet => octet != 10).length)

def Stop.message (stop : Stop) (octets : Octets) : String :=
  let (line, column) := stop.position octets
  s!"{stop.fault.message} at line {line} column {column}"

def read (octets : Octets) : Except Stop Json := Reader.run (Reader.json depthLimit) octets

end ObjectTransfer.Json
