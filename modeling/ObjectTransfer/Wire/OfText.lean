import ObjectTransfer.Json.Reader
import ObjectTransfer.Wire.OfJson

/-!
# Messages from JSON text

The shape leads the reader through the text, so a value of the wrong kind is a fault where it
stands, before anything after it is looked at. A member that the record does not know is skipped.
A record that lacks a field, or has one twice, is a fault behind the record or behind the key.
-/

set_option autoImplicit false

namespace ObjectTransfer.Wire

open Json (Fault Reader)
open Json.Reader

def settled {α : Type} (read : Read α) : Reader α :=
  match read with
  | .ok value => pure value
  | .error fault => stop fault

def readText (expected : String) : Reader String := do
  match ← next with
  | none => stopAtNext .endInValue
  | some 34 => do
    drop
    textTail
  | some _ => wrongType expected

def readBoolean : Reader Bool := do
  match ← next with
  | none => stopAtNext .endInValue
  | some 116 => do
    drop
    word [114, 117, 101]
    pure true
  | some 102 => do
    drop
    word [97, 108, 115, 101]
    pure false
  | some _ => wrongType "a boolean"

def readInteger {α : Type} (expected : String) (accept : Json → Read α) : Reader α := do
  match ← next with
  | none => stopAtNext .endInValue
  | some 45 => do
    drop
    settled (accept (← number true).json)
  | some octet =>
    if isDigit octet then settled (accept (← number false).json) else wrongType expected

def readNothing : Reader Unit := do
  match ← next with
  | none => stopAtNext .endInValue
  | some 110 => do
    drop
    word [117, 108, 108]
  | some _ => wrongType "unit"

/-- The key of a member that must be there, right behind the brace of its object. An object that is
closed at once lacks a value; behind a blank the brace counts as a key that is no text. -/
def onlyKey : Reader String := do
  match ← peek with
  | some 125 => stopAtNext .expectedValue
  | _ =>
    match ← next with
    | some 34 => key
    | some _ => stopAtNext .keyNotText
    | none => stopAtNext .endInObject

def readChoice (names : List String) (depth : Nat) : Reader (Fin names.length) := do
  match ← next with
  | none => stopAtNext .endInValue
  | some 34 => do
    drop
    settled (choiceOf names (← textTail))
  | some 123 => inside depth fun _ => do
    let chosen ← settled (choiceOf names (← onlyKey))
    colon
    readNothing
    match ← next with
    | some 125 => drop
    | some _ => stop .expectedValue
    | none => stop .endInObject
    pure chosen
  | some _ => stopAtNext .expectedValue

/-- What a field holds; a null is nothing where nothing may be held. -/
def Presence.readHeld {α : Type} (presence : Presence) (read : Reader α) :
    Reader (presence.Held α) :=
  match presence with
  | .omittable => do
    match ← next with
    | some 110 => do
      drop
      word [117, 108, 108]
      pure none
    | _ => do
      let value ← read
      pure (some value)
  | .required => read
  | .defaulted _ => read

def eachMember {σ : Type} (step : String → σ → Reader σ) : Nat → Bool → σ → Reader σ
  | 0, _, _ => stop .trailingCharacters
  | fuel + 1, first, state => do
    if ← moreMembers first then
      let name ← key
      let state ← step name state
      eachMember step fuel false state
    else
      drop
      pure state

/-- Stops behind a key that was there before, and behind the object if that ends here. -/
def stopAfterKey {α : Type} (fault : Fault) : Reader α := do
  match ← next with
  | some 125 => do
    drop
    stop fault
  | _ => stop fault

mutual

def Shape.read : (shape : Shape) → Nat → Reader shape.Value
  | .text expected, _ => readText expected
  | .boolean, _ => readBoolean
  | .word16, _ =>
    readInteger "u16" fun value => do return UInt16.ofNat (← naturalOf UInt16.size "u16" value)
  | .word64, _ =>
    readInteger "u64" fun value => do return UInt64.ofNat (← naturalOf UInt64.size "u64" value)
  | .url, _ => do settled (urlOfText (← readText "a string representing an URL"))
  | .json, depth => do
    let value ← json depth
    pure value.canonical
  | .choice names, depth => readChoice names depth
  | .list element, depth => do
    match ← next with
    | none => stopAtNext .endInValue
    | some 91 => inside depth fun deeper => listOf (element.read deeper)
    | some _ => wrongType "a sequence"
  | .texts, depth => do
    match ← next with
    | none => stopAtNext .endInValue
    | some 123 => inside depth fun _ => membersOf (readText "a string")
    | some _ => wrongType "a map"
  | .record name fields, depth => do
    match ← next with
    | none => stopAtNext .endInValue
    | some 91 => inside depth fun deeper => do
      let values ← fields.readElements (lengthText name fields.count) deeper 0
      Json.Reader.closeList
      pure values
    | some 123 => inside depth fun deeper => do
      let slots ← eachMember (fields.readMember deeper) (← rounds) true fields.noSlots
      settled (fields.complete false slots)
    | some _ => wrongType s!"struct {name}"

def Fields.readMember : (fields : Fields) → Nat → String → fields.Slots → Reader fields.Slots
  | .nil, _, _, _ => do
    colon
    skipValue
  | .cons key presence shape rest, depth, name, (slot, slots) =>
    if name = key then
      match slot with
      | some _ => stopAfterKey (.duplicateField key)
      | none => do
        colon
        let held ← presence.readHeld (shape.read depth)
        pure (some held, slots)
    else do
      let more ← rest.readMember depth name slots
      pure (slot, more)

def Fields.readElements (expected : String) :
    (fields : Fields) → Nat → Nat → Reader fields.Values
  | .nil, _, _ => pure ()
  | .cons _ presence shape rest, depth, index => do
    let held ← do
      if ← moreElements (index == 0) then presence.readHeld (shape.read depth)
      else
        match presence.absent (shape.ofJson false) (.wrongLength index expected) with
        | .ok held => pure held
        | .error fault => do
          drop
          stop fault
    let values ← rest.readElements expected depth (index + 1)
    pure (held, values)

end

/-- Reads a message from the octets of a whole text. -/
def Format.ofOctets {α : Type} (format : Format α) (octets : Octets) : Except Json.Stop α :=
  (Json.Reader.run (format.shape.read Json.depthLimit) octets).map format.unpack

def Format.ofText {α : Type} (format : Format α) (text : String) : Except Json.Stop α :=
  format.ofOctets (Utf8.encode text)

end ObjectTransfer.Wire
