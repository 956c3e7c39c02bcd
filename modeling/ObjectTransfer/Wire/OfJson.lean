import ObjectTransfer.Json.Fault
import ObjectTransfer.Wire.Shape

/-!
# Messages from JSON values

A record is read from an object, whose unknown members are ignored, or from an array of its fields
in order. Members are looked at in the order in which they stand, so the first bad one is the one
that is named; only then are missing fields named, in the order of the record.
-/

set_option autoImplicit false

namespace ObjectTransfer.Wire

open Json (Fault)

abbrev Read (α : Type) := Except Fault α

def textOf (expected : String) : Json → Read String
  | .text value => .ok value
  | other => .error (.wrongType (Json.found other) expected)

def booleanOf : Json → Read Bool
  | .boolean value => .ok value
  | other => .error (.wrongType (Json.found other) "a boolean")

def naturalOf (limit : Nat) (expected : String) : Json → Read Nat
  | .integer value =>
    if 0 ≤ value ∧ value < limit then .ok value.toNat
    else .error (.wrongValue (.integer value) expected)
  | other => .error (.wrongType (Json.found other) expected)

def urlOfText (text : String) : Read Url :=
  match Url.parse text with
  | .ok url => .ok url
  | .error fault => .error (.refused s!"{fault.message}: {Text.quoted text}")

def urlOf : Json → Read Url
  | .text value => urlOfText value
  | other => .error (.wrongType (Json.found other) "a string representing an URL")

def choiceOf (names : List String) (name : String) : Read (Fin names.length) :=
  if found : names.findIdx (· == name) < names.length then .ok ⟨_, found⟩
  else .error (.unknownVariant name names)

/-- Nothing, where a choice is written as an object with one member. Inside a buffered value an
empty object will do too. -/
def nothingOf (buffered : Bool) : Json → Read Unit
  | .null => .ok ()
  | .object [] => if buffered then .ok () else .error (.wrongType .map "unit")
  | other => .error (.wrongType (Json.found other) "unit")

def chosenOf (buffered : Bool) (names : List String) : Json → Read (Fin names.length)
  | .text name => choiceOf names name
  | .object [(name, payload)] => do
    let chosen ← choiceOf names name
    nothingOf buffered payload
    .ok chosen
  | .object _ => .error (.wrongValue .map "map with a single key")
  | other => .error (.wrongType (Json.found other) "string or map")

def textsOf : List (String × Json) → Read (List (String × String))
  | [] => .ok []
  | (key, value) :: rest => do
    let text ← textOf "a string" value
    let more ← textsOf rest
    .ok ((key, text) :: more)

/-- What a field holds for the value of its member; null holds nothing where nothing may be held. -/
def Presence.held {α : Type} (presence : Presence) (read : Json → Read α) (value : Json) :
    Read (presence.Held α) :=
  match presence with
  | .omittable =>
    match value with
    | .null => .ok none
    | other => (read other).map some
  | .required => read value
  | .defaulted _ => read value

def Presence.absent {α : Type} (presence : Presence) (read : Json → Read α) (missing : Fault) :
    Read (presence.Held α) :=
  match presence with
  | .omittable => .ok none
  | .required => .error missing
  | .defaulted value => read value

mutual

def Shape.ofJson (buffered : Bool) : (shape : Shape) → Json → Read shape.Value
  | .text expected, value => textOf expected value
  | .boolean, value => booleanOf value
  | .word16, value => do return UInt16.ofNat (← naturalOf UInt16.size "u16" value)
  | .word64, value => do return UInt64.ofNat (← naturalOf UInt64.size "u64" value)
  | .url, value => urlOf value
  | .json, value => .ok value
  | .choice names, value => chosenOf buffered names value
  | .list element, value =>
    match value with
    | .array elements => elements.mapM (element.ofJson buffered)
    | other => .error (.wrongType (Json.found other) "a sequence")
  | .texts, value =>
    match value with
    | .object members => textsOf members
    | other => .error (.wrongType (Json.found other) "a map")
  | .record name fields, value =>
    match value with
    | .object members => do
      let slots ← members.foldlM (fun slots member =>
        fields.takeMember buffered member.1 member.2 slots) fields.noSlots
      fields.complete buffered slots
    | .array elements =>
      fields.ofElements buffered (lengthText name fields.count) 0 elements
    | other => .error (.wrongType (Json.found other) s!"struct {name}")

def Fields.takeMember (buffered : Bool) :
    (fields : Fields) → String → Json → fields.Slots → Read fields.Slots
  | .nil, _, _, _ => .ok ()
  | .cons key presence shape rest, name, value, (slot, slots) =>
    if name = key then
      match slot with
      | some _ => .error (.duplicateField key)
      | none => do
        let held ← presence.held (shape.ofJson buffered) value
        .ok (some held, slots)
    else do
      let more ← rest.takeMember buffered name value slots
      .ok (slot, more)

/-- Settles the fields that were not read. -/
def Fields.complete (buffered : Bool) : (fields : Fields) → fields.Slots → Read fields.Values
  | .nil, _ => .ok ()
  | .cons key presence shape rest, (slot, slots) => do
    let held ← match slot with
      | some held => .ok held
      | none => presence.absent (shape.ofJson buffered) (.missingField key)
    let values ← rest.complete buffered slots
    .ok (held, values)

def Fields.ofElements (buffered : Bool) (expected : String) :
    (fields : Fields) → Nat → List Json → Read fields.Values
  | .nil, _, [] => .ok ()
  | .nil, index, extra => .error (.wrongLength (index + extra.length) "fewer elements in array")
  | .cons _ presence shape rest, index, [] => do
    let held ← presence.absent (shape.ofJson buffered) (.wrongLength index expected)
    let values ← rest.ofElements buffered expected (index + 1) []
    .ok (held, values)
  | .cons _ presence shape rest, index, element :: elements => do
    let held ← presence.held (shape.ofJson buffered) element
    let values ← rest.ofElements buffered expected (index + 1) elements
    .ok (held, values)

end

/-- Reads a message from a value that stands by itself. -/
def Format.ofJson {α : Type} (format : Format α) (value : Json) : Read α :=
  (format.shape.ofJson false value).map format.unpack

/-- Reads a message whose fields are among the members of a larger record, where they were set
aside before their kinds were known. -/
def Format.ofMembers {α : Type} (format : Format α) (members : List (String × Json)) : Read α :=
  (format.shape.ofJson true (.object members)).map format.unpack

end ObjectTransfer.Wire
