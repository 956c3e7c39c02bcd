import ObjectTransfer.Json.Writer
import ObjectTransfer.Wire.Shape

/-!
# Writing messages

The members of a record are written in the order of its fields.
-/

set_option autoImplicit false

namespace ObjectTransfer.Wire

def Presence.members {α : Type} (presence : Presence) (key : String) (write : α → Json)
    (held : presence.Held α) : List (String × Json) :=
  match presence, held with
  | .omittable, none => []
  | .omittable, some value => [(key, write value)]
  | .required, value => [(key, write value)]
  | .defaulted _, value => [(key, write value)]

mutual

def Shape.toJson : (shape : Shape) → shape.Value → Json
  | .text _, value => .text value
  | .boolean, value => .boolean value
  | .word16, value => .integer (Int.ofNat value.toNat)
  | .word64, value => .integer (Int.ofNat value.toNat)
  | .url, value => .text value.text
  | .json, value => value
  | .choice names, value => .text (names.get value)
  | .list element, values => .array (values.map element.toJson)
  | .texts, entries => .object (entries.map fun entry => (entry.1, .text entry.2))
  | .record _ fields, values => .object (fields.toMembers values)

def Fields.toMembers : (fields : Fields) → fields.Values → List (String × Json)
  | .nil, _ => []
  | .cons key presence shape rest, (held, values) =>
    presence.members key shape.toJson held ++ rest.toMembers values

end

def Format.toJson {α : Type} (format : Format α) (value : α) : Json :=
  format.shape.toJson (format.pack value)

/-- The text of a message, without any blanks. -/
def Format.toText {α : Type} (format : Format α) (value : α) : String :=
  (format.toJson value).toText

end ObjectTransfer.Wire
