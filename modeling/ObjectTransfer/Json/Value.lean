import ObjectTransfer.Collections.Dictionary
import ObjectTransfer.Number.Shortest

/-!
# JSON values

A value keeps whole numbers and binary numbers apart, since `5` and `5.0` are different answers to
the question for a whole number. Members of an object are in the order in which they were written,
repeated keys included; `canonical` sorts them by key and keeps the last of each key.
-/

set_option autoImplicit false

namespace ObjectTransfer

inductive Json where
  | null
  | boolean (value : Bool)
  | integer (value : Int)
  | float (value : Binary64)
  | text (value : String)
  | array (elements : List Json)
  | object (members : List (String × Json))
  deriving Inhabited

namespace Json

mutual

/-- The same value with the members of every object sorted by key, the last of each key. -/
def canonical : Json → Json
  | .array elements => .array (canonicalElements elements)
  | .object members => .object (canonicalMembers members)
  | .null => .null
  | .boolean value => .boolean value
  | .integer value => .integer value
  | .float value => .float value
  | .text value => .text value

def canonicalElements : List Json → List Json
  | [] => []
  | element :: rest => element.canonical :: canonicalElements rest

def canonicalMembers : List (String × Json) → List (String × Json)
  | [] => []
  | (key, value) :: rest =>
    let later := canonicalMembers rest
    match findEntry key later with
    | some _ => later
    | none => insertEntry key value.canonical later

end

def member? (key : String) : Json → Option Json
  | .object members => findEntry key members
  | _ => none

end Json

end ObjectTransfer
