import ObjectTransfer.Token.Scope
import ObjectTransfer.Wire.OfText
import ObjectTransfer.Wire.ToJson

/-!
# Claims

The payload of a token is one JSON object: the members of the scope and the time from which the
token has expired, in seconds. Reading it takes the expiry where it stands and sets the other
members aside; when the object has ended, a missing expiry is named first, and then whatever is
wrong with the scope.
-/

set_option autoImplicit false

namespace ObjectTransfer

/-- The largest number of seconds that a payload can carry, one below 2^63. -/
def largestTime : Int := 9223372036854775807

def leastTime : Int := -9223372036854775808

structure Claims where
  scope : Scope
  expiry : Int
  deriving DecidableEq, Repr

namespace Claims

open Json (Fault Reader)
open Json.Reader
open Wire

def toJson (claims : Claims) : Json :=
  .object (Scope.fields.toMembers (Scope.wire.pack claims.scope) ++
    [("exp", .integer claims.expiry)])

/-- The payload of a token: the claims without any blanks. -/
def toOctets (claims : Claims) : Octets := Utf8.encodeChars claims.toJson.written

def timeOf : Json → Read Int
  | .integer value =>
    if leastTime ≤ value ∧ value ≤ largestTime then .ok value
    else .error (.wrongValue (.integer value) "i64")
  | other => .error (.wrongType (Json.found other) "i64")

structure Collected where
  expiry : Option Int
  members : List (String × Json)

/-- Reads the expiry, or sets another member aside. -/
def readMember (depth : Nat) (name : String) (seen : Collected) : Reader Collected :=
  if name = "exp" then
    match seen.expiry with
    | some _ => stopAfterKey (.duplicateField "exp")
    | none => do
      colon
      let expiry ← readInteger "i64" timeOf
      pure { seen with expiry := some expiry }
  else do
    colon
    let value ← json depth
    pure { seen with members := seen.members ++ [(name, value)] }

def settle (seen : Collected) : Read Claims :=
  match seen.expiry with
  | none => .error (.missingField "exp")
  | some expiry => do
    let scope ← Scope.wire.ofMembers seen.members
    .ok ⟨scope, expiry⟩

def read : Reader Claims := do
  match ← next with
  | none => stopAtNext .endInValue
  | some 123 => inside Json.depthLimit fun deeper => do
    let seen ← eachMember (readMember deeper) (← rounds) true ⟨none, []⟩
    settled (settle seen)
  | some _ => wrongType "struct Claims"

def ofOctets (octets : Octets) : Except Json.Stop Claims := Json.Reader.run read octets

end Claims

end ObjectTransfer
