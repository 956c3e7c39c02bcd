import ObjectTransfer.Access.Grants

/-!
# Identities

An identity is someone who asks: what is known of them, and the grants they hold.
-/

set_option autoImplicit false

namespace ObjectTransfer

structure Identity where
  name : Option String
  id : Option String
  email : Option String
  grants : Grants
  deriving DecidableEq

/-- What someone may do: the answer for an organization, a repository, a permission and an object. -/
abbrev Authority := String → String → Permission → Option String → Bool

namespace Identity

def anonymous : Identity := ⟨none, none, none, Grants.empty⟩

instance : Inhabited Identity := ⟨anonymous⟩

def granted (identity : Identity) (grant : Grant) : Identity :=
  { identity with grants := identity.grants.add grant }

def authority (identity : Identity) : Authority := identity.grants.permits

def describe (identity : Identity) : String :=
  "<DefaultIdentity id:" ++ identity.id.getD "None" ++ " name:" ++ identity.name.getD "None" ++ ">"

def held (authority : Authority) (organization repository : String) (oid : Option String) :
    List Permission :=
  Permission.all.filter fun permission => authority organization repository permission oid

end Identity

end ObjectTransfer
