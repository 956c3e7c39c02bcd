import ObjectTransfer.Access.Permission
import ObjectTransfer.Wire.Shape

/-!
# Scopes

A scope is what a token allows: some actions in one repository, perhaps on one object only. Each
action needs its permissions, and a scope grants the permissions of all its actions.
-/

set_option autoImplicit false

namespace ObjectTransfer

inductive TokenAction where
  | read
  | write
  | verify
  deriving DecidableEq, Repr

namespace TokenAction

def all : List TokenAction := [.read, .write, .verify]

def name : TokenAction → String
  | .read => "read"
  | .write => "write"
  | .verify => "verify"

def permissions : TokenAction → PermissionSet
  | .read => PermissionSet.ofList [.read, .readMeta]
  | .write => PermissionSet.ofList [.write]
  | .verify => PermissionSet.ofList [.readMeta]

theorem mem_all (action : TokenAction) : action ∈ all := by cases action <;> simp [all]

def wire : Wire.Format TokenAction := .named all mem_all name

end TokenAction

/-- A set of actions, as one mark for each. -/
structure ActionSet where
  read : Bool
  write : Bool
  verify : Bool
  deriving DecidableEq, Repr

namespace ActionSet

def empty : ActionSet := ⟨false, false, false⟩

def contains (set : ActionSet) : TokenAction → Bool
  | .read => set.read
  | .write => set.write
  | .verify => set.verify

def ofList (actions : List TokenAction) : ActionSet :=
  ⟨actions.contains .read, actions.contains .write, actions.contains .verify⟩

def toList (set : ActionSet) : List TokenAction := TokenAction.all.filter set.contains

theorem ofList_toList (set : ActionSet) : ofList set.toList = set := by
  obtain ⟨read, write, verify⟩ := set
  cases read <;> cases write <;> cases verify <;> rfl

@[simp] theorem contains_ofList (actions : List TokenAction) (action : TokenAction) :
    (ofList actions).contains action = actions.contains action := by
  cases action <;> rfl

end ActionSet

structure Scope where
  organization : String
  repository : String
  oid : Option String
  actions : ActionSet
  deriving DecidableEq, Repr

namespace Scope

def permissions (scope : Scope) : PermissionSet :=
  scope.actions.toList.foldl (fun set action => set.union action.permissions) PermissionSet.empty

def describe (scope : Scope) : String :=
  "obj:" ++ scope.organization ++ "/" ++ scope.repository ++ "/" ++ scope.oid.getD "*" ++ ":" ++
    String.intercalate "," (scope.actions.toList.map TokenAction.name)

def fields : Wire.Fields :=
  .cons "organization" .required (.text "a string") <|
  .cons "repository" .required (.text "a string") <|
  .cons "oid" .omittable (.text "a string") <|
  .cons "actions" .required (.list TokenAction.wire.shape) .nil

/-- A scope as a message. Actions are written in their own order, each once. -/
def wire : Wire.Format Scope where
  shape := .record "PreAuthScope" fields
  pack scope :=
    (scope.organization, scope.repository, scope.oid,
      scope.actions.toList.map TokenAction.wire.pack, ())
  unpack := fun (organization, repository, oid, actions, _) =>
    ⟨organization, repository, oid, ActionSet.ofList (actions.map TokenAction.wire.unpack)⟩
  unpack_pack scope := by
    obtain ⟨organization, repository, oid, actions⟩ := scope
    have back : (actions.toList.map TokenAction.wire.pack).map TokenAction.wire.unpack =
        actions.toList := by
      rw [List.map_map]
      exact (List.map_congr_left fun action _ => TokenAction.wire.unpack_pack action).trans
        (List.map_id _)
    exact congrArg (Scope.mk organization repository oid)
      ((congrArg ActionSet.ofList back).trans (ActionSet.ofList_toList actions))

end Scope

end ObjectTransfer
