import ObjectTransfer.Access.Permission
import ObjectTransfer.Collections.Dictionary

/-!
# Grants

A grant gives permissions at a coordinate: an organization, a repository and an object, each of
which may be left open. A tree records grants level by level, and an entry for an open place is one
of its own. Recording a coordinate, even without permissions, makes it known, and what is known
decides which entry a question is answered from:

* in an unknown organization the grants for any organization and any repository answer, at the very
  object that was asked for;
* in a known organization, an unknown repository is answered by what was granted for any repository
  and any object of the organization;
* in a known repository the object's own entry answers, or else the one for any object.

Nothing is ever taken away from an entry, but a more specific entry hides a wider one.
-/

set_option autoImplicit false

namespace ObjectTransfer

/-- Entries under names, and one for any name. -/
structure Branch (α : Type) where
  named : Dictionary α
  wildcard : Option α

namespace Branch
variable {α : Type}

instance [DecidableEq α] : DecidableEq (Branch α) := fun left right =>
  if same : left.named = right.named ∧ left.wildcard = right.wildcard then
    .isTrue (by cases left; cases right; simp_all)
  else .isFalse fun equal => same ⟨congrArg named equal, congrArg wildcard equal⟩

def empty : Branch α := ⟨Dictionary.empty, none⟩

instance : Inhabited (Branch α) := ⟨empty⟩

def get? (branch : Branch α) : Option String → Option α
  | some name => branch.named.get? name
  | none => branch.wildcard

def update (branch : Branch α) (key : Option String) (fresh : α) (change : α → α) : Branch α :=
  match key with
  | some name => { branch with named := branch.named.update name fresh change }
  | none => { branch with wildcard := some (change (branch.wildcard.getD fresh)) }

def isEmpty (branch : Branch α) : Bool := branch.named.isEmpty && branch.wildcard.isNone

@[simp] theorem get?_empty (key : Option String) : (empty : Branch α).get? key = none := by
  cases key <;> rfl

@[simp] theorem get?_update (branch : Branch α) (key other : Option String) (fresh : α)
    (change : α → α) :
    (branch.update key fresh change).get? other =
      if other = key then some (change ((branch.get? key).getD fresh)) else branch.get? other := by
  cases key <;> cases other <;> simp [update, get?]

theorem ext_get? (left right : Branch α) (same : ∀ key, left.get? key = right.get? key) :
    left = right := by
  obtain ⟨named, wildcard⟩ := left
  obtain ⟨named', wildcard'⟩ := right
  have first : named = named' := Dictionary.ext_get? _ _ fun key => same (some key)
  have second : wildcard = wildcard' := same none
  rw [first, second]

end Branch

/-- A place in the tree; nothing stands for anything. -/
structure Coordinate where
  organization : Option String
  repository : Option String
  oid : Option String
  deriving DecidableEq, Repr

/-- Permissions at a coordinate. A grant without permissions only makes its coordinate known. -/
structure Grant where
  place : Coordinate
  permissions : Option PermissionSet
  deriving DecidableEq, Repr

structure Grants where
  organizations : Branch (Branch (Branch PermissionSet))
  deriving DecidableEq

namespace Grants

def empty : Grants := ⟨Branch.empty⟩

instance : Inhabited Grants := ⟨empty⟩

/-- Records a grant; its permissions join those that the coordinate already has. -/
def add (tree : Grants) (grant : Grant) : Grants :=
  ⟨tree.organizations.update grant.place.organization Branch.empty fun repositories =>
    repositories.update grant.place.repository Branch.empty fun objects =>
      objects.update grant.place.oid PermissionSet.empty fun set =>
        set.union (grant.permissions.getD PermissionSet.empty)⟩

def addAll (tree : Grants) (grants : List Grant) : Grants := grants.foldl add tree

/-- The permissions recorded at exactly this coordinate, if it is known. -/
def entry? (tree : Grants) (place : Coordinate) : Option PermissionSet := do
  let repositories ← tree.organizations.get? place.organization
  let objects ← repositories.get? place.repository
  objects.get? place.oid

/-- The entry that answers for an object of a repository. -/
def deciding? (tree : Grants) (organization repository : String) (oid : Option String) :
    Option PermissionSet :=
  match tree.organizations.get? (some organization) with
  | none => entry? tree ⟨none, none, oid⟩
  | some repositories =>
    match repositories.get? (some repository) with
    | none => entry? tree ⟨some organization, none, none⟩
    | some objects => (objects.get? oid).or (objects.get? none)

def permits (tree : Grants) (organization repository : String) (permission : Permission)
    (oid : Option String) : Bool :=
  (tree.deciding? organization repository oid).any fun set => set.contains permission

def isEmpty (tree : Grants) : Bool := tree.organizations.isEmpty

end Grants

end ObjectTransfer
