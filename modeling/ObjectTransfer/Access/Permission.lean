import ObjectTransfer.Wire.Shape

/-!
# Permissions

There are three permissions, and they are always granted and asked for in sets. A set is three
marks, so two sets with the same members are the same value (`PermissionSet.ext_contains`), and its
members have one order.
-/

set_option autoImplicit false

namespace ObjectTransfer

inductive Permission where
  | read
  | readMeta
  | write
  deriving DecidableEq, Repr

namespace Permission

def all : List Permission := [.read, .readMeta, .write]

def name : Permission → String
  | .read => "read"
  | .readMeta => "read-meta"
  | .write => "write"

def ofName? (name : String) : Option Permission := all.find? fun permission => permission.name == name

theorem mem_all (permission : Permission) : permission ∈ all := by cases permission <;> simp [all]

def wire : Wire.Format Permission := .named all mem_all name

end Permission

structure PermissionSet where
  read : Bool
  readMeta : Bool
  write : Bool
  deriving DecidableEq, Repr

namespace PermissionSet

def empty : PermissionSet := ⟨false, false, false⟩

instance : Inhabited PermissionSet := ⟨empty⟩

def contains (set : PermissionSet) : Permission → Bool
  | .read => set.read
  | .readMeta => set.readMeta
  | .write => set.write

def union (left right : PermissionSet) : PermissionSet :=
  ⟨left.read || right.read, left.readMeta || right.readMeta, left.write || right.write⟩

def single (permission : Permission) : PermissionSet :=
  ⟨permission == .read, permission == .readMeta, permission == .write⟩

def ofList (permissions : List Permission) : PermissionSet :=
  permissions.foldl (fun set permission => set.union (single permission)) empty

def toList (set : PermissionSet) : List Permission := Permission.all.filter set.contains

theorem ext_contains (left right : PermissionSet)
    (same : ∀ permission, left.contains permission = right.contains permission) : left = right := by
  obtain ⟨read, readMeta, write⟩ := left
  obtain ⟨read', readMeta', write'⟩ := right
  have first := same .read
  have second := same .readMeta
  have third := same .write
  simp only [contains] at first second third
  simp [first, second, third]

@[simp] theorem contains_empty (permission : Permission) :
    empty.contains permission = false := by
  cases permission <;> rfl

@[simp] theorem contains_union (left right : PermissionSet) (permission : Permission) :
    (left.union right).contains permission =
      (left.contains permission || right.contains permission) := by
  cases permission <;> rfl

@[simp] theorem contains_single (member permission : Permission) :
    (single member).contains permission = decide (permission = member) := by
  cases member <;> cases permission <;> rfl

theorem contains_foldl_union (permissions : List Permission) (start : PermissionSet)
    (permission : Permission) :
    (permissions.foldl (fun set member => set.union (single member)) start).contains permission =
      (start.contains permission || decide (permission ∈ permissions)) := by
  induction permissions generalizing start with
  | nil => simp
  | cons first rest ih => simp [ih, Bool.or_assoc]

@[simp] theorem contains_ofList (permissions : List Permission) (permission : Permission) :
    (ofList permissions).contains permission = decide (permission ∈ permissions) := by
  simp [ofList, contains_foldl_union]

theorem mem_toList (set : PermissionSet) (permission : Permission) :
    permission ∈ set.toList ↔ set.contains permission = true := by
  cases permission <;> simp [toList, Permission.all]

theorem ofList_toList (set : PermissionSet) : ofList set.toList = set := by
  apply ext_contains
  intro permission
  simp [mem_toList]

theorem union_empty (set : PermissionSet) : set.union empty = set := by
  apply ext_contains
  simp

end PermissionSet

end ObjectTransfer
