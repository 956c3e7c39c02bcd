/-!
# Tables

A table holds values under keys of any kind that can be told apart, in no particular order. What is
under a key is what was put there last.
-/

set_option autoImplicit false

namespace ObjectTransfer

abbrev Table (κ α : Type) := List (κ × α)

namespace Table
variable {κ α : Type} [DecidableEq κ]

def get? (table : Table κ α) (key : κ) : Option α :=
  match table with
  | [] => none
  | (other, value) :: rest => if other = key then some value else get? rest key

def erase (table : Table κ α) (key : κ) : Table κ α := table.filter fun entry => entry.1 ≠ key

def put (table : Table κ α) (key : κ) (value : α) : Table κ α := (key, value) :: table.erase key

@[simp] theorem get?_nil (key : κ) : get? ([] : Table κ α) key = none := rfl

@[simp] theorem get?_erase (table : Table κ α) (key other : κ) :
    (table.erase key).get? other = if key = other then none else table.get? other := by
  induction table with
  | nil => simp [erase, get?]
  | cons entry rest ih =>
    obtain ⟨here, value⟩ := entry
    simp only [erase, List.filter_cons] at ih ⊢
    by_cases same : here = key
    · subst same
      simp only [ne_eq, not_true_eq_false, decide_false, Bool.false_eq_true, if_false, ih, get?]
      split <;> rfl
    · simp only [ne_eq, same, not_false_eq_true, decide_true, if_true, get?, ih]
      by_cases found : here = other
      · subst found
        simp [Ne.symm same]
      · simp [found]

@[simp] theorem get?_put (table : Table κ α) (key other : κ) (value : α) :
    (table.put key value).get? other = if key = other then some value else table.get? other := by
  simp only [put, get?, get?_erase]
  split <;> rfl

end Table

end ObjectTransfer
