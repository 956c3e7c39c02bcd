/-!
# Outcomes in a row

A computation that may fail succeeds exactly if each of its parts does, and it
fails with the first failure among them.  So what holds of its results is found
part by part.
-/

set_option autoImplicit false

namespace ObjectTransfer

variable {ε α β : Type}

theorem bind_eq_ok_iff (first : Except ε α) (next : α → Except ε β) (value : β) :
    first >>= next = .ok value ↔ ∃ middle, first = .ok middle ∧ next middle = .ok value := by
  cases first with
  | error fault => simp [bind, Except.bind]
  | ok middle => simp [bind, Except.bind]

@[simp] theorem ok_bind (middle : α) (next : α → Except ε β) :
    (Except.ok middle : Except ε α) >>= next = next middle := rfl

@[simp] theorem error_bind (fault : ε) (next : α → Except ε β) :
    (Except.error fault : Except ε α) >>= next = .error fault := rfl

/-! ## What holds of every result -/

/-- Whatever comes out, if anything does, has the property. -/
def Ensures (property : α → Prop) (outcome : Except ε α) : Prop :=
  ∀ value, outcome = .ok value → property value

variable {property : α → Prop}

theorem ensures_ok (value : α) (holds : property value) :
    Ensures property (.ok value : Except ε α) := by
  rintro _ ⟨⟩
  exact holds

theorem ensures_error (fault : ε) : Ensures property (.error fault : Except ε α) := by
  rintro _ ⟨⟩

theorem ensures_throw_bind (fault : ε) (next : β → Except ε α) :
    Ensures property (throw fault >>= next) :=
  ensures_error fault

theorem Ensures.bind {between : β → Prop} {first : Except ε β} {next : β → Except ε α}
    (before : Ensures between first)
    (after : ∀ middle, between middle → Ensures property (next middle)) :
    Ensures property (first >>= next) := by
  intro value made
  obtain ⟨middle, found, rest⟩ := (bind_eq_ok_iff first next value).mp made
  exact after middle (before middle found) value rest

theorem Ensures.ite {condition : Prop} [Decidable condition] {first second : Except ε α}
    (yes : condition → Ensures property first) (no : ¬ condition → Ensures property second) :
    Ensures property (if condition then first else second) := by
  split
  · exact yes ‹_›
  · exact no ‹_›

end ObjectTransfer
