import ObjectTransfer.Exchange.Transfer

/-!
# What steps on a state come to

A step that succeeds has gone through all its parts, each from the state that
the one before it left behind.  A quiet step leaves the state as it is.
-/

set_option autoImplicit false

namespace ObjectTransfer.Step

variable {σ ε α β : Type}

theorem bind_apply (first : Step σ ε α) (next : α → Step σ ε β) (state : σ) :
    (first >>= next) state =
      match first state with
      | (.ok value, after) => next value after
      | (.error error, after) => (.error error, after) := by
  change (ExceptT.bindCont next (first state).1) (first state).2 = _
  rcases first state with ⟨outcome, after⟩
  cases outcome <;> rfl

theorem bind_of_ok {first : Step σ ε α} {state : σ} {value : α}
    (success : (first state).1 = .ok value) (next : α → Step σ ε β) :
    (first >>= next) state = next value (first state).2 := by
  rw [bind_apply]
  rcases ran : first state with ⟨outcome, after⟩
  rw [ran] at success
  subst success
  rfl

theorem bind_of_error {first : Step σ ε α} {state : σ} {error : ε}
    (failure : (first state).1 = .error error) (next : α → Step σ ε β) :
    (first >>= next) state = (.error error, (first state).2) := by
  rw [bind_apply]
  rcases ran : first state with ⟨outcome, after⟩
  rw [ran] at failure
  subst failure
  rfl

theorem get_bind_apply (next : σ → Step σ ε α) (state : σ) :
    ((get : Step σ ε σ) >>= next) state = next state state := rfl

theorem lift_bind_apply (action : StateM σ α) (next : α → Step σ ε β) (state : σ) :
    ((liftM action : Step σ ε α) >>= next) state = next (action state).1 (action state).2 := rfl

theorem bind_eq_ok_iff (first : Step σ ε α) (next : α → Step σ ε β) (state : σ) (value : β) :
    ((first >>= next) state).1 = .ok value ↔
      ∃ found between, first state = (.ok found, between) ∧
        (next found between).1 = .ok value := by
  rw [bind_apply]
  rcases first state with ⟨outcome, after⟩
  cases outcome with
  | ok found =>
    constructor
    · intro success
      exact ⟨found, after, rfl, success⟩
    · rintro ⟨_, _, same, success⟩
      cases same
      exact success
  | error error =>
    constructor
    · intro success
      cases success
    · rintro ⟨_, _, same, _⟩
      cases same

theorem tryCatch_apply (step : Step σ ε α) (handle : ε → Step σ ε α) (state : σ) :
    (tryCatch step handle) state =
      match step state with
      | (.ok value, after) => (.ok value, after)
      | (.error error, after) => handle error after := by
  change (match (step state).1 with
    | .ok value => pure (Except.ok value)
    | .error error => handle error : StateM σ (Except ε α)) (step state).2 = _
  rcases step state with ⟨outcome, after⟩
  cases outcome <;> rfl

theorem tryCatch_of_ok {step : Step σ ε α} {state : σ} {value : α}
    (success : (step state).1 = .ok value) (handle : ε → Step σ ε α) :
    (tryCatch step handle) state = step state := by
  rw [tryCatch_apply]
  rcases ran : step state with ⟨outcome, after⟩
  rw [ran] at success
  subst success
  rfl

theorem tryCatch_of_error {step : Step σ ε α} {state : σ} {error : ε}
    (failure : (step state).1 = .error error) (handle : ε → Step σ ε α) :
    (tryCatch step handle) state = handle error (step state).2 := by
  rw [tryCatch_apply]
  rcases ran : step state with ⟨outcome, after⟩
  rw [ran] at failure
  subst failure
  rfl

theorem ofStore_apply (step : Step σ StoreFailure α) (state : σ) :
    ofStore step state = ((step state).1.mapError .store, (step state).2) := rfl

theorem ofToken_eq_ok_iff (result : Except TokenFailure α) (state after : σ) (value : α) :
    ofToken result state = (.ok value, after) ↔ result = .ok value ∧ after = state := by
  cases result with
  | ok found =>
    constructor
    · intro success
      cases success
      exact ⟨rfl, rfl⟩
    · rintro ⟨same, rfl⟩
      cases same
      rfl
  | error failure =>
    constructor
    · intro success
      cases success
    · rintro ⟨same, _⟩
      cases same

/-! ## Steps that change nothing -/

def Quiet (step : Step σ ε α) : Prop := ∀ state, (step state).2 = state

theorem quiet_pure (value : α) : Quiet (pure value : Step σ ε α) := fun _ => rfl

theorem quiet_throw (error : ε) : Quiet (throw error : Step σ ε α) := fun _ => rfl

theorem quiet_ofToken (result : Except TokenFailure α) :
    Quiet (ofToken result : Step σ ExchangeFailure α) := by
  cases result <;> exact fun _ => rfl

theorem bind_quiet (step : Step σ ε β) {next : β → Step σ ε α}
    (quiet : ∀ value, Quiet (next value)) (state : σ) :
    ((step >>= next) state).2 = (step state).2 := by
  cases ran : (step state).1 with
  | error error => rw [bind_of_error ran]
  | ok value => rw [bind_of_ok ran, quiet]

theorem Quiet.bind {first : Step σ ε β} {next : β → Step σ ε α} (quiet : Quiet first)
    (after : ∀ value, Quiet (next value)) : Quiet (first >>= next) :=
  fun state => (bind_quiet first after state).trans (quiet state)

end ObjectTransfer.Step
