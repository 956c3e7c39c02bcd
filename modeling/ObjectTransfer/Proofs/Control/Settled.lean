import ObjectTransfer.Proofs.Control.Stepping

/-!
# Steps with a settled outcome

A step is settled on a set of states if it comes to the same outcome from each
of them and never leads out of the set.  Steps that only look, and steps whose
failures do not depend on the state, are of this kind, and so is whatever they
are put together to.

Where it does not matter which outcome that is, the step is called determined.
Two steady states cannot be told apart by such a step.
-/

set_option autoImplicit false

namespace ObjectTransfer.Step

variable {σ ε α β : Type} {steady : σ → Prop}

/-- From every steady state the step comes to this outcome, and the state is steady afterwards. -/
def Settled (steady : σ → Prop) (step : Step σ ε α) (outcome : Except ε α) : Prop :=
  ∀ state, steady state → (step state).1 = outcome ∧ steady (step state).2

theorem settled_pure (value : α) : Settled steady (pure value : Step σ ε α) (.ok value) :=
  fun _ inside => ⟨rfl, inside⟩

theorem settled_throw (error : ε) : Settled steady (throw error : Step σ ε α) (.error error) :=
  fun _ inside => ⟨rfl, inside⟩

theorem Settled.bind_ok {first : Step σ ε α} {value : α} {next : α → Step σ ε β}
    {outcome : Except ε β} (settled : Settled steady first (.ok value))
    (continued : Settled steady (next value) outcome) :
    Settled steady (first >>= next) outcome := by
  intro state inside
  obtain ⟨same, after⟩ := settled state inside
  rw [bind_apply]
  rcases ran : first state with ⟨result, between⟩
  rw [ran] at same after
  subst same
  exact continued between after

theorem Settled.bind_error {first : Step σ ε α} {error : ε} (next : α → Step σ ε β)
    (settled : Settled steady first (.error error)) :
    Settled steady (first >>= next) (.error error) := by
  intro state inside
  obtain ⟨same, after⟩ := settled state inside
  rw [bind_apply]
  rcases ran : first state with ⟨result, between⟩
  rw [ran] at same after
  subst same
  exact ⟨rfl, after⟩

theorem Settled.tryCatch_ok {step : Step σ ε α} {value : α} (handle : ε → Step σ ε α)
    (settled : Settled steady step (.ok value)) :
    Settled steady (tryCatch step handle) (.ok value) := by
  intro state inside
  obtain ⟨same, after⟩ := settled state inside
  rw [tryCatch_apply]
  rcases ran : step state with ⟨result, between⟩
  rw [ran] at same after
  subst same
  exact ⟨rfl, after⟩

theorem Settled.tryCatch_error {step : Step σ ε α} {error : ε} {handle : ε → Step σ ε α}
    {outcome : Except ε α} (settled : Settled steady step (.error error))
    (handled : Settled steady (handle error) outcome) :
    Settled steady (tryCatch step handle) outcome := by
  intro state inside
  obtain ⟨same, after⟩ := settled state inside
  rw [tryCatch_apply]
  rcases ran : step state with ⟨result, between⟩
  rw [ran] at same after
  subst same
  exact handled between after

theorem Settled.ofStore {step : Step σ StoreFailure α} {outcome : Except StoreFailure α}
    (settled : Settled steady step outcome) :
    Settled steady (ObjectTransfer.ofStore step) (outcome.mapError .store) := by
  intro state inside
  obtain ⟨same, after⟩ := settled state inside
  rw [ofStore_apply, same]
  exact ⟨rfl, after⟩

theorem settled_ofToken {result : Except TokenFailure α} {value : α}
    (success : result = .ok value) : Settled steady (ofToken result) (.ok value) := by
  rw [success]
  exact settled_pure value

theorem settled_ofToken_error {result : Except TokenFailure α} {failure : TokenFailure}
    (failed : result = .error failure) :
    Settled steady (ofToken result) (.error (.token failure)) := by
  rw [failed]
  exact settled_throw (ExchangeFailure.token failure)

/-! ## Determined steps -/

def Determined (steady : σ → Prop) (step : Step σ ε α) : Prop :=
  ∃ outcome, Settled steady step outcome

theorem Determined.eq {step : Step σ ε α} (determined : Determined steady step) {first second : σ}
    (firstSteady : steady first) (secondSteady : steady second) :
    (step first).1 = (step second).1 := by
  obtain ⟨outcome, settled⟩ := determined
  rw [(settled first firstSteady).1, (settled second secondSteady).1]

theorem Determined.stays {step : Step σ ε α} (determined : Determined steady step) {state : σ}
    (inside : steady state) : steady (step state).2 := by
  obtain ⟨_, settled⟩ := determined
  exact (settled state inside).2

theorem determined_pure (value : α) : Determined steady (pure value : Step σ ε α) :=
  ⟨_, settled_pure value⟩

theorem determined_throw (error : ε) : Determined steady (throw error : Step σ ε α) :=
  ⟨_, settled_throw error⟩

theorem Determined.bind {first : Step σ ε α} {next : α → Step σ ε β}
    (determined : Determined steady first) (continued : ∀ value, Determined steady (next value)) :
    Determined steady (first >>= next) := by
  obtain ⟨outcome, settled⟩ := determined
  cases outcome with
  | error error => exact ⟨_, settled.bind_error next⟩
  | ok value =>
    obtain ⟨ending, later⟩ := continued value
    exact ⟨ending, settled.bind_ok later⟩

theorem Determined.tryCatch {step : Step σ ε α} {handle : ε → Step σ ε α}
    (determined : Determined steady step) (handled : ∀ error, Determined steady (handle error)) :
    Determined steady (tryCatch step handle) := by
  obtain ⟨outcome, settled⟩ := determined
  cases outcome with
  | ok value => exact ⟨_, settled.tryCatch_ok handle⟩
  | error error =>
    obtain ⟨ending, later⟩ := handled error
    exact ⟨ending, settled.tryCatch_error later⟩

theorem Determined.ofStore {step : Step σ StoreFailure α} (determined : Determined steady step) :
    Determined steady (ObjectTransfer.ofStore step) := by
  obtain ⟨_, settled⟩ := determined
  exact ⟨_, settled.ofStore⟩

theorem determined_ofToken (result : Except TokenFailure α) :
    Determined steady (ofToken result) := by
  cases result with
  | ok value => exact ⟨_, settled_ofToken rfl⟩
  | error failure => exact ⟨_, settled_ofToken_error rfl⟩

end ObjectTransfer.Step
