import ObjectTransfer.Proofs.Control.Settled
import ObjectTransfer.Store.Memory

/-!
# What a store reports

A report says of every object what the store answers when it is asked whether
the object is there, how big it is and where to download it; each answer may be
an error.  A store keeps to a report on a set of states if it answers so in all
of them and asking never leads out of the set.

A store in memory keeps to the report of the objects that it holds, and with
faults put in front of its methods to the report with these faults.
-/

set_option autoImplicit false

namespace ObjectTransfer

structure StoreReport where
  holds : String → String → Except StoreFailure Bool
  size : String → String → Except StoreFailure Nat
  downloadAction : String → String → UInt64 → UInt64 → Hints → Except StoreFailure (Option Action)

/-- In every steady state the store answers as it is reported, and stays in such a state. -/
structure Store.KeepsTo {σ : Type} (store : Store σ) (steady : σ → Prop) (report : StoreReport) :
    Prop where
  holds : ∀ place oid, Step.Settled steady (store.holds place oid) (report.holds place oid)
  size : ∀ place oid, Step.Settled steady (store.size place oid) (report.size place oid)
  downloadAction : ∀ place oid size lifetime hints,
    Step.Settled steady (store.downloadAction place oid size lifetime hints)
      (report.downloadAction place oid size lifetime hints)

def StoreReport.verify (report : StoreReport) (place oid : String) (size : UInt64) :
    Except StoreFailure Bool :=
  match report.size place oid with
  | .ok held => .ok (held == size.toNat)
  | .error .notFound => .ok false
  | .error other => .error other

theorem Store.KeepsTo.verify {σ : Type} {store : Store σ} {steady : σ → Prop}
    {report : StoreReport} (keeps : store.KeepsTo steady report) (place oid : String)
    (size : UInt64) :
    Step.Settled steady (store.verify place oid size) (report.verify place oid size) := by
  have measured := keeps.size place oid
  unfold Store.verify StoreReport.verify
  cases found : report.size place oid with
  | ok held =>
    rw [found] at measured
    exact (measured.bind_ok (Step.settled_pure (held == size.toNat))).tryCatch_ok _
  | error error =>
    rw [found] at measured
    have failed := measured.bind_error fun held => pure (held == size.toNat)
    cases error with
    | notFound => exact failed.tryCatch_error (Step.settled_pure _)
    | _ => exact failed.tryCatch_error (Step.settled_throw _)

/-! ## Objects in memory -/

namespace MemoryStore

def report (memory : MemoryStore) (objects : MemoryObjects) : StoreReport where
  holds place oid := .ok (objects.get? ⟨place, oid⟩).isSome
  size place oid :=
    match objects.get? ⟨place, oid⟩ with
    | some content => .ok content.length
    | none => .error .notFound
  downloadAction place oid _ lifetime hints :=
    .ok (downloadFrom memory.endpoints place oid lifetime hints)

theorem lookup_apply (place oid : String) (objects : MemoryObjects) :
    lookup place oid objects =
      (match objects.get? ⟨place, oid⟩ with
        | some content => .ok content
        | none => .error .notFound, objects) := by
  unfold lookup
  rw [Step.get_bind_apply]
  cases objects.get? ⟨place, oid⟩ <;> rfl

theorem size_apply (memory : MemoryStore) (place oid : String) (objects : MemoryObjects) :
    memory.store.size place oid objects = ((memory.report objects).size place oid, objects) := by
  change (lookup place oid >>= fun content => pure content.length) objects = _
  rw [Step.bind_apply, lookup_apply]
  simp only [report]
  cases objects.get? ⟨place, oid⟩ <;> rfl

theorem get_apply (memory : MemoryStore) (place oid : String) (objects : MemoryObjects) :
    memory.store.get place oid objects =
      (match objects.get? ⟨place, oid⟩ with
        | some octets => .ok (Content.ofOctets octets)
        | none => .error .notFound, objects) := by
  change (lookup place oid >>= fun octets => pure (Content.ofOctets octets)) objects = _
  rw [Step.bind_apply, lookup_apply]
  cases objects.get? ⟨place, oid⟩ <;> rfl

theorem put_apply (memory : MemoryStore) (place oid : String) (content : Content)
    (objects : MemoryObjects) :
    memory.store.put place oid content objects =
      match content.joined with
      | .ok octets => (.ok (), objects.put ⟨place, oid⟩ octets)
      | .error error => (.error error, objects) := by
  change MemoryStore.put place oid content objects = _
  unfold MemoryStore.put
  cases content.joined <;> rfl

theorem keepsTo (memory : MemoryStore) (objects : MemoryObjects) :
    memory.store.KeepsTo (· = objects) (memory.report objects) where
  holds place oid := by
    rintro _ rfl
    exact ⟨rfl, rfl⟩
  size place oid := by
    rintro _ rfl
    rw [size_apply]
    exact ⟨rfl, rfl⟩
  downloadAction place oid size lifetime hints := by
    rintro _ rfl
    exact ⟨rfl, rfl⟩

end MemoryStore

/-! ## Faults -/

def StoreReport.withFaults (report : StoreReport) (fault : Store.Method → Option StoreFailure) :
    StoreReport where
  holds place oid := (fault .holds).elim (report.holds place oid) .error
  size place oid := (fault .size).elim (report.size place oid) .error
  downloadAction place oid size lifetime hints :=
    (fault .downloadAction).elim (report.downloadAction place oid size lifetime hints) .error

theorem Store.settled_failingWith {σ α : Type} {steady : σ → Prop} (fault : Option StoreFailure)
    {step : Step σ StoreFailure α} {outcome : Except StoreFailure α}
    (settled : Step.Settled steady step outcome) :
    Step.Settled steady (failingWith fault step) (fault.elim outcome .error) := by
  cases fault with
  | none => exact settled
  | some error => exact Step.settled_throw error

theorem Store.KeepsTo.withFaults {σ : Type} {store : Store σ} {steady : σ → Prop}
    {report : StoreReport} (keeps : store.KeepsTo steady report)
    (fault : Store.Method → Option StoreFailure) :
    (store.withFaults fault).KeepsTo steady (report.withFaults fault) where
  holds place oid := Store.settled_failingWith _ (keeps.holds place oid)
  size place oid := Store.settled_failingWith _ (keeps.size place oid)
  downloadAction place oid size lifetime hints :=
    Store.settled_failingWith _ (keeps.downloadAction place oid size lifetime hints)

end ObjectTransfer
