import ObjectTransfer.Proofs.Exchange.MemoryRequests

/-!
# What requests about an object look at

A request about an object asks the store about this object and no other, and a
batch asks about those of its objects that the asker has a permission for.  So
where the store's answers about these objects are determined, whatever else may
differ, the reply is determined too.

A store in memory answers alike about an object wherever the object holds the
same.
-/

set_option autoImplicit false

namespace ObjectTransfer

open Step (Determined determined_pure determined_throw determined_ofToken)

variable {σ : Type} {steady : σ → Prop}

/-- Steady states cannot be told apart by asking the store about this object. -/
structure Store.DeterminedAt (store : Store σ) (steady : σ → Prop) (place oid : String) :
    Prop where
  holds : Determined steady (store.holds place oid)
  size : Determined steady (store.size place oid)
  get : Determined steady (store.get place oid)
  mimeType : Determined steady (store.mimeType place oid)
  downloadAction : ∀ size lifetime hints,
    Determined steady (store.downloadAction place oid size lifetime hints)

theorem Store.DeterminedAt.verify {store : Store σ} {place oid : String}
    (fixed : store.DeterminedAt steady place oid) (size : UInt64) :
    Determined steady (store.verify place oid size) := by
  unfold Store.verify
  apply Determined.tryCatch
  · exact fixed.size.bind fun _ => determined_pure _
  · intro error
    cases error with
    | notFound => exact determined_pure false
    | _ => exact determined_throw _

/-! ## Transfers -/

namespace BasicTransfer

variable {basic : BasicTransfer σ} {place oid organization repository : String}

theorem isStored_determined (fixed : basic.store.DeterminedAt steady place oid) (size : UInt64) :
    Determined steady (basic.isStored place oid size) := by
  apply fixed.holds.bind
  intro present
  cases present with
  | false => exact determined_pure false
  | true => exact fixed.size.bind fun _ => determined_pure _

theorem upload_determined
    (fixed : basic.store.DeterminedAt steady (placeOf organization repository) oid) (now : Int)
    (size : UInt64) : Determined steady (basic.upload now organization repository oid size) := by
  apply (isStored_determined fixed size).ofStore.bind
  intro stored
  cases stored with
  | true => exact determined_pure _
  | false =>
    refine (determined_ofToken _).bind fun uploadHeaders => ?_
    exact (determined_ofToken _).bind fun verifyHeaders => determined_pure _

theorem offer_determined (fixed : basic.store.DeterminedAt steady place oid) (size : UInt64)
    (hints : Hints) : Determined steady (basic.offer place oid size hints) := by
  apply fixed.size.bind
  intro stored
  by_cases other : stored ≠ size.toNat
  · rw [if_pos other]
    exact (determined_throw _).bind fun _ => fixed.downloadAction _ _ _
  · rw [if_neg other]
    exact fixed.downloadAction _ _ _

theorem download_determined
    (fixed : basic.store.DeterminedAt steady (placeOf organization repository) oid)
    (size : UInt64) (hints : Hints) :
    Determined steady (basic.download organization repository oid size hints) := by
  obtain ⟨_, settled⟩ := offer_determined fixed size hints
  exact ⟨_, download_of_offer organization repository oid size hints settled⟩

end BasicTransfer

/-! ## Single objects -/

namespace Objects

variable {store : Store σ} {organization repository : String} (authority : Authority)

theorem allowed_determined {α : Type} {permission : Permission} {oid : String}
    {step : Step σ ExchangeFailure α}
    (determined : authority organization repository permission (some oid) = true →
      Determined steady step) :
    Determined steady (allowed authority organization repository permission oid step) := by
  unfold allowed
  by_cases granted : authority organization repository permission (some oid) = true
  · rw [if_pos granted]
    exact determined granted
  · rw [if_neg granted]
    exact determined_throw _

theorem fetch_determined {oid : String}
    (fixed : authority organization repository .read (some oid) = true →
      store.DeterminedAt steady (placeOf organization repository) oid) (hints : Hints) :
    Determined steady (fetch store authority organization repository oid hints) := by
  apply allowed_determined
  intro granted
  apply (fixed granted).holds.ofStore.bind
  intro present
  cases present with
  | false => exact determined_throw _
  | true =>
    refine (fixed granted).mimeType.ofStore.bind fun mimeType => ?_
    exact (fixed granted).get.ofStore.bind fun content => determined_pure _

theorem verify_determined (payload : Verification)
    (fixed : authority organization repository .readMeta (some payload.oid) = true →
      store.DeterminedAt steady (placeOf organization repository) payload.oid) :
    Determined steady (verify store authority organization repository payload) := by
  apply allowed_determined
  intro granted
  apply ((fixed granted).verify payload.size).ofStore.bind
  intro fits
  cases fits with
  | true => exact determined_pure ()
  | false => exact determined_throw _

end Objects

/-! ## Batches -/

namespace Batch

variable {basic : BasicTransfer σ} {organization repository : String} {operation : Operation}

theorem uploadAnswer_determined {transfer : Transfer σ} {object : Item} {hints : Hints}
    (fixed : Determined steady
      (transfer.upload organization repository object.oid object.size hints)) :
    Determined steady (uploadAnswer transfer organization repository object hints) := by
  apply fixed.tryCatch
  intro error
  cases error with
  | store inner => exact determined_pure _
  | _ => exact determined_throw _

theorem answer_determined (authority : Authority) (now : Int) (operation : Operation)
    (object : Item)
    (fixed : authority organization repository operation.permission (some object.oid) = true →
      basic.store.DeterminedAt steady (placeOf organization repository) object.oid) :
    Determined steady
      (answer (basic.transfer now) authority organization repository operation object) := by
  unfold answer
  by_cases granted :
      authority organization repository operation.permission (some object.oid) = true
  · rw [if_pos granted]
    cases operation with
    | upload =>
      exact uploadAnswer_determined (BasicTransfer.upload_determined (fixed granted) now _)
    | download => exact BasicTransfer.download_determined (fixed granted) _ _
  · rw [if_neg granted]
    exact determined_pure _

theorem answers_determined {transfer : Transfer σ} {authority : Authority} (objects : List Item)
    (each : ∀ object ∈ objects, Determined steady
      (answer transfer authority organization repository operation object)) :
    Determined steady
      (answers transfer authority organization repository operation objects) := by
  induction objects with
  | nil => exact determined_pure []
  | cons object rest ih =>
    refine (each object List.mem_cons_self).bind fun first => ?_
    refine (ih fun later inside => each later (List.mem_cons_of_mem _ inside)).bind fun others => ?_
    exact determined_pure _

theorem carryOut_determined (authority : Authority) (now : Int) (request : Request)
    (fixed : ∀ object ∈ request.objects,
      authority organization repository request.operation.permission (some object.oid) = true →
        basic.store.DeterminedAt steady (placeOf organization repository) object.oid) :
    Determined steady
      (carryOut (basic.transfer now) authority organization repository request) := by
  unfold carryOut
  by_cases accepted : request.accepts (basic.transfer now).name = true
  · rw [if_pos accepted]
    refine (answers_determined request.objects fun object inside => ?_).bind fun entries =>
      determined_pure _
    exact answer_determined authority now request.operation object (fixed object inside)
  · rw [if_neg accepted]
    exact determined_throw _

theorem answers_getElem? (steady : σ → Prop) (transfer : Transfer σ) {authority : Authority}
    (objects : List Item)
    (kept : ∀ object state, steady state →
      steady (answer transfer authority organization repository operation object state).2) :
    ∀ (state : σ) (entries : List Answer), steady state →
      (answers transfer authority organization repository operation objects state).1 =
        .ok entries →
      ∀ (place : Nat) (object : Item), objects[place]? = some object →
        ∃ entry between, entries[place]? = some entry ∧ steady between ∧
          (answer transfer authority organization repository operation object between).1 =
            .ok entry := by
  induction objects with
  | nil =>
    intro _ _ _ _ place object here
    cases here
  | cons first rest ih =>
    intro state entries inside success place object here
    obtain ⟨entry, between, answered, success⟩ := (Step.bind_eq_ok_iff _ _ _ _).mp success
    obtain ⟨others, after, continued, success⟩ := (Step.bind_eq_ok_iff _ _ _ _).mp success
    cases success
    cases place with
    | zero =>
      cases here
      exact ⟨entry, state, rfl, inside, by rw [answered]⟩
    | succ earlier =>
      have later := kept first state inside
      rw [answered] at later
      exact ih between others later (by rw [continued]) earlier object here

end Batch

/-! ## Objects in memory -/

namespace MemoryStore

def Alike (names : ObjectName → Prop) (first second : MemoryObjects) : Prop :=
  ∀ name, names name → first.get? name = second.get? name

theorem determinedAt (memory : MemoryStore) (names : ObjectName → Prop) (objects : MemoryObjects)
    (place oid : String) (among : names ⟨place, oid⟩) :
    memory.store.DeterminedAt (Alike names objects) place oid where
  holds := by
    refine ⟨.ok (objects.get? ⟨place, oid⟩).isSome, fun state alike => ⟨?_, alike⟩⟩
    rw [alike _ among]
    rfl
  size := by
    refine ⟨(memory.report objects).size place oid, fun state alike => ?_⟩
    rw [size_apply]
    refine ⟨?_, alike⟩
    simp only [report, alike _ among]
  get := by
    refine ⟨(memory.store.get place oid objects).1, fun state alike => ?_⟩
    rw [get_apply, get_apply, alike _ among]
    exact ⟨rfl, alike⟩
  mimeType := determined_pure _
  downloadAction _ _ _ := determined_pure _

end MemoryStore

end ObjectTransfer
