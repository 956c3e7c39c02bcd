import ObjectTransfer.Exchange.Objects
import ObjectTransfer.Proofs.Exchange.BatchAnswers

/-!
# Requests to a store in memory

What each request comes to when the objects are in memory, as an equation on
the table of objects.  Only an upload with a permission and without an error on
its way changes the table, and it changes one entry; whatever else is asked for
leaves the table as it is.
-/

set_option autoImplicit false

namespace ObjectTransfer

namespace MemoryStore

variable (memory : MemoryStore) (authority : Authority) (organization repository oid : String)
  (objects : MemoryObjects)

theorem uploaded (content : Content) :
    Objects.put memory.store authority organization repository oid content objects =
      if authority organization repository .write (some oid) then
        match content.joined with
        | .ok octets => (.ok (), objects.put ⟨placeOf organization repository, oid⟩ octets)
        | .error error => (.error (.store error), objects)
      else (.error ExchangeFailure.denied, objects) := by
  unfold Objects.put Objects.allowed
  split
  · rw [Step.ofStore_apply, put_apply]
    cases content.joined <;> rfl
  · rfl

theorem fetched (hints : Hints) :
    Objects.fetch memory.store authority organization repository oid hints objects =
      (if authority organization repository .read (some oid) then
        match objects.get? ⟨placeOf organization repository, oid⟩ with
        | some octets =>
          .ok ⟨Objects.downloadHeaders hints octetStream, Content.ofOctets octets⟩
        | none => .error (.notFound "The object was not found")
      else .error ExchangeFailure.denied, objects) := by
  unfold Objects.fetch Objects.allowed
  split
  · have present : ofStore (memory.store.holds (placeOf organization repository) oid) objects =
        (.ok (objects.get? ⟨placeOf organization repository, oid⟩).isSome, objects) := rfl
    have typed : ofStore (memory.store.mimeType (placeOf organization repository) oid) objects =
        (.ok octetStream, objects) := rfl
    rw [Step.bind_apply, present]
    cases found : objects.get? ⟨placeOf organization repository, oid⟩ with
    | none => rfl
    | some octets =>
      simp only [Option.isSome_some, if_true]
      rw [Step.bind_apply, typed]
      simp only
      rw [Step.bind_apply, Step.ofStore_apply, get_apply, found]
      rfl
  · rfl

theorem verified (payload : Verification) :
    Objects.verify memory.store authority organization repository payload objects =
      (if authority organization repository .readMeta (some payload.oid) then
        if (objects.get? ⟨placeOf organization repository, payload.oid⟩).map List.length =
            some payload.size.toNat then .ok ()
        else .error (.invalidPayload "Object does not exist or size does not match")
      else .error ExchangeFailure.denied, objects) := by
  unfold Objects.verify Objects.allowed
  split
  · rw [Step.bind_apply, Step.ofStore_apply]
    unfold Store.verify
    rw [Step.tryCatch_apply, Step.bind_apply, size_apply]
    simp only [report]
    cases objects.get? ⟨placeOf organization repository, payload.oid⟩ with
    | none => rfl
    | some content =>
      by_cases same : content.length = payload.size.toNat
      · have measured : (content.length == payload.size.toNat) = true := beq_iff_eq.mpr same
        simp only [measured, Option.map_some, if_pos (congrArg some same)]
        rfl
      · have measured : (content.length == payload.size.toNat) = false :=
          beq_eq_false_iff_ne.mpr same
        have other : ¬ some content.length = some payload.size.toNat :=
          fun equal => same (Option.some.inj equal)
        simp only [measured, Option.map_some, if_neg other]
        rfl
  · rfl

theorem batched (basic : BasicTransfer MemoryObjects) (inMemory : basic.store = memory.store)
    (now : Int) (request : Batch.Request) :
    (Batch.carryOut (basic.transfer now) authority organization repository request objects).2 =
      objects := by
  have keeps := memory.keepsTo objects
  rw [← inMemory] at keeps
  obtain ⟨_, settled⟩ := Batch.carryOut_settled keeps request
  exact (settled objects rfl).2

end MemoryStore

end ObjectTransfer
