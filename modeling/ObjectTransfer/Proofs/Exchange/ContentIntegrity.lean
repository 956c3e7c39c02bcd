import ObjectTransfer.Proofs.Exchange.MemoryRequests
import ObjectTransfer.Proofs.Exchange.ServerRuns
import ObjectTransfer.Proofs.Store.Addresses

/-!
# Content stays what was uploaded last

Over any run of calls to a server with its objects in memory, an object holds
the content of the last upload that was addressed to just this object, by
somebody who might write it, and that came through whole.  Nothing else that is
asked for touches it, and whoever downloads it gets this content.

Objects of different repositories are kept apart by the slash between the names
of the organization and the repository, which is why organizations may not have
a slash in their own names.
-/

set_option autoImplicit false

namespace ObjectTransfer

/-! ## Whole content -/

/-- All chunks in a row, if none of them is an error. -/
def Content.whole? (content : Content) : Option Octets :=
  (content.mapM Except.toOption).map List.flatten

theorem Content.whole?_eq (content : Content) : content.whole? = content.joined.toOption := by
  induction content with
  | nil => rfl
  | cons chunk rest ih =>
    unfold whole? at ih ⊢
    cases chunk with
    | error error => rfl
    | ok octets =>
      have first : (Except.ok octets : Except StoreFailure Octets).toOption = some octets := rfl
      rw [List.mapM_cons, joined, first]
      cases others : rest.mapM Except.toOption with
      | none =>
        rw [others] at ih
        cases later : joined rest with
        | error error => rfl
        | ok more => rw [later] at ih; cases ih
      | some chunks =>
        rw [others] at ih
        cases later : joined rest with
        | error error => rw [later] at ih; cases ih
        | ok more =>
          rw [later] at ih
          cases ih
          rfl

theorem Content.whole?_ofOctets (octets : Octets) : (ofOctets octets).whole? = some octets := by
  rw [whole?_eq, joined_ofOctets]
  rfl

/-! ## What is left in an object -/

/-- What a call leaves in an object: all that was uploaded to just this object by somebody who may
write it. -/
def Call.leaves? (call : Call) (organization repository oid : String) : Option Octets :=
  match call.task with
  | .put asked content =>
    if (call.organization, call.repository, asked) = (organization, repository, oid) ∧
        call.authority call.organization call.repository .write (some asked) = true then
      content.whole?
    else none
  | .batch _ _ => none
  | .fetch _ _ => none
  | .verify _ => none

/-- What the last call that left something in an object left there, or what was there before. -/
def contentAfter (initial : MemoryObjects) (calls : List Call)
    (organization repository oid : String) : Option Octets :=
  (calls.reverse.findSome? fun call => call.leaves? organization repository oid).or
    (initial.get? ⟨placeOf organization repository, oid⟩)

namespace MemoryStore

variable {memory : MemoryStore} {basic : BasicTransfer MemoryObjects}

theorem get?_uploaded (authority : Authority) (ownOrganization ownRepository asked : String)
    (content : Content) (objects : MemoryObjects) (ownClear : '/' ∉ ownOrganization.toList)
    (organization repository oid : String) (clear : '/' ∉ organization.toList) :
    (Objects.put memory.store authority ownOrganization ownRepository asked content
        objects).2.get? ⟨placeOf organization repository, oid⟩ =
      (Call.leaves? ⟨authority, ownOrganization, ownRepository, .put asked content⟩ organization
        repository oid).or (objects.get? ⟨placeOf organization repository, oid⟩) := by
  rw [uploaded]
  simp only [Call.leaves?, Content.whole?_eq]
  by_cases granted : authority ownOrganization ownRepository .write (some asked) = true
  · cases content.joined with
    | error error => simp [Except.toOption, granted]
    | ok octets =>
      by_cases addressed : (ownOrganization, ownRepository, asked) = (organization, repository, oid)
      · cases addressed
        simp [Except.toOption, granted]
      · have apart : ObjectName.mk (placeOf ownOrganization ownRepository) asked ≠
            ⟨placeOf organization repository, oid⟩ := by
          intro same
          obtain ⟨samePlace, rfl⟩ := ObjectName.mk.inj same
          obtain ⟨rfl, rfl⟩ := placeOf_inj ownClear clear samePlace
          exact addressed rfl
        rw [if_pos granted, Table.get?_put, if_neg apart, if_neg fun both => addressed both.1]
        rfl
  · rw [if_neg granted, if_neg fun both => granted both.2]
    rfl

theorem get?_serve (inMemory : basic.store = memory.store) (call : Call) (objects : MemoryObjects)
    (callClear : '/' ∉ call.organization.toList) (organization repository oid : String)
    (clear : '/' ∉ organization.toList) :
    (basic.serve call objects).2.get? ⟨placeOf organization repository, oid⟩ =
      (call.leaves? organization repository oid).or
        (objects.get? ⟨placeOf organization repository, oid⟩) := by
  obtain ⟨authority, ownOrganization, ownRepository, task⟩ := call
  cases task with
  | put asked content =>
    rw [← get?_uploaded authority ownOrganization ownRepository asked content objects callClear
      organization repository oid clear, ← inMemory]
    rfl
  | batch now request =>
    have kept := memory.batched authority ownOrganization ownRepository objects basic inMemory now
      request
    simp only [BasicTransfer.serve, Call.leaves?, Prod.map_snd, kept, id, Option.none_or]
  | fetch asked hints =>
    simp only [BasicTransfer.serve, Call.leaves?, Prod.map_snd, inMemory, fetched, id,
      Option.none_or]
  | verify payload =>
    simp only [BasicTransfer.serve, Call.leaves?, Prod.map_snd, inMemory, verified, id,
      Option.none_or]

theorem get?_run (inMemory : basic.store = memory.store) (calls : List Call)
    (initial : MemoryObjects) (callsClear : ∀ call ∈ calls, '/' ∉ call.organization.toList)
    (organization repository oid : String) (clear : '/' ∉ organization.toList) :
    (basic.run calls initial).2.get? ⟨placeOf organization repository, oid⟩ =
      contentAfter initial calls organization repository oid := by
  induction calls generalizing initial with
  | nil => rfl
  | cons call rest ih =>
    have step := get?_serve inMemory call initial (callsClear call List.mem_cons_self) organization
      repository oid clear
    have later := ih (basic.serve call initial).2
      fun other inside => callsClear other (List.mem_cons_of_mem _ inside)
    rw [BasicTransfer.run_cons, later, contentAfter, contentAfter, step, List.reverse_cons,
      List.findSome?_append, List.findSome?_singleton, Option.or_assoc]

theorem fetched_ok {authority : Authority} {organization repository oid : String} {hints : Hints}
    {objects : MemoryObjects} {download : Download}
    (success : (Objects.fetch memory.store authority organization repository oid hints
      objects).1 = .ok download) :
    ∃ octets, objects.get? ⟨placeOf organization repository, oid⟩ = some octets ∧
      download.content = Content.ofOctets octets := by
  rw [fetched] at success
  split at success
  · cases found : objects.get? ⟨placeOf organization repository, oid⟩ with
    | none =>
      rw [found] at success
      cases success
    | some octets =>
      rw [found] at success
      cases success
      exact ⟨octets, rfl, rfl⟩
  · cases success

/-- After any run an object holds what the last upload to it left there, if there was one, and else
what it held before; and each download that succeeds on the way gives what the object held then. -/
theorem run_integrity (memory : MemoryStore) (basic : BasicTransfer MemoryObjects)
    (inMemory : basic.store = memory.store) (initial : MemoryObjects) (calls : List Call)
    (callsClear : ∀ call ∈ calls, '/' ∉ call.organization.toList) :
    (∀ organization repository oid, '/' ∉ organization.toList →
      (basic.run calls initial).2.get? ⟨placeOf organization repository, oid⟩ =
        contentAfter initial calls organization repository oid) ∧
    ∀ (place : Nat) (call : Call) (oid : String) (hints : Hints) (download : Download),
      calls[place]? = some call → call.task = .fetch oid hints →
      (basic.run calls initial).1[place]? = some (.fetch (.ok download)) →
      ∃ octets,
        contentAfter initial (calls.take place) call.organization call.repository oid =
          some octets ∧
        download.content.whole? = some octets := by
  constructor
  · intro organization repository oid clear
    exact get?_run inMemory calls initial callsClear organization repository oid clear
  · intro place call oid hints download here asked replied
    obtain ⟨authority, organization, repository, task⟩ := call
    cases asked
    rw [BasicTransfer.run_reply, here] at replied
    have success : (Objects.fetch memory.store authority organization repository oid hints
        (basic.run (calls.take place) initial).2).1 = .ok download := by
      rw [← inMemory]
      exact Reply.fetch.inj (Option.some.inj replied)
    obtain ⟨octets, held, streamed⟩ := fetched_ok success
    have among := List.mem_of_getElem? here
    have before : ∀ other ∈ calls.take place, '/' ∉ other.organization.toList :=
      fun other inside => callsClear other (List.mem_of_mem_take inside)
    rw [get?_run inMemory _ _ before _ _ _ (callsClear _ among)] at held
    exact ⟨octets, held, by rw [streamed, Content.whole?_ofOctets]⟩

def server : BasicTransfer MemoryObjects :=
  ⟨(MemoryStore.mk none).store, .none, ExchangeSettings.localEndpoints, 900, 43200⟩

/-- An upload in two chunks, three that do not count for the same object, and its download. -/
def uploads : List Call :=
  [⟨fun _ _ _ _ => true, "acme", "widgets", .put "0a" [.ok [1], .ok [2, 3]]⟩,
    ⟨fun _ _ _ _ => true, "acme", "widgets", .put "0a" [.ok [4], .error (.backend "reset")]⟩,
    ⟨fun _ _ _ _ => false, "acme", "widgets", .put "0a" [.ok [5]]⟩,
    ⟨fun _ _ _ _ => true, "acme", "gadgets", .put "0a" [.ok [6]]⟩,
    ⟨fun _ _ _ _ => true, "acme", "widgets", .fetch "0a" Hints.empty⟩]

theorem run_integrity_uploads :
    (server.run uploads []).2.get? ⟨placeOf "acme" "widgets", "0a"⟩ = some [1, 2, 3] ∧
    ∃ download, (server.run uploads []).1[4]? = some (.fetch (.ok download)) ∧
      download.content.whole? = some [1, 2, 3] := by
  have callsClear : ∀ call ∈ uploads, '/' ∉ call.organization.toList := by decide
  obtain ⟨held, streamed⟩ := run_integrity ⟨none⟩ server rfl [] uploads callsClear
  refine ⟨(held "acme" "widgets" "0a" (by decide)).trans rfl, _, rfl, ?_⟩
  obtain ⟨octets, same, whole⟩ := streamed 4 _ "0a" Hints.empty _ rfl rfl rfl
  rw [whole, ← same]
  rfl

end MemoryStore

end ObjectTransfer
