import ObjectTransfer.Proofs.Exchange.ContentIntegrity
import ObjectTransfer.Proofs.Exchange.Observation
import ObjectTransfer.Proofs.Store.BucketRequests

/-!
# What may not be touched cannot be seen

Somebody asks a server about one repository, and holds permissions on some of
its objects.  Two tables that hold the same under the names of these objects are
then the same to them: every call is replied to alike, and the two tables are
still alike after it, so the same goes for any run of calls.

A request that lacks its permission is refused before the store is asked.  So it
makes no difference what the store would have done with such an object, neither
to the request itself nor to a batch that the object is a part of.
-/

set_option autoImplicit false

namespace ObjectTransfer

variable {σ : Type}

/-- The names of a repository's objects on which somebody holds a permission, whichever it is. -/
def Authority.Touches (authority : Authority) (organization repository : String)
    (name : ObjectName) : Prop :=
  name.place = placeOf organization repository ∧
    ∃ permission, authority organization repository permission (some name.oid) = true

theorem Authority.touches_of_granted {authority : Authority} {organization repository oid : String}
    {permission : Permission}
    (granted : authority organization repository permission (some oid) = true) :
    authority.Touches organization repository ⟨placeOf organization repository, oid⟩ :=
  ⟨rfl, permission, granted⟩

/-! ## Two tables -/

namespace MemoryStore

variable {memory : MemoryStore} {basic : BasicTransfer MemoryObjects} {names : ObjectName → Prop}
  {first second : MemoryObjects}

theorem Alike.put (alike : Alike names first second) (name : ObjectName) (octets : Octets) :
    Alike names (first.put name octets) (second.put name octets) := by
  intro other among
  rw [Table.get?_put, Table.get?_put, alike other among]

theorem Alike.uploaded (alike : Alike names first second) (authority : Authority)
    (organization repository oid : String) (content : Content) :
    (Objects.put memory.store authority organization repository oid content first).1 =
        (Objects.put memory.store authority organization repository oid content second).1 ∧
      Alike names
        (Objects.put memory.store authority organization repository oid content first).2
        (Objects.put memory.store authority organization repository oid content second).2 := by
  rw [MemoryStore.uploaded, MemoryStore.uploaded]
  split
  · cases content.joined with
    | ok octets => exact ⟨rfl, alike.put _ octets⟩
    | error error => exact ⟨rfl, alike⟩
  · exact ⟨rfl, alike⟩

theorem Alike.serve (inMemory : basic.store = memory.store) (authority : Authority)
    (organization repository : String)
    (alike : Alike (authority.Touches organization repository) first second) (task : Task) :
    let call : Call := ⟨authority, organization, repository, task⟩
    (basic.serve call first).1 = (basic.serve call second).1 ∧
      Alike (authority.Touches organization repository) (basic.serve call first).2
        (basic.serve call second).2 := by
  have itself : Alike (authority.Touches organization repository) first first :=
    fun _ _ => rfl
  have fixed : ∀ permission oid,
      authority organization repository permission (some oid) = true →
        memory.store.DeterminedAt (Alike (authority.Touches organization repository) first)
          (placeOf organization repository) oid :=
    fun permission oid granted =>
      memory.determinedAt _ first _ oid (Authority.touches_of_granted granted)
  cases task with
  | batch now request =>
    have told := (Batch.carryOut_determined authority now request fun object _ =>
      inMemory ▸ fixed _ object.oid).eq itself alike
    refine ⟨congrArg Reply.batch told, ?_⟩
    simp only [BasicTransfer.serve, Prod.map_snd, id,
      memory.batched authority organization repository _ basic inMemory now request]
    exact alike
  | put oid content =>
    obtain ⟨told, after⟩ := alike.uploaded authority organization repository oid content
    rw [← inMemory] at told after
    exact ⟨congrArg Reply.put told, after⟩
  | fetch oid hints =>
    have told := (Objects.fetch_determined authority (fixed _ oid) hints).eq itself alike
    rw [← inMemory] at told
    refine ⟨congrArg Reply.fetch told, ?_⟩
    simp only [BasicTransfer.serve, Prod.map_snd, id, inMemory, fetched]
    exact alike
  | verify payload =>
    have told :=
      (Objects.verify_determined authority payload (fixed _ payload.oid)).eq itself alike
    rw [← inMemory] at told
    refine ⟨congrArg Reply.verify told, ?_⟩
    simp only [BasicTransfer.serve, Prod.map_snd, id, inMemory, verified]
    exact alike

theorem Alike.run (inMemory : basic.store = memory.store) (authority : Authority)
    (organization repository : String)
    (alike : Alike (authority.Touches organization repository) first second)
    (tasks : List Task) :
    let calls := tasks.map (Call.mk authority organization repository)
    (basic.run calls first).1 = (basic.run calls second).1 := by
  induction tasks generalizing first second with
  | nil => rfl
  | cons task rest ih =>
    obtain ⟨told, after⟩ := alike.serve inMemory authority organization repository task
    simp only [List.map_cons, BasicTransfer.run_cons, told]
    rw [ih after]

end MemoryStore

/-! ## Refusals -/

/-- Without its permission a request is refused, whatever the store would have done and in whatever
state it is, and leaves that state as it is.  In a batch the store is not asked about such objects:
another store that does the same with all the others would lead to the same answer and the same
state. -/
structure BasicTransfer.RefusesUnasked (basic : BasicTransfer σ) (authority : Authority)
    (organization repository : String) : Prop where
  put : ∀ oid content state,
    ¬ authority organization repository .write (some oid) = true →
      Objects.put basic.store authority organization repository oid content state =
        (.error (.forbidden "Forbidden"), state)
  fetch : ∀ oid hints state,
    ¬ authority organization repository .read (some oid) = true →
      Objects.fetch basic.store authority organization repository oid hints state =
        (.error (.forbidden "Forbidden"), state)
  verify : ∀ payload state,
    ¬ authority organization repository .readMeta (some payload.oid) = true →
      Objects.verify basic.store authority organization repository payload state =
        (.error (.forbidden "Forbidden"), state)
  answer : ∀ now operation permission object state, operation.Needs permission →
    ¬ authority organization repository permission (some object.oid) = true →
      Batch.answer (basic.transfer now) authority organization repository operation object state =
        (.ok ((Answer.ofObject object.oid object.size).refusing ⟨403, "Forbidden"⟩), state)
  entry : ∀ now request permission state response, request.operation.Needs permission →
    (Batch.carryOut (basic.transfer now) authority organization repository request state).1 =
      .ok response →
    ∀ (place : Nat) (object : Batch.Item), request.objects[place]? = some object →
      ¬ authority organization repository permission (some object.oid) = true →
        response.objects[place]? =
          some ((Answer.ofObject object.oid object.size).refusing ⟨403, "Forbidden"⟩)
  batch : ∀ now request permission (other : Store σ), request.operation.Needs permission →
    (∀ oid, authority organization repository permission (some oid) = true →
      basic.store.AgreeOn other (placeOf organization repository) oid) →
    Batch.carryOut (basic.transfer now) authority organization repository request =
      Batch.carryOut ((({ basic with store := other } : BasicTransfer σ)).transfer now) authority
        organization repository request

theorem Objects.allowed_of_missing {α : Type} (authority : Authority)
    (organization repository oid : String) (permission : Permission)
    (step : Step σ ExchangeFailure α) (state : σ)
    (missing : ¬ authority organization repository permission (some oid) = true) :
    Objects.allowed authority organization repository permission oid step state =
      (.error ExchangeFailure.denied, state) := by
  rw [Objects.allowed, if_neg missing]
  rfl

namespace Batch

variable {authority : Authority} {organization repository : String}

theorem answer_of_missing (transfer : Transfer σ) {operation : Operation} {object : Item}
    (state : σ)
    (missing : ¬ authority organization repository operation.permission (some object.oid) = true) :
    answer transfer authority organization repository operation object state =
      (.ok ((Answer.ofObject object.oid object.size).refusing forbidden), state) := by
  unfold answer
  rw [if_neg missing]
  rfl

theorem entry_of_missing (transfer : Transfer σ) (request : Request) (state : σ)
    (response : Response)
    (success : (carryOut transfer authority organization repository request state).1 =
      .ok response)
    (place : Nat) (object : Item) (here : request.objects[place]? = some object)
    (missing : ¬ authority organization repository request.operation.permission
      (some object.oid) = true) :
    response.objects[place]? =
      some ((Answer.ofObject object.oid object.size).refusing forbidden) := by
  have answered := carryOut_objects transfer authority organization repository request state
    response success
  obtain ⟨entry, between, found, _, said⟩ := answers_getElem? (fun _ => True) transfer
    request.objects (fun _ _ _ => trivial) state response.objects trivial answered place object here
  rw [answer_of_missing transfer between missing] at said
  cases said
  exact found

section AnotherStore

variable (basic : BasicTransfer σ) (other : Store σ) (now : Int)

theorem upload_congr (object : Item)
    (alike : basic.store.AgreeOn other (placeOf organization repository) object.oid) :
    basic.upload now organization repository object.oid object.size =
      ({ basic with store := other } : BasicTransfer σ).upload now organization repository
        object.oid object.size := by
  simp only [BasicTransfer.upload, BasicTransfer.isStored, alike.holds, alike.size,
    BasicTransfer.actionHeaders]

theorem download_congr (object : Item) (hints : Hints)
    (alike : basic.store.AgreeOn other (placeOf organization repository) object.oid) :
    basic.download organization repository object.oid object.size hints =
      ({ basic with store := other } : BasicTransfer σ).download organization repository
        object.oid object.size hints := by
  unfold BasicTransfer.download
  simp only [BasicTransfer.offer, alike.size, alike.downloadAction]

theorem answer_congr (operation : Operation) (object : Item)
    (alike : authority organization repository operation.permission (some object.oid) = true →
      basic.store.AgreeOn other (placeOf organization repository) object.oid) :
    answer (basic.transfer now) authority organization repository operation object =
      answer (({ basic with store := other } : BasicTransfer σ).transfer now) authority
        organization repository operation object := by
  unfold answer
  by_cases granted :
      authority organization repository operation.permission (some object.oid) = true
  · rw [if_pos granted, if_pos granted]
    cases operation with
    | upload =>
      simp only [uploadAnswer, BasicTransfer.transfer, upload_congr basic other now object
        (alike granted)]
    | download => exact download_congr basic other object _ (alike granted)
  · rw [if_neg granted, if_neg granted]

theorem answers_congr (operation : Operation) (objects : List Item)
    (alike : ∀ oid, authority organization repository operation.permission (some oid) = true →
      basic.store.AgreeOn other (placeOf organization repository) oid) :
    answers (basic.transfer now) authority organization repository operation objects =
      answers (({ basic with store := other } : BasicTransfer σ).transfer now) authority
        organization repository operation objects := by
  induction objects with
  | nil => rfl
  | cons object rest ih =>
    rw [answers, answers, answer_congr basic other now operation object (alike object.oid), ih]

theorem carryOut_congr (request : Request)
    (alike : ∀ oid,
      authority organization repository request.operation.permission (some oid) = true →
        basic.store.AgreeOn other (placeOf organization repository) oid) :
    carryOut (basic.transfer now) authority organization repository request =
      carryOut (({ basic with store := other } : BasicTransfer σ).transfer now) authority
        organization repository request := by
  rw [carryOut, carryOut, answers_congr basic other now request.operation request.objects alike]
  rfl

end AnotherStore

end Batch

theorem BasicTransfer.refusesUnasked (basic : BasicTransfer σ) (authority : Authority)
    (organization repository : String) :
    basic.RefusesUnasked authority organization repository where
  put oid _ state missing :=
    Objects.allowed_of_missing authority organization repository oid .write _ state missing
  fetch oid _ state missing :=
    Objects.allowed_of_missing authority organization repository oid .read _ state missing
  verify payload state missing :=
    Objects.allowed_of_missing authority organization repository payload.oid .readMeta _ state
      missing
  answer now operation permission _ state needs missing := by
    obtain rfl := (operation.needs_iff permission).mp needs
    exact Batch.answer_of_missing (basic.transfer now) state missing
  entry now request permission state response needs success place object here missing := by
    obtain rfl := (request.operation.needs_iff permission).mp needs
    exact Batch.entry_of_missing (basic.transfer now) request state response success place object
      here missing
  batch now request permission other needs alike := by
    obtain rfl := (request.operation.needs_iff permission).mp needs
    exact Batch.carryOut_congr basic other now request alike

namespace MemoryStore

/-- Tables that hold the same wherever somebody has a permission get the same replies to any run of
their calls, and a request without its permission is refused without a look at any store. -/
theorem untouched_unseen (memory : MemoryStore) (basic : BasicTransfer MemoryObjects)
    (inMemory : basic.store = memory.store) (authority : Authority)
    (organization repository : String) :
    (∀ first second : MemoryObjects,
      Alike (authority.Touches organization repository) first second →
        ∀ tasks : List Task,
          (basic.run (tasks.map (Call.mk authority organization repository)) first).1 =
            (basic.run (tasks.map (Call.mk authority organization repository)) second).1) ∧
    ∀ {τ : Type} (elsewhere : BasicTransfer τ),
      elsewhere.RefusesUnasked authority organization repository := by
  constructor
  · intro first second alike tasks
    exact alike.run inMemory authority organization repository tasks
  · intro τ elsewhere
    exact elsewhere.refusesUnasked authority organization repository

def onlyFirst : Authority := fun _ _ _ oid => oid == some "0a"

def both : MemoryObjects :=
  [(⟨placeOf "acme" "widgets", "0a"⟩, [1]), (⟨placeOf "acme" "widgets", "0b"⟩, [2, 3])]

def alone : MemoryObjects := [(⟨placeOf "acme" "widgets", "0a"⟩, [1])]

def curious : List Task :=
  [.batch 0 ⟨.download, none, none, [⟨"0b", 2, none⟩, ⟨"0a", 1, none⟩]⟩, .verify ⟨"0b", 2⟩,
    .put "0a" [.ok [4]], .put "0b" [.ok [5]], .fetch "0b" Hints.empty, .fetch "0a" Hints.empty]

/-- Whether the second object is there cannot be found out without a permission on it. -/
theorem untouched_unseen_second_object :
    Alike (onlyFirst.Touches "acme" "widgets") both alone ∧
      both.get? ⟨placeOf "acme" "widgets", "0b"⟩ ≠ alone.get? ⟨placeOf "acme" "widgets", "0b"⟩ ∧
      (server.run (curious.map (Call.mk onlyFirst "acme" "widgets")) both).1 =
        (server.run (curious.map (Call.mk onlyFirst "acme" "widgets")) alone).1 ∧
      server.RefusesUnasked onlyFirst "acme" "widgets" := by
  have alike : Alike (onlyFirst.Touches "acme" "widgets") both alone := by
    rintro ⟨place, oid⟩ ⟨rfl, permission, granted⟩
    have first : oid = "0a" := by simpa [onlyFirst] using granted
    subst first
    rfl
  have seen := untouched_unseen ⟨none⟩ server rfl onlyFirst "acme" "widgets"
  exact ⟨alike, by decide, seen.1 both alone alike curious, seen.2 server⟩

end MemoryStore

end ObjectTransfer
