import ObjectTransfer.Proofs.Exchange.ContentIntegrity
import ObjectTransfer.Proofs.Exchange.Observation

/-!
# Objects that are kept apart

An upload that is addressed to one object should make no difference to what
anybody is told about another one.  With the objects in memory it makes none
exactly if the two have different names in the store.

Organizations without a slash in their names see to that.  With a slash, the
same name can stand for objects of two repositories, one of them in another
organization, and whoever may write the one changes the other.
-/

set_option autoImplicit false

namespace ObjectTransfer

variable {σ : Type}

/-- Nobody who asks about this object, by itself or in a batch, is told anything else in the second
state than in the first. -/
structure BasicTransfer.TellsAlike (basic : BasicTransfer σ) (address : ObjectAddress)
    (before after : σ) : Prop where
  fetch : ∀ authority hints,
    (Objects.fetch basic.store authority address.organization address.repository address.oid hints
        before).1 =
      (Objects.fetch basic.store authority address.organization address.repository address.oid
        hints after).1
  verify : ∀ authority size,
    (Objects.verify basic.store authority address.organization address.repository
        ⟨address.oid, size⟩ before).1 =
      (Objects.verify basic.store authority address.organization address.repository
        ⟨address.oid, size⟩ after).1
  answer : ∀ authority now operation size hints,
    (Batch.answer (basic.transfer now) authority address.organization address.repository operation
        ⟨address.oid, size, hints⟩ before).1 =
      (Batch.answer (basic.transfer now) authority address.organization address.repository
        operation ⟨address.oid, size, hints⟩ after).1
  entry : ∀ authority now request response later,
    (Batch.carryOut (basic.transfer now) authority address.organization address.repository request
      before).1 = .ok response →
    (Batch.carryOut (basic.transfer now) authority address.organization address.repository request
      after).1 = .ok later →
    ∀ (place : Nat) (object : Batch.Item), request.objects[place]? = some object →
      object.oid = address.oid → response.objects[place]? = later.objects[place]?

namespace MemoryStore

variable {memory : MemoryStore} {basic : BasicTransfer MemoryObjects}

theorem alike_answer (inMemory : basic.store = memory.store) (names : ObjectName → Prop)
    (objects : MemoryObjects) (authority : Authority) (organization repository : String)
    (now : Int) (operation : Operation) (object : Batch.Item) (state : MemoryObjects)
    (alike : Alike names objects state) :
    Alike names objects
      (Batch.answer (basic.transfer now) authority organization repository operation object
        state).2 := by
  have everywhere : ∀ oid, basic.store.DeterminedAt (Alike (fun _ => True) state)
      (placeOf organization repository) oid := by
    intro oid
    rw [inMemory]
    exact memory.determinedAt _ state _ oid trivial
  have unchanged := (Batch.answer_determined authority now operation object
    fun _ => everywhere object.oid).stays fun _ _ => rfl
  intro name among
  exact (alike name among).trans (unchanged name trivial)

/-- What is told about an object depends on nothing but what is under its name. -/
theorem tellsAlike (inMemory : basic.store = memory.store) (address : ObjectAddress)
    (before after : MemoryObjects) (same : before.get? address.name = after.get? address.name) :
    basic.TellsAlike address before after := by
  have fixed : basic.store.DeterminedAt (Alike (· = address.name) before) address.place
      address.oid := by
    rw [inMemory]
    exact memory.determinedAt _ before _ _ rfl
  have first : Alike (· = address.name) before before := fun _ _ => rfl
  have second : Alike (· = address.name) before after := by
    rintro _ rfl
    exact same
  constructor
  · intro authority hints
    exact (Objects.fetch_determined authority (fun _ => fixed) hints).eq first second
  · intro authority size
    exact (Objects.verify_determined authority ⟨address.oid, size⟩ fun _ => fixed).eq first second
  · intro authority now operation size hints
    exact (Batch.answer_determined authority now operation ⟨address.oid, size, hints⟩
      fun _ => fixed).eq first second
  · intro authority now request response later told toldLater place object here sameOid
    have answered := Batch.answers_getElem? _ (basic.transfer now) request.objects
      (alike_answer inMemory (· = address.name) before authority address.organization
        address.repository now request.operation)
    obtain ⟨entry, between, found, steady, said⟩ := answered before response.objects first
      (Batch.carryOut_objects _ _ _ _ _ _ _ told) place object here
    obtain ⟨other, further, foundLater, steadyLater, saidLater⟩ := answered after later.objects
      second (Batch.carryOut_objects _ _ _ _ _ _ _ toldLater) place object here
    have determined := Batch.answer_determined authority now request.operation object
      fun _ => sameOid ▸ fixed
    have equal := determined.eq steady steadyLater
    rw [said, saidLater] at equal
    rw [found, foundLater, Except.ok.inj equal]

theorem get?_put_of_ne (authority : Authority) (address : ObjectAddress) (content : Content)
    (objects : MemoryObjects) (name : ObjectName) (other : address.name ≠ name) :
    (Objects.put memory.store authority address.organization address.repository address.oid
      content objects).2.get? name = objects.get? name := by
  rw [uploaded]
  split
  · cases content.joined with
    | ok octets => exact (Table.get?_put _ _ _ _).trans (if_neg other)
    | error error => rfl
  · rfl

theorem not_tellsAlike (memory : MemoryStore) (basic : BasicTransfer MemoryObjects)
    (inMemory : basic.store = memory.store) (address other : ObjectAddress)
    (same : address.name = other.name) :
    ¬ basic.TellsAlike other []
      (Objects.put basic.store (fun _ _ _ _ => true) address.organization address.repository
        address.oid [.ok []] []).2 := by
  intro tells
  have told := tells.fetch (fun _ _ _ _ => true) Hints.empty
  have stored : (Objects.put memory.store (fun _ _ _ _ => true) address.organization
      address.repository address.oid [.ok []] []).2 = Table.put [] other.name [] := by
    rw [uploaded, ← same]
    rfl
  have here : Table.get? (Table.put [] other.name ([] : Octets)) other.name = some [] := by
    rw [Table.get?_put, if_pos rfl]
  simp only [ObjectAddress.name, ObjectAddress.place] at here
  rw [inMemory, stored, fetched, fetched] at told
  simp only [ObjectAddress.name, ObjectAddress.place, here] at told
  cases told

/-- Uploads that are addressed to one object never make a difference to what is told about another
one exactly if the two have different names in the store; and where no slash is in the names of the
organizations, different objects do. -/
theorem put_separates (memory : MemoryStore) (basic : BasicTransfer MemoryObjects)
    (inMemory : basic.store = memory.store) (address other : ObjectAddress) :
    ((∀ authority content objects, basic.TellsAlike other objects
        (Objects.put basic.store authority address.organization address.repository address.oid
          content objects).2) ↔ address.name ≠ other.name) ∧
      ('/' ∉ address.organization.toList → '/' ∉ other.organization.toList → address ≠ other →
        address.name ≠ other.name) := by
  refine ⟨⟨?_, ?_⟩, ?_⟩
  · intro apart same
    exact not_tellsAlike memory basic inMemory address other same (apart _ _ _)
  · intro different authority content objects
    apply tellsAlike inMemory
    rw [inMemory, get?_put_of_ne authority address content objects other.name different]
  · intro clear otherClear different same
    exact different ((ObjectAddress.name_inj clear otherClear).mp same)

theorem put_separates_nested :
    let address : ObjectAddress := ⟨"acme", "team/widgets", "abc"⟩
    let other : ObjectAddress := ⟨"gadgets", "team/widgets", "abc"⟩
    '/' ∉ address.organization.toList ∧ '/' ∉ other.organization.toList ∧ address ≠ other ∧
      ∀ authority content objects, server.TellsAlike other objects
        (Objects.put server.store authority address.organization address.repository address.oid
          content objects).2 := by
  intro address other
  have clear : '/' ∉ address.organization.toList := by decide
  have otherClear : '/' ∉ other.organization.toList := by decide
  have different : address ≠ other := by decide
  have separated := put_separates ⟨none⟩ server rfl address other
  exact ⟨clear, otherClear, different, separated.1.mpr (separated.2 clear otherClear different)⟩

/-- Objects of different repositories are not always kept apart: one repository may have in its own
name what for another belongs to the organization. -/
theorem put_separates_confused :
    ¬ ∀ (memory : MemoryStore) (basic : BasicTransfer MemoryObjects), basic.store = memory.store →
        ∀ address other : ObjectAddress, address ≠ other →
          ∀ authority content objects, basic.TellsAlike other objects
            (Objects.put basic.store authority address.organization address.repository address.oid
              content objects).2 := by
  intro apart
  refine not_tellsAlike ⟨none⟩ server rfl ⟨"acme", "team/widgets", "abc"⟩
    ⟨"acme/team", "widgets", "abc"⟩ (by decide) ?_
  exact apart ⟨none⟩ server rfl _ _ (by decide) _ _ _

end MemoryStore

end ObjectTransfer
