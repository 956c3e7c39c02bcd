import ObjectTransfer.Exchange.Objects
import ObjectTransfer.Proofs.Exchange.BatchAnswers
import ObjectTransfer.Proofs.Token.SignedHeaders
import ObjectTransfer.Store.Memory

/-!
# What a batch hands out is confined to its object

The answers of an upload batch carry headers.  Whoever presents those of the
upload may put the one object that the answer is about, and whoever presents
those of the verification may verify it; no other request gets through with
them, and no request at all once the lifetime named in the action is over.
-/

set_option autoImplicit false

namespace ObjectTransfer

/-! ## One permission on one object -/

/-- Authority over one object, for one permission. -/
def Authority.OnlyFor (authority : Authority) (organization repository oid : String)
    (permission : Permission) : Prop :=
  ∀ askedOrganization askedRepository asked askedOid,
    authority askedOrganization askedRepository asked askedOid = true ↔
      askedOrganization = organization ∧ askedRepository = repository ∧ askedOid = some oid ∧
        asked = permission

def Forbidden {α : Type} (outcome : Except ExchangeFailure α) : Prop :=
  ∃ reason, outcome = .error (.forbidden reason)

namespace Objects

variable {σ α : Type}

theorem allowed_of_granted (authority : Authority) (organization repository oid : String)
    (permission : Permission) (step : Step σ ExchangeFailure α)
    (granted : authority organization repository permission (some oid) = true) :
    allowed authority organization repository permission oid step = step := by
  rw [allowed, if_pos granted]

theorem forbidden_allowed (authority : Authority) (organization repository oid : String)
    (permission : Permission) (step : Step σ ExchangeFailure α) (state : σ)
    (missing : ¬ authority organization repository permission (some oid) = true) :
    Forbidden (allowed authority organization repository permission oid step state).1 := by
  rw [allowed, if_neg missing]
  exact ⟨_, rfl⟩

theorem not_forbidden_ofStore (step : Step σ StoreFailure α) (state : σ) :
    ¬ Forbidden (ofStore step state).1 := by
  rintro ⟨reason, failed⟩
  rw [Step.ofStore_apply] at failed
  cases outcome : (step state).1 with
  | ok value =>
    rw [outcome] at failed
    cases failed
  | error error =>
    rw [outcome] at failed
    cases failed

theorem not_forbidden_put (store : Store σ) (authority : Authority)
    (organization repository oid : String) (content : Content) (state : σ)
    (granted : authority organization repository .write (some oid) = true) :
    ¬ Forbidden (put store authority organization repository oid content state).1 := by
  rw [put, allowed_of_granted _ _ _ _ _ _ granted]
  exact not_forbidden_ofStore _ state

theorem not_forbidden_verify (store : Store σ) (authority : Authority)
    (organization repository : String) (payload : Verification) (state : σ)
    (granted : authority organization repository .readMeta (some payload.oid) = true) :
    ¬ Forbidden (verify store authority organization repository payload state).1 := by
  rw [verify, allowed_of_granted _ _ _ _ _ _ granted, Step.bind_apply]
  have asked := not_forbidden_ofStore
    (store.verify (placeOf organization repository) payload.oid payload.size) state
  cases outcome : ofStore
      (store.verify (placeOf organization repository) payload.oid payload.size) state with
  | mk answer after =>
    rw [outcome] at asked
    cases answer with
    | error error =>
      rintro ⟨reason, failed⟩
      cases failed
      exact asked ⟨reason, rfl⟩
    | ok present =>
      rintro ⟨reason, failed⟩
      cases present <;> cases failed

end Objects

/-- Whoever may do just this can put one object, and is turned away with every other request. -/
structure PutsOnly (authority : Authority) (organization repository oid : String) : Prop where
  put : ∀ {σ : Type} (store : Store σ) (content : Content) (state : σ),
    ¬ Forbidden (Objects.put store authority organization repository oid content state).1
  putElsewhere : ∀ {σ : Type} (store : Store σ) (content : Content) (state : σ)
    (otherOrganization otherRepository otherOid : String),
    (otherOrganization, otherRepository, otherOid) ≠ (organization, repository, oid) →
      Forbidden (Objects.put store authority otherOrganization otherRepository otherOid content
        state).1
  fetch : ∀ {σ : Type} (store : Store σ) (hints : Hints) (state : σ)
    (otherOrganization otherRepository otherOid : String),
    Forbidden (Objects.fetch store authority otherOrganization otherRepository otherOid hints
      state).1
  verify : ∀ {σ : Type} (store : Store σ) (state : σ)
    (otherOrganization otherRepository : String) (payload : Verification),
    Forbidden (Objects.verify store authority otherOrganization otherRepository payload state).1

structure VerifiesOnly (authority : Authority) (organization repository oid : String) : Prop where
  verify : ∀ {σ : Type} (store : Store σ) (size : UInt64) (state : σ),
    ¬ Forbidden (Objects.verify store authority organization repository ⟨oid, size⟩ state).1
  verifyElsewhere : ∀ {σ : Type} (store : Store σ) (state : σ)
    (otherOrganization otherRepository : String) (payload : Verification),
    (otherOrganization, otherRepository, payload.oid) ≠ (organization, repository, oid) →
      Forbidden (Objects.verify store authority otherOrganization otherRepository payload state).1
  put : ∀ {σ : Type} (store : Store σ) (content : Content) (state : σ)
    (otherOrganization otherRepository otherOid : String),
    Forbidden (Objects.put store authority otherOrganization otherRepository otherOid content
      state).1
  fetch : ∀ {σ : Type} (store : Store σ) (hints : Hints) (state : σ)
    (otherOrganization otherRepository otherOid : String),
    Forbidden (Objects.fetch store authority otherOrganization otherRepository otherOid hints
      state).1

namespace Authority.OnlyFor

variable {authority : Authority} {organization repository oid : String} {permission : Permission}

theorem forbidden {σ α : Type} (only : authority.OnlyFor organization repository oid permission)
    (otherOrganization otherRepository otherOid : String) (asked : Permission)
    (step : Step σ ExchangeFailure α) (state : σ)
    (other : asked = permission →
      (otherOrganization, otherRepository, otherOid) ≠ (organization, repository, oid)) :
    Forbidden (Objects.allowed authority otherOrganization otherRepository asked otherOid step
      state).1 := by
  apply Objects.forbidden_allowed
  intro granted
  obtain ⟨rfl, rfl, sameOid, same⟩ := (only _ _ _ _).mp granted
  cases sameOid
  exact other same rfl

theorem putsOnly (only : authority.OnlyFor organization repository oid .write) :
    PutsOnly authority organization repository oid where
  put store content state := by
    apply Objects.not_forbidden_put
    exact (only _ _ _ _).mpr ⟨rfl, rfl, rfl, rfl⟩
  putElsewhere store content state _ _ _ other := only.forbidden _ _ _ _ _ _ fun _ => other
  fetch store hints state _ _ _ := only.forbidden _ _ _ _ _ _ nofun
  verify store state _ _ payload := only.forbidden _ _ _ _ _ _ nofun

theorem verifiesOnly (only : authority.OnlyFor organization repository oid .readMeta) :
    VerifiesOnly authority organization repository oid where
  verify store size state := by
    apply Objects.not_forbidden_verify
    exact (only _ _ _ _).mpr ⟨rfl, rfl, rfl, rfl⟩
  verifyElsewhere store state _ _ payload other := only.forbidden _ _ _ _ _ _ fun _ => other
  put store content state _ _ _ := only.forbidden _ _ _ _ _ _ nofun
  fetch store hints state _ _ _ := only.forbidden _ _ _ _ _ _ nofun

end Authority.OnlyFor

/-! ## Headers for one action on one object -/

/-- Headers that stand for one permission on one object until a lifetime is over. -/
structure Signer.Confines (signer : Signer) (headers : Headers) (now : Int) (lifetime : UInt64)
    (organization repository oid : String) (permission : Permission) : Prop where
  expired : ∀ shown, ClockTime shown →
    (signer.authenticate headers shown = .error .expired ↔ now + lifetime.toNat ≤ shown)
  honoured : ∀ shown, ClockTime shown → shown < now + lifetime.toNat → ∃ identity,
    signer.authenticate headers shown = .ok (some identity) ∧
      identity.authority.OnlyFor organization repository oid permission

theorem Scope.onlyFor_of_delimits (organization repository oid : String) (action : TokenAction)
    (permission : Permission) (authority : Authority)
    (needs : ∀ asked, action.permissions.contains asked = true ↔ asked = permission)
    (delimits : Scope.Delimits ⟨organization, repository, some oid, ActionSet.ofList [action]⟩
      authority) : authority.OnlyFor organization repository oid permission := by
  intro askedOrganization askedRepository asked askedOid
  have chosen : (∃ other, (ActionSet.ofList [action]).contains other = true ∧
      other.permissions.contains asked = true) ↔ asked = permission := by
    rw [← needs asked]
    simp
  rw [delimits askedOrganization askedRepository asked askedOid, chosen]
  simp [and_comm]

theorem Signer.confines_headers (signer : Signer) (now : Int) (nowClock : ClockTime now)
    (organization repository oid : String) (action : TokenAction) (permission : Permission)
    (needs : ∀ asked, action.permissions.contains asked = true ↔ asked = permission)
    (lifetime : UInt64) (headers : Headers)
    (issued : signer.headers ⟨organization, repository, some oid, ActionSet.ofList [action]⟩
      lifetime now = .ok headers) :
    signer.Confines headers now lifetime organization repository oid permission := by
  rw [headers_eq] at issued
  split at issued
  · cases issued
  · cases issued
    have decided := fun shown shownClock => authenticate_issued signer
      ⟨organization, repository, some oid, ActionSet.ofList [action]⟩ lifetime now shown nowClock
      shownClock _ (Headers.carry_insert signer.headerName _)
    constructor
    · intro shown shownClock
      rw [decided shown shownClock]
      constructor
      · intro expired
        split at expired
        · assumption
        · cases expired
      · intro late
        exact if_pos late
    · intro shown shownClock early
      refine ⟨holder _, ?_, Scope.onlyFor_of_delimits _ _ _ _ _ _ needs (delimits_holder _)⟩
      rw [decided shown shownClock, if_neg (by omega)]

theorem Signer.Confines.onlyFor {signer : Signer} {headers : Headers} {now : Int}
    {lifetime : UInt64} {organization repository oid : String} {permission : Permission}
    (confines : signer.Confines headers now lifetime organization repository oid permission)
    (shown : Int) (shownClock : ClockTime shown) (identity : Identity)
    (known : signer.authenticate headers shown = .ok (some identity)) :
    identity.authority.OnlyFor organization repository oid permission := by
  by_cases late : now + lifetime.toNat ≤ shown
  · rw [(confines.expired shown shownClock).mpr late] at known
    cases known
  · obtain ⟨holder, same, only⟩ := confines.honoured shown shownClock (by omega)
    rw [same] at known
    cases known
    exact only

/-! ## From the answers back to the requests -/

variable {σ : Type}

theorem BasicTransfer.upload_offers_eq (basic : BasicTransfer σ) (now : Int)
    (organization repository oid : String) (size : UInt64) (state : σ) (answer : Answer)
    (offers : Offers)
    (success : (basic.upload now organization repository oid size state).1 = .ok answer)
    (offered : answer.offers = some offers) :
    answer.oid = oid ∧ answer.size = size ∧ ∃ uploadHeaders verifyHeaders,
      offers = basic.uploadOffers (placeOf organization repository) oid uploadHeaders
        verifyHeaders ∧
      basic.actionHeaders now organization repository oid .write basic.transferLifetime =
        .ok uploadHeaders ∧
      basic.actionHeaders now organization repository oid .verify basic.verificationLifetime =
        .ok verifyHeaders := by
  rcases upload_cases success with rfl | ⟨uploadHeaders, verifyHeaders, rfl, first, second⟩
  · cases offered
  · cases offered
    exact ⟨rfl, rfl, uploadHeaders, verifyHeaders, rfl, first, second⟩

theorem BasicTransfer.upload_offers (basic : BasicTransfer σ) (now : Int)
    (organization repository oid : String) (size : UInt64) (state : σ) (answer : Answer)
    (offers : Offers)
    (success : (basic.upload now organization repository oid size state).1 = .ok answer)
    (offered : answer.offers = some offers) :
    answer.oid = oid ∧ ∃ upload verify,
      offers = ⟨some upload, some verify, none⟩ ∧
      basic.actionHeaders now organization repository oid .write upload.lifetime =
        .ok upload.header ∧
      basic.actionHeaders now organization repository oid .verify verify.lifetime =
        .ok verify.header := by
  obtain ⟨sameOid, -, _, _, rfl, first, second⟩ :=
    basic.upload_offers_eq now organization repository oid size state answer offers success offered
  exact ⟨sameOid, _, _, rfl, first, second⟩

namespace Batch

theorem uploadAnswer_offers (transfer : Transfer σ) (organization repository : String)
    (object : Item) (hints : Hints) (state : σ) (entry : Answer) (offers : Offers)
    (success : (uploadAnswer transfer organization repository object hints state).1 = .ok entry)
    (offered : entry.offers = some offers) :
    (transfer.upload organization repository object.oid object.size hints state).1 = .ok entry := by
  rcases uploadAnswer_cases success with done | ⟨error, rfl⟩
  · exact done
  · cases offered

theorem answer_offers (transfer : Transfer σ) (authority : Authority)
    (organization repository : String) (object : Item) (state : σ) (entry : Answer)
    (offers : Offers)
    (success : (answer transfer authority organization repository .upload object state).1 =
      .ok entry)
    (offered : entry.offers = some offers) :
    authority organization repository .write (some object.oid) = true ∧
      (transfer.upload organization repository object.oid object.size
        (object.hints.getD Hints.empty) state).1 = .ok entry := by
  unfold answer at success
  by_cases granted :
      authority organization repository (Operation.permission .upload) (some object.oid) = true
  · rw [if_pos granted] at success
    exact ⟨granted, uploadAnswer_offers transfer organization repository object _ state entry
      offers success offered⟩
  · rw [if_neg granted] at success
    cases success
    cases offered

theorem answers_of_ok (transfer : Transfer σ) (authority : Authority)
    (organization repository : String) (operation : Operation) (objects : List Item) (state : σ)
    (entries : List Answer)
    (success : (answers transfer authority organization repository operation objects state).1 =
      .ok entries) :
    ∀ entry ∈ entries, ∃ object ∈ objects, ∃ between,
      (answer transfer authority organization repository operation object between).1 =
        .ok entry := by
  intro entry inside
  obtain ⟨place, bound, found⟩ := List.mem_iff_getElem.mp inside
  rw [length_of_answers objects state entries success] at bound
  obtain ⟨told, same, said⟩ := answers_at objects state entries success place objects[place]
    (List.getElem?_eq_getElem bound)
  rw [← found]
  obtain ⟨_, rfl⟩ := List.getElem?_eq_some_iff.mp same
  exact ⟨objects[place], List.getElem_mem bound, _, said⟩

/-- Every answer that offers an upload confines its headers: those of the upload to writing the one
object, those of the verification to verifying it, each for as long as the action says. -/
theorem carryOut_confines (basic : BasicTransfer σ) (signer : Signer)
    (signed : basic.authorizer = .signed signer) (now : Int) (nowClock : ClockTime now)
    (authority : Authority) (organization repository : String) (request : Request)
    (uploads : request.operation = .upload) (state : σ) (response : Response)
    (success : (carryOut (basic.transfer now) authority organization repository request state).1 =
      .ok response) :
    ∀ entry ∈ response.objects, ∀ offers, entry.offers = some offers →
      authority organization repository .write (some entry.oid) = true ∧
      ∃ upload verify, offers = ⟨some upload, some verify, none⟩ ∧
        signer.Confines upload.header now upload.lifetime organization repository entry.oid
          .write ∧
        signer.Confines verify.header now verify.lifetime organization repository entry.oid
          .readMeta ∧
        ∀ shown, ClockTime shown → ∀ identity,
          (signer.authenticate upload.header shown = .ok (some identity) →
            PutsOnly identity.authority organization repository entry.oid) ∧
          (signer.authenticate verify.header shown = .ok (some identity) →
            VerifiesOnly identity.authority organization repository entry.oid) := by
  intro entry inside offers offered
  have answered := carryOut_objects _ _ _ _ _ _ _ success
  rw [uploads] at answered
  obtain ⟨object, -, before, given⟩ := answers_of_ok _ _ _ _ _ _ _ _ answered entry inside
  obtain ⟨granted, done⟩ := answer_offers _ _ _ _ _ _ _ _ given offered
  obtain ⟨sameOid, upload, verify, whole, uploadHeaders, verifyHeaders⟩ :=
    basic.upload_offers now organization repository object.oid object.size before entry offers done
      offered
  rw [sameOid]
  simp only [BasicTransfer.actionHeaders, signed] at uploadHeaders verifyHeaders
  have writes := signer.confines_headers now nowClock organization repository object.oid .write
    .write (by intro asked; cases asked <;> decide) upload.lifetime upload.header uploadHeaders
  have verifies := signer.confines_headers now nowClock organization repository object.oid .verify
    .readMeta (by intro asked; cases asked <;> decide) verify.lifetime verify.header verifyHeaders
  refine ⟨granted, upload, verify, whole, writes, verifies, ?_⟩
  intro shown shownClock identity
  constructor
  · intro known
    exact (writes.onlyFor shown shownClock identity known).putsOnly
  · intro known
    exact (verifies.onlyFor shown shownClock identity known).verifiesOnly

def memoryTransfer : BasicTransfer MemoryObjects :=
  ⟨(MemoryStore.mk none).store, .signed ⟨[107, 101, 121], "Authorization"⟩,
    ExchangeSettings.localEndpoints, 900, 43200⟩

theorem carryOut_confines_memoryTransfer :
    ∃ response, (carryOut (memoryTransfer.transfer 1700000000) (fun _ _ _ _ => true) "acme"
        "widgets" ⟨.upload, none, none, [⟨"0a", 3, none⟩]⟩ ([] : MemoryObjects)).1 = .ok response ∧
      ∃ entry ∈ response.objects, ∃ upload verify,
        entry.offers = some ⟨some upload, some verify, none⟩ ∧
        (Signer.mk [107, 101, 121] "Authorization").Confines upload.header 1700000000 900 "acme"
          "widgets" "0a" .write ∧
        (Signer.mk [107, 101, 121] "Authorization").Confines verify.header 1700000000 43200 "acme"
          "widgets" "0a" .readMeta := by
  have nowClock : ClockTime 1700000000 := by decide
  refine ⟨_, rfl, _, List.mem_cons_self, _, _, rfl, ?_⟩
  obtain ⟨-, upload, verify, same, writes, verifies, -⟩ := carryOut_confines memoryTransfer
    ⟨[107, 101, 121], "Authorization"⟩ rfl 1700000000 nowClock (fun _ _ _ _ => true) "acme"
    "widgets" ⟨.upload, none, none, [⟨"0a", 3, none⟩]⟩ rfl ([] : MemoryObjects) _ rfl _
    List.mem_cons_self _ rfl
  cases same
  exact ⟨writes, verifies⟩

end Batch

end ObjectTransfer
