import ObjectTransfer.Proofs.Exchange.Capabilities
import ObjectTransfer.Proofs.Exchange.MemoryRequests
import ObjectTransfer.Proofs.Exchange.Observation

/-!
# An upload that is offered can be completed

A client that is offered an upload goes on with the headers that it was handed:
it puts the content, has it verified, and from then on the object is served.
Each step gets through with the headers that the step before it was answered
with, whatever the names are and however the content is divided, as long as the
headers have not expired.

The object counts as uploaded exactly if the content has the size that was named
in the batch.
-/

set_option autoImplicit false

namespace ObjectTransfer

variable {σ : Type} {steady : σ → Prop} {report : StoreReport}

/-! ## Headers can be had again -/

/-- Whether headers can be issued depends on nothing but the lifetime. -/
theorem Signer.exists_headers {signer : Signer} {scope : Scope} {lifetime : UInt64} {now : Int}
    {headers : Headers} (issued : signer.headers scope lifetime now = .ok headers)
    (other : Scope) (again : Int) : ∃ more, signer.headers other lifetime again = .ok more := by
  rw [headers_eq] at issued
  split at issued
  · cases issued
  · rename_i fits
    exact ⟨_, by rw [headers_eq, if_neg fits]⟩

theorem BasicTransfer.Issues.again {basic : BasicTransfer σ} {signer : Signer}
    (signed : basic.authorizer = .signed signer) {now : Int} {organization repository oid : String}
    (issues : basic.Issues now organization repository oid) (later : Int)
    (other another asked : String) : basic.Issues later other another asked := by
  obtain ⟨_, _, first, second⟩ := issues
  unfold BasicTransfer.Issues
  simp only [signed] at first second ⊢
  obtain ⟨uploadHeaders, uploads⟩ := Signer.exists_headers first
    ⟨other, another, some asked, ActionSet.ofList [.write]⟩ later
  obtain ⟨verifyHeaders, verifies⟩ := Signer.exists_headers second
    ⟨other, another, some asked, ActionSet.ofList [.verify]⟩ later
  exact ⟨uploadHeaders, verifyHeaders, uploads, verifies⟩

/-- Whoever presents issued headers in time may do what they were issued for. -/
theorem BasicTransfer.exists_holder {basic : BasicTransfer σ} {signer : Signer}
    (signed : basic.authorizer = .signed signer) {now : Int} (nowClock : ClockTime now)
    {organization repository oid : String} {action : TokenAction} {permission : Permission}
    (needs : ∀ asked, action.permissions.contains asked = true ↔ asked = permission)
    {lifetime : UInt64} {headers : Headers}
    (issued : basic.actionHeaders now organization repository oid action lifetime = .ok headers)
    (shown : Int) (shownClock : ClockTime shown) (early : shown < now + lifetime.toNat) :
    ∃ identity, basic.authorizer.authenticate headers shown = .ok (some identity) ∧
      identity.authority organization repository permission (some oid) = true := by
  rw [BasicTransfer.actionHeaders, signed] at issued
  rw [signed]
  have confined := signer.confines_headers now nowClock organization repository oid action
    permission needs lifetime headers issued
  obtain ⟨identity, known, only⟩ := confined.honoured shown shownClock early
  exact ⟨identity, known, (only _ _ _ _).mpr ⟨rfl, rfl, rfl, rfl⟩⟩

theorem TokenAction.needs_write (asked : Permission) :
    TokenAction.write.permissions.contains asked = true ↔ asked = .write := by
  cases asked <;> decide

theorem TokenAction.needs_verify (asked : Permission) :
    TokenAction.verify.permissions.contains asked = true ↔ asked = .readMeta := by
  cases asked <;> decide

/-! ## One object of a batch -/

namespace Batch

variable {basic : BasicTransfer σ} {authority : Authority}
  {organization repository : String}

theorem answer_of_has (keeps : basic.store.KeepsTo steady report) (now : Int) (object : Item)
    (granted : authority organization repository (Operation.permission .upload)
      (some object.oid) = true)
    (has : report.Has (placeOf organization repository) object) :
    Step.Settled steady (answer (basic.transfer now) authority organization repository .upload
      object) (.ok (Answer.ofObject object.oid object.size)) := by
  have done := BasicTransfer.upload_of_has now organization repository keeps has
  unfold answer
  rw [if_pos granted]
  exact done.tryCatch_ok _

theorem answer_of_offer (keeps : basic.store.KeepsTo steady report) (now : Int) (object : Item)
    (granted : authority organization repository (Operation.permission .download)
      (some object.oid) = true)
    (measured : report.size (placeOf organization repository) object.oid = .ok object.size.toNat)
    {action : Action}
    (given : report.downloadAction (placeOf organization repository) object.oid object.size
      basic.transferLifetime (object.hints.getD Hints.empty) = .ok (some action)) :
    Step.Settled steady (answer (basic.transfer now) authority organization repository .download
      object)
      (.ok ((Answer.ofObject object.oid object.size).offering ⟨none, none, some action⟩)) := by
  have offered := BasicTransfer.offer_of_size keeps measured (object.hints.getD Hints.empty)
  rw [given] at offered
  unfold answer
  rw [if_pos granted]
  exact BasicTransfer.download_of_offer organization repository _ _ _ offered

theorem carryOut_entry (keeps : basic.store.KeepsTo steady report) {now : Int} {request : Request}
    (supported : ¬ request.Unsupported BasicTransfer.name)
    (issuable : ¬ request.Unissuable basic report now authority organization repository)
    {position : Nat} {object : Item} (here : request.objects[position]? = some object)
    {entry : Answer}
    (answered : Step.Settled steady (answer (basic.transfer now) authority organization repository
      request.operation object) (.ok entry)) {state : σ} (inside : steady state) :
    ∃ response,
      (carryOut (basic.transfer now) authority organization repository request state).1 =
        .ok response ∧ response.objects[position]? = some entry := by
  obtain ⟨entryOf, told⟩ := exists_entryOf keeps now authority organization repository
  have done := carryOut_answered entryOf (fun operation object issuable =>
    (told operation object issuable).1) supported issuable
  have own := (told request.operation object fun uploads headless =>
    issuable ⟨uploads, object, List.mem_of_getElem? here, headless⟩).1
  have same := ((own state inside).1).symm.trans (answered state inside).1
  refine ⟨_, (done state inside).1, ?_⟩
  rw [List.getElem?_map, here, Option.map_some, Except.ok.inj same]

end Batch

/-! ## An object that is served -/

/-- There is nothing to upload any more, the download is offered, and it gives the content. -/
structure Served (basic : BasicTransfer σ) (authority : Authority)
    (organization repository oid : String) (size : UInt64) (octets : Octets) (state : σ) : Prop where
  uploaded : ∀ (now : Int) (request : Batch.Request) (position : Nat) (hints : Option Hints),
    request.operation = .upload → ¬ request.Unsupported BasicTransfer.name →
    request.objects[position]? = some ⟨oid, size, hints⟩ →
    ∃ response answer,
      (Batch.carryOut (basic.transfer now) authority organization repository request state).1 =
        .ok response ∧ response.objects[position]? = some answer ∧
      answer.oid = oid ∧ answer.size = size ∧ answer.offers = none ∧ answer.refusal = none
  offered : ∀ (now : Int) (request : Batch.Request) (position : Nat) (hints : Option Hints),
    request.operation = .download → ¬ request.Unsupported BasicTransfer.name →
    request.objects[position]? = some ⟨oid, size, hints⟩ →
    ∃ response answer action,
      (Batch.carryOut (basic.transfer now) authority organization repository request state).1 =
        .ok response ∧ response.objects[position]? = some answer ∧
      answer.oid = oid ∧ answer.size = size ∧ answer.offers = some ⟨none, none, some action⟩ ∧
      answer.authenticated = some true ∧ answer.refusal = none
  fetched : ∀ hints : Hints, ∃ download,
    (Objects.fetch basic.store authority organization repository oid hints state).1 =
      .ok download ∧ download.content.joined = .ok octets

section Served

variable {memory : MemoryStore} {basic : BasicTransfer MemoryObjects} {objects : MemoryObjects}
  {authority : Authority} {organization repository oid : String} {octets : Octets}

theorem served_of_held (inMemory : basic.store = memory.store) {endpoints : Endpoints}
    (downloads : memory.endpoints = some endpoints) {signer : Signer}
    (signed : basic.authorizer = .signed signer) {now : Int}
    (issues : basic.Issues now organization repository oid)
    (writes : authority organization repository .write (some oid) = true)
    (reads : authority organization repository .read (some oid) = true) (size : UInt64)
    (held : objects.get? ⟨placeOf organization repository, oid⟩ = some octets)
    (length : octets.length = size.toNat) :
    Served basic authority organization repository oid size octets objects := by
  have keeps := memory.keepsTo objects
  rw [← inMemory] at keeps
  have measured : (memory.report objects).size (placeOf organization repository) oid =
      .ok size.toNat := by
    simp only [MemoryStore.report, held, length]
  have present : (memory.report objects).holds (placeOf organization repository) oid = .ok true := by
    simp only [MemoryStore.report, held, Option.isSome_some]
  refine ⟨fun later request position hints uploads supported here => ?_,
    fun later request position hints loads supported here => ?_, fun hints => ?_⟩
  · have issuable : ¬ request.Unissuable basic (memory.report objects) later authority
        organization repository := by
      rintro ⟨-, object, -, -, -, refused⟩
      exact refused (issues.again signed later organization repository object.oid)
    have has : (memory.report objects).Has (placeOf organization repository) ⟨oid, size, hints⟩ :=
      ⟨present, measured⟩
    have answered := Batch.answer_of_has keeps later ⟨oid, size, hints⟩ writes has
    rw [← uploads] at answered
    obtain ⟨response, done, entry⟩ :=
      Batch.carryOut_entry keeps supported issuable here answered rfl
    exact ⟨response, _, done, entry, rfl, rfl, rfl, rfl⟩
  · have issuable : ¬ request.Unissuable basic (memory.report objects) later authority
        organization repository := by
      rintro ⟨uploads, -⟩
      rw [loads] at uploads
      cases uploads
    have given : (memory.report objects).downloadAction (placeOf organization repository) oid size
        basic.transferLifetime (hints.getD Hints.empty) =
          .ok (some ⟨(endpoints.download (placeOf organization repository) oid
            (hints.getD Hints.empty)).text, Dictionary.empty, basic.transferLifetime⟩) := by
      simp only [MemoryStore.report, MemoryStore.downloadFrom, downloads, Option.map_some]
    have answered := Batch.answer_of_offer keeps later ⟨oid, size, hints⟩ reads measured given
    rw [← loads] at answered
    obtain ⟨response, done, entry⟩ :=
      Batch.carryOut_entry keeps supported issuable here answered rfl
    exact ⟨response, _, _, done, entry, rfl, rfl, rfl, rfl, rfl⟩
  · have asked := memory.fetched authority organization repository oid objects hints
    rw [← inMemory, if_pos reads, held] at asked
    exact ⟨_, congrArg Prod.fst asked, Content.joined_ofOctets octets⟩

end Served

/-! ## From the offer to the download -/

namespace Batch

theorem offered_of_carryOut {basic : BasicTransfer σ} {now : Int} {authority : Authority}
    {organization repository : String} {request : Request} (uploads : request.operation = .upload)
    {state : σ} {response : Response}
    (success : (carryOut (basic.transfer now) authority organization repository request state).1 =
      .ok response) {position : Nat} {object : Item}
    (asked : request.objects[position]? = some object) {entry : Answer}
    (answered : response.objects[position]? = some entry) {offers : Offers}
    (offered : entry.offers = some offers) :
    authority organization repository .write (some object.oid) = true ∧
      ∃ uploadHeaders verifyHeaders,
        offers = basic.uploadOffers (placeOf organization repository) object.oid uploadHeaders
          verifyHeaders ∧
        basic.actionHeaders now organization repository object.oid .write basic.transferLifetime =
          .ok uploadHeaders ∧
        basic.actionHeaders now organization repository object.oid .verify
          basic.verificationLifetime = .ok verifyHeaders := by
  have told := carryOut_objects _ _ _ _ _ _ _ success
  rw [uploads] at told
  obtain ⟨other, between, found, -, given⟩ := answers_getElem? (fun _ => True) _ request.objects
    (fun _ _ _ => trivial) state response.objects trivial told position object asked
  rw [answered] at found
  cases found
  obtain ⟨granted, done⟩ := answer_offers _ _ _ _ _ _ _ _ given offered
  obtain ⟨-, -, issued⟩ := basic.upload_offers_eq now organization repository object.oid
    object.size between entry offers done offered
  exact ⟨granted, issued⟩

/-- Whoever is offered an upload can put any content with the headers of the upload before they
expire, and with the headers of the verification it is then found out whether the content has the
size that was named.  If it has, the object is served from then on. -/
theorem carryOut_completes (memory : MemoryStore) (basic : BasicTransfer MemoryObjects)
    (inMemory : basic.store = memory.store) (endpoints : Endpoints)
    (downloads : memory.endpoints = some endpoints) (signer : Signer)
    (signed : basic.authorizer = .signed signer) (now : Int) (nowClock : ClockTime now)
    (authority : Authority) (organization repository : String) (request : Request)
    (uploads : request.operation = .upload) (objects : MemoryObjects) (response : Response)
    (success : (carryOut (basic.transfer now) authority organization repository request
      objects).1 = .ok response) :
    ∀ (position : Nat) (object : Item) (entry : Answer) (offers : Offers),
      request.objects[position]? = some object → response.objects[position]? = some entry →
      entry.offers = some offers →
      authority organization repository .read (some object.oid) = true →
      ∃ upload verify, offers = ⟨some upload, some verify, none⟩ ∧
      ∀ shown, ClockTime shown → shown < now + basic.transferLifetime.toNat →
      ∃ uploader, basic.authorizer.authenticate upload.header shown = .ok (some uploader) ∧
      ∀ chunks : List Octets,
        let asked := (carryOut (basic.transfer now) authority organization repository request
          objects).2
        let stored := Objects.put basic.store uploader.authority organization repository object.oid
          (chunks.map .ok) asked
        stored.1 = .ok () ∧
        ∀ later, ClockTime later → later < now + basic.verificationLifetime.toNat →
        ∃ checker, basic.authorizer.authenticate verify.header later = .ok (some checker) ∧
          let checked := Objects.verify basic.store checker.authority organization repository
            ⟨object.oid, object.size⟩ stored.2
          (checked.1 = .ok () ↔ chunks.flatten.length = object.size.toNat) ∧
          (chunks.flatten.length ≠ object.size.toNat →
            ∃ reason, checked.1 = .error (.invalidPayload reason)) ∧
          (checked.1 = .ok () → Served basic authority organization repository object.oid
            object.size chunks.flatten checked.2) := by
  intro position object entry offers here answered offered reads
  obtain ⟨writes, uploadHeaders, verifyHeaders, rfl, first, second⟩ :=
    offered_of_carryOut uploads success here answered offered
  have issues : basic.Issues now organization repository object.oid := ⟨_, _, first, second⟩
  rw [memory.batched authority organization repository objects basic inMemory now request]
  refine ⟨_, _, rfl, fun shown shownClock early => ?_⟩
  obtain ⟨uploader, known, mayWrite⟩ := BasicTransfer.exists_holder signed nowClock
    TokenAction.needs_write first shown shownClock early
  refine ⟨uploader, known, fun chunks => ?_⟩
  have put := memory.uploaded uploader.authority organization repository object.oid objects
    (chunks.map .ok)
  rw [← inMemory, if_pos mayWrite, Content.joined_map_ok] at put
  simp only [put]
  refine ⟨trivial, fun later laterClock soon => ?_⟩
  obtain ⟨checker, recognized, mayCheck⟩ := BasicTransfer.exists_holder signed nowClock
    TokenAction.needs_verify second later laterClock soon
  refine ⟨checker, recognized, ?_⟩
  generalize after : objects.put ⟨placeOf organization repository, object.oid⟩ chunks.flatten =
    held
  have there : held.get? ⟨placeOf organization repository, object.oid⟩ = some chunks.flatten := by
    rw [← after, Table.get?_put, if_pos rfl]
  have checked := memory.verified checker.authority organization repository held
    ⟨object.oid, object.size⟩
  rw [← inMemory, if_pos mayCheck, there, Option.map_some] at checked
  simp only [checked, Option.some.injEq]
  by_cases fits : chunks.flatten.length = object.size.toNat
  · simp only [if_pos fits]
    exact ⟨iff_of_true trivial fits, fun other => absurd fits other, fun _ =>
      served_of_held inMemory downloads signed issues writes reads object.size there fits⟩
  · simp only [if_neg fits]
    exact ⟨iff_of_false (fun same => by cases same) fits, fun _ => ⟨_, rfl⟩,
      fun same => by cases same⟩

def servedTransfer : BasicTransfer MemoryObjects :=
  ⟨(MemoryStore.mk (some ExchangeSettings.localEndpoints)).store,
    .signed ⟨[107, 101, 121], "Authorization"⟩, ExchangeSettings.localEndpoints, 900, 43200⟩

/-- Three octets in two chunks, put and verified in the last second that this can be done. -/
theorem carryOut_completes_servedTransfer :
    let request : Request := ⟨.upload, none, none, [⟨"0a", 3, none⟩]⟩
    let authority : Authority := fun _ _ _ _ => true
    let asked := carryOut (servedTransfer.transfer 1700000000) authority "acme" "widgets" request
      ([] : MemoryObjects)
    ∃ response, asked.1 = .ok response ∧ ∃ entry ∈ response.objects, ∃ upload verify,
      entry.offers = some ⟨some upload, some verify, none⟩ ∧
      ∃ uploader checker,
        servedTransfer.authorizer.authenticate upload.header 1700000899 = .ok (some uploader) ∧
        servedTransfer.authorizer.authenticate verify.header 1700043199 = .ok (some checker) ∧
        let stored := Objects.put servedTransfer.store uploader.authority "acme" "widgets" "0a"
          [.ok [1], .ok [2, 3]] asked.2
        let checked := Objects.verify servedTransfer.store checker.authority "acme" "widgets"
          ⟨"0a", 3⟩ stored.2
        stored.1 = .ok () ∧ checked.1 = .ok () ∧
          Served servedTransfer authority "acme" "widgets" "0a" 3 [1, 2, 3] checked.2 := by
  intro request authority asked
  have nowClock : ClockTime 1700000000 := by decide
  refine ⟨_, rfl, _, List.mem_cons_self, _, _, rfl, ?_⟩
  obtain ⟨upload, verify, same, putting⟩ := carryOut_completes
    ⟨some ExchangeSettings.localEndpoints⟩ servedTransfer rfl ExchangeSettings.localEndpoints rfl
    ⟨[107, 101, 121], "Authorization"⟩ rfl 1700000000 nowClock authority "acme" "widgets" request
    rfl ([] : MemoryObjects) _ rfl 0 ⟨"0a", 3, none⟩ _ _ rfl rfl rfl rfl
  cases same
  obtain ⟨uploader, known, stores⟩ := putting 1700000899 (by decide) (by decide)
  obtain ⟨stored, verifying⟩ := stores [[1], [2, 3]]
  obtain ⟨checker, recognized, fits, -, served⟩ := verifying 1700043199 (by decide) (by decide)
  exact ⟨uploader, checker, known, recognized, stored, fits.mpr rfl, served (fits.mpr rfl)⟩

end Batch

end ObjectTransfer
