import ObjectTransfer.Exchange.Batch
import ObjectTransfer.Proofs.Store.Reports

/-!
# A batch answers object by object

What a batch says about an object follows from the object alone, whatever else
the batch asks for.  A missing permission and an error of the store are said in
the answer to the object that they concern.  Only two things end a batch as a
whole: transfers none of which is offered, and an upload that is called for and
permitted, but whose headers cannot be issued.
-/

set_option autoImplicit false

namespace ObjectTransfer

open Step (Settled)

variable {σ : Type} {steady : σ → Prop} {report : StoreReport}

/-! ## Which permission is asked for -/

inductive Operation.Needs : Operation → Permission → Prop where
  | upload : Needs .upload .write
  | download : Needs .download .read

theorem Operation.needs_iff (operation : Operation) (permission : Permission) :
    operation.Needs permission ↔ permission = operation.permission := by
  constructor
  · intro needs
    cases needs <;> rfl
  · rintro rfl
    cases operation with
    | upload => exact .upload
    | download => exact .download

/-! ## What the reports about an object come to -/

namespace StoreReport

variable (report : StoreReport) (place : String) (object : Batch.Item)

/-- The object is reported with just the size that was named. -/
def Has : Prop :=
  report.holds place object.oid = .ok true ∧
    report.size place object.oid = .ok object.size.toNat

/-- The object is reported as absent, or with another size. -/
def Lacks : Prop :=
  report.holds place object.oid = .ok false ∨
    report.holds place object.oid = .ok true ∧
      ∃ stored, report.size place object.oid = .ok stored ∧ stored ≠ object.size.toNat

/-- What keeps the store from answering for an object: an error of a question that is asked about
it, or for a download also another size. -/
inductive Fails (lifetime : UInt64) : Operation → StoreFailure → Prop where
  | presence {fault : StoreFailure} :
      report.holds place object.oid = .error fault → Fails lifetime .upload fault
  | stored {fault : StoreFailure} :
      report.holds place object.oid = .ok true →
        report.size place object.oid = .error fault → Fails lifetime .upload fault
  | size {fault : StoreFailure} :
      report.size place object.oid = .error fault → Fails lifetime .download fault
  | mismatch {stored : Nat} :
      report.size place object.oid = .ok stored → stored ≠ object.size.toNat →
        Fails lifetime .download (.invalidObject "Object size does not match")
  | action {fault : StoreFailure} :
      report.size place object.oid = .ok object.size.toNat →
        report.downloadAction place object.oid object.size lifetime
            (object.hints.getD Hints.empty) = .error fault →
          Fails lifetime .download fault

variable {report place object}

theorem upload_cases (report : StoreReport) (place : String) (object : Batch.Item)
    (lifetime : UInt64) :
    (∃ fault, report.Fails place object lifetime .upload fault) ∨
      report.Has place object ∨ report.Lacks place object := by
  cases presence : report.holds place object.oid with
  | error fault => exact .inl ⟨fault, .presence presence⟩
  | ok present =>
    cases present with
    | false => exact .inr (.inr (.inl presence))
    | true =>
      cases measured : report.size place object.oid with
      | error fault => exact .inl ⟨fault, .stored presence measured⟩
      | ok stored =>
        by_cases same : stored = object.size.toNat
        · exact .inr (.inl ⟨presence, by rw [measured, same]⟩)
        · exact .inr (.inr (.inr ⟨presence, stored, measured, same⟩))

theorem Has.not_fails (has : report.Has place object) (lifetime : UInt64) (fault : StoreFailure) :
    ¬ report.Fails place object lifetime .upload fault := by
  intro fails
  cases fails with
  | presence failed => rw [has.1] at failed; cases failed
  | stored _ failed => rw [has.2] at failed; cases failed

theorem Lacks.not_fails (lacks : report.Lacks place object) (lifetime : UInt64)
    (fault : StoreFailure) : ¬ report.Fails place object lifetime .upload fault := by
  intro fails
  rcases lacks with absent | ⟨present, stored, measured, _⟩
  · cases fails with
    | presence failed => rw [absent] at failed; cases failed
    | stored present _ => rw [absent] at present; cases present
  · cases fails with
    | presence failed => rw [present] at failed; cases failed
    | stored _ failed => rw [measured] at failed; cases failed

/-- An object about which nothing can be asked has one fault, the first that is met. -/
theorem Fails.unique {lifetime : UInt64} {operation : Operation} {fault other : StoreFailure}
    (fails : report.Fails place object lifetime operation fault)
    (also : report.Fails place object lifetime operation other) : fault = other := by
  cases fails <;> cases also <;> simp_all

end StoreReport

/-! ## Transfers -/

namespace BasicTransfer

variable {basic : BasicTransfer σ}

/-- The headers of an upload and of its verification can both be issued. -/
def Issues (basic : BasicTransfer σ) (now : Int) (organization repository oid : String) : Prop :=
  ∃ uploadHeaders verifyHeaders,
    basic.authorizer.headers ⟨organization, repository, some oid, ActionSet.ofList [.write]⟩
      basic.transferLifetime now = .ok uploadHeaders ∧
    basic.authorizer.headers ⟨organization, repository, some oid, ActionSet.ofList [.verify]⟩
      basic.verificationLifetime now = .ok verifyHeaders

theorem isStored_of_fails (keeps : basic.store.KeepsTo steady report) {place : String}
    {object : Batch.Item} {lifetime : UInt64} {fault : StoreFailure}
    (fails : report.Fails place object lifetime .upload fault) :
    Settled steady (basic.isStored place object.oid object.size) (.error fault) := by
  cases fails with
  | presence failed =>
    have asked := keeps.holds place object.oid
    rw [failed] at asked
    exact asked.bind_error _
  | stored present failed =>
    have asked := keeps.holds place object.oid
    have measured := keeps.size place object.oid
    rw [present] at asked
    rw [failed] at measured
    exact asked.bind_ok (measured.bind_error _)

theorem isStored_of_has (keeps : basic.store.KeepsTo steady report) {place : String}
    {object : Batch.Item} (has : report.Has place object) :
    Settled steady (basic.isStored place object.oid object.size) (.ok true) := by
  have asked := keeps.holds place object.oid
  have measured := keeps.size place object.oid
  rw [has.1] at asked
  rw [has.2] at measured
  refine asked.bind_ok (measured.bind_ok ?_)
  rw [show (object.size.toNat == object.size.toNat) = true from beq_self_eq_true _]
  exact Step.settled_pure true

theorem isStored_of_lacks (keeps : basic.store.KeepsTo steady report) {place : String}
    {object : Batch.Item} (lacks : report.Lacks place object) :
    Settled steady (basic.isStored place object.oid object.size) (.ok false) := by
  have asked := keeps.holds place object.oid
  rcases lacks with absent | ⟨present, stored, measured, other⟩
  · rw [absent] at asked
    exact asked.bind_ok (Step.settled_pure false)
  · have sized := keeps.size place object.oid
    rw [present] at asked
    rw [measured] at sized
    refine asked.bind_ok (sized.bind_ok ?_)
    rw [show (stored == object.size.toNat) = false from beq_eq_false_iff_ne.mpr other]
    exact Step.settled_pure false

section Upload

variable (now : Int) (organization repository : String) {object : Batch.Item}

theorem upload_of_fails (keeps : basic.store.KeepsTo steady report) {lifetime : UInt64}
    {fault : StoreFailure}
    (fails : report.Fails (placeOf organization repository) object lifetime .upload fault) :
    Settled steady (basic.upload now organization repository object.oid object.size)
      (.error (.store fault)) :=
  (isStored_of_fails keeps fails).ofStore.bind_error _

theorem upload_of_has (keeps : basic.store.KeepsTo steady report)
    (has : report.Has (placeOf organization repository) object) :
    Settled steady (basic.upload now organization repository object.oid object.size)
      (.ok (Answer.ofObject object.oid object.size)) :=
  (isStored_of_has keeps has).ofStore.bind_ok (Step.settled_pure _)

def uploadOffers (basic : BasicTransfer σ) (place oid : String)
    (uploadHeaders verifyHeaders : Headers) : Offers :=
  { upload := some
      ⟨(basic.endpoints.object place oid).text, uploadHeaders, basic.transferLifetime⟩
    verify := some
      ⟨(basic.endpoints.verify place).text, verifyHeaders, basic.verificationLifetime⟩
    download := none }

theorem upload_of_issues (keeps : basic.store.KeepsTo steady report)
    (lacks : report.Lacks (placeOf organization repository) object)
    {uploadHeaders verifyHeaders : Headers}
    (first : basic.actionHeaders now organization repository object.oid .write
      basic.transferLifetime = .ok uploadHeaders)
    (second : basic.actionHeaders now organization repository object.oid .verify
      basic.verificationLifetime = .ok verifyHeaders) :
    Settled steady (basic.upload now organization repository object.oid object.size)
      (.ok ((Answer.ofObject object.oid object.size).offering
        (basic.uploadOffers (placeOf organization repository) object.oid uploadHeaders
          verifyHeaders))) := by
  have missing := (isStored_of_lacks keeps lacks).ofStore
  have firstIssued : Settled steady _ _ := Step.settled_ofToken first
  have secondIssued : Settled steady _ _ := Step.settled_ofToken second
  exact missing.bind_ok (firstIssued.bind_ok (secondIssued.bind_ok (Step.settled_pure _)))

theorem upload_of_not_issues (keeps : basic.store.KeepsTo steady report)
    (lacks : report.Lacks (placeOf organization repository) object)
    (refused : ¬ basic.Issues now organization repository object.oid) :
    ∃ failure,
      Settled steady (basic.upload now organization repository object.oid object.size)
        (.error (.token failure)) := by
  have missing := (isStored_of_lacks keeps lacks).ofStore
  cases first : basic.actionHeaders now organization repository object.oid .write
      basic.transferLifetime with
  | error failure =>
    have notIssued : Settled steady _ _ := Step.settled_ofToken_error first
    exact ⟨failure, missing.bind_ok (notIssued.bind_error _)⟩
  | ok uploadHeaders =>
    cases second : basic.actionHeaders now organization repository object.oid .verify
        basic.verificationLifetime with
    | error failure =>
      have issued : Settled steady _ _ := Step.settled_ofToken first
      have notIssued : Settled steady _ _ := Step.settled_ofToken_error second
      exact ⟨failure, missing.bind_ok (issued.bind_ok (notIssued.bind_error _))⟩
    | ok verifyHeaders => exact absurd ⟨uploadHeaders, verifyHeaders, first, second⟩ refused

end Upload

/-- An upload that is answered has nothing to do, or it offers both actions, each with headers issued
for it. -/
theorem upload_cases {basic : BasicTransfer σ} {now : Int} {organization repository oid : String}
    {size : UInt64} {state : σ} {answer : Answer}
    (success : (basic.upload now organization repository oid size state).1 = .ok answer) :
    answer = Answer.ofObject oid size ∨ ∃ uploadHeaders verifyHeaders,
      answer = (Answer.ofObject oid size).offering
        (basic.uploadOffers (placeOf organization repository) oid uploadHeaders verifyHeaders) ∧
      basic.actionHeaders now organization repository oid .write basic.transferLifetime =
        .ok uploadHeaders ∧
      basic.actionHeaders now organization repository oid .verify basic.verificationLifetime =
        .ok verifyHeaders := by
  unfold upload at success
  obtain ⟨stored, between, -, success⟩ := (Step.bind_eq_ok_iff _ _ _ _).mp success
  cases stored with
  | true =>
    cases success
    exact .inl rfl
  | false =>
    obtain ⟨uploadHeaders, _, first, success⟩ := (Step.bind_eq_ok_iff _ _ _ _).mp success
    obtain ⟨verifyHeaders, _, second, success⟩ := (Step.bind_eq_ok_iff _ _ _ _).mp success
    cases success
    exact .inr ⟨uploadHeaders, verifyHeaders, rfl, ((Step.ofToken_eq_ok_iff _ _ _ _).mp first).1,
      ((Step.ofToken_eq_ok_iff _ _ _ _).mp second).1⟩

/-! ### Downloads -/

theorem offer_of_size (keeps : basic.store.KeepsTo steady report) {place oid : String}
    {size : UInt64} (measured : report.size place oid = .ok size.toNat) (hints : Hints) :
    Settled steady (basic.offer place oid size hints)
      (report.downloadAction place oid size basic.transferLifetime hints) := by
  have found := keeps.size place oid
  rw [measured] at found
  refine found.bind_ok ?_
  rw [if_neg (not_not_intro rfl)]
  exact keeps.downloadAction place oid size basic.transferLifetime hints

theorem offer_of_fails (keeps : basic.store.KeepsTo steady report) {place : String}
    {object : Batch.Item} {fault : StoreFailure}
    (fails : report.Fails place object basic.transferLifetime .download fault) :
    Settled steady
      (basic.offer place object.oid object.size (object.hints.getD Hints.empty))
      (.error fault) := by
  have measured := keeps.size place object.oid
  cases fails with
  | size failed =>
    rw [failed] at measured
    exact measured.bind_error _
  | mismatch found other =>
    rw [found] at measured
    refine measured.bind_ok ?_
    rw [if_pos other]
    exact (Step.settled_throw _).bind_error _
  | action found failed =>
    rw [← failed]
    exact offer_of_size keeps found _

theorem offer_of_not_fails (keeps : basic.store.KeepsTo steady report) {place : String}
    {object : Batch.Item}
    (clear : ∀ fault, ¬ report.Fails place object basic.transferLifetime .download fault) :
    ∃ offered, Settled steady
      (basic.offer place object.oid object.size (object.hints.getD Hints.empty))
      (.ok offered) := by
  cases found : report.size place object.oid with
  | error fault => exact absurd (.size found) (clear fault)
  | ok stored =>
    by_cases same : stored = object.size.toNat
    · have offered := offer_of_size keeps (same ▸ found) (object.hints.getD Hints.empty)
      cases given : report.downloadAction place object.oid object.size basic.transferLifetime
        (object.hints.getD Hints.empty) with
      | error fault => exact absurd (.action (same ▸ found) given) (clear fault)
      | ok action =>
        rw [given] at offered
        exact ⟨action, offered⟩
    · exact absurd (.mismatch found same) (clear _)

def downloadAnswer (oid : String) (size : UInt64) : Except StoreFailure (Option Action) → Answer
  | .ok (some action) => (Answer.ofObject oid size).offering ⟨none, none, some action⟩
  | .ok none => Answer.ofObject oid size
  | .error error => (Answer.ofObject oid size).refusing error.refusal

theorem download_of_offer (organization repository oid : String) (size : UInt64) (hints : Hints)
    {outcome : Except StoreFailure (Option Action)}
    (settled : Settled steady (basic.offer (placeOf organization repository) oid size hints)
      outcome) :
    Settled steady (basic.download organization repository oid size hints)
      (.ok (downloadAnswer oid size outcome)) := by
  intro state inside
  obtain ⟨same, after⟩ := settled state inside
  subst same
  refine ⟨?_, after⟩
  unfold download
  rcases basic.offer (placeOf organization repository) oid size hints state with ⟨outcome, _⟩
  cases outcome with
  | error error => rfl
  | ok offered => cases offered <;> rfl

end BasicTransfer

/-! ## Answers to single objects -/

theorem StoreFailure.code_ne_forbidden (error : StoreFailure) : error.code ≠ 403 := by
  cases error <;> simp [StoreFailure.code]

namespace Batch

def ask (transfer : Transfer σ) (organization repository : String) (object : Item) :
    Operation → Step σ ExchangeFailure Answer
  | .upload =>
    transfer.upload organization repository object.oid object.size
      (object.hints.getD Hints.empty)
  | .download =>
    transfer.download organization repository object.oid object.size
      (object.hints.getD Hints.empty)

/-- What an answer to one object of a batch says: that the permission is missing, or which error of
the store is in the way, or else what the transfer has to say. -/
structure Answered (basic : BasicTransfer σ) (steady : σ → Prop) (report : StoreReport) (now : Int)
    (authority : Authority) (organization repository : String) (operation : Operation)
    (permission : Permission) (object : Item) (entry : Answer) : Prop where
  oid : entry.oid = object.oid
  size : entry.size = object.size
  refused : (∃ refusal, entry.refusal = some refusal ∧ refusal.code = 403) ↔
    ¬ authority organization repository permission (some object.oid) = true
  failed : authority organization repository permission (some object.oid) = true →
    ∀ refusal, entry.refusal = some refusal ↔
      ∃ fault, report.Fails (placeOf organization repository) object basic.transferLifetime
        operation fault ∧ fault.refusal = refusal
  absent : authority organization repository permission (some object.oid) = true →
    operation = .download →
    report.size (placeOf organization repository) object.oid = .error .notFound →
      entry.refusal = some ⟨404, "Object was not found"⟩
  mismatched : authority organization repository permission (some object.oid) = true →
    operation = .download →
    ∀ stored, report.size (placeOf organization repository) object.oid = .ok stored →
      stored ≠ object.size.toNat → entry.refusal = some ⟨422, "Object size does not match"⟩
  otherwise : authority organization repository permission (some object.oid) = true →
    (∀ fault, ¬ report.Fails (placeOf organization repository) object basic.transferLifetime
      operation fault) →
    ∀ state, steady state →
      (ask (basic.transfer now) organization repository object operation state).1 = .ok entry

section Answers

variable {basic : BasicTransfer σ} {now : Int} {authority : Authority}
  {organization repository : String} {operation : Operation} {permission : Permission}
  {object : Item}

theorem Answered.of_missing
    (missing : ¬ authority organization repository permission (some object.oid) = true) :
    Answered basic steady report now authority organization repository operation permission
      object ((Answer.ofObject object.oid object.size).refusing forbidden) where
  oid := rfl
  size := rfl
  refused := ⟨fun _ => missing, fun _ => ⟨_, rfl, rfl⟩⟩
  failed granted := absurd granted missing
  absent granted := absurd granted missing
  mismatched granted := absurd granted missing
  otherwise granted := absurd granted missing

theorem Answered.of_fails {fault : StoreFailure}
    (granted : authority organization repository permission (some object.oid) = true)
    (fails : report.Fails (placeOf organization repository) object basic.transferLifetime
      operation fault) :
    Answered basic steady report now authority organization repository operation permission
      object ((Answer.ofObject object.oid object.size).refusing fault.refusal) where
  oid := rfl
  size := rfl
  refused := by
    constructor
    · rintro ⟨_, same, code⟩
      cases same
      exact absurd code fault.code_ne_forbidden
    · intro missing
      exact absurd granted missing
  failed _ refusal := by
    constructor
    · intro same
      exact ⟨fault, fails, Option.some.inj same⟩
    · rintro ⟨other, also, rfl⟩
      rw [fails.unique also]
      rfl
  absent := by
    rintro _ rfl missing
    cases fails.unique (.size missing)
    rfl
  mismatched := by
    rintro _ rfl stored measured other
    cases fails.unique (.mismatch measured other)
    rfl
  otherwise _ clear := absurd fails (clear fault)

theorem Answered.of_settled {entry : Answer}
    (granted : authority organization repository permission (some object.oid) = true)
    (clear : ∀ fault, ¬ report.Fails (placeOf organization repository) object
      basic.transferLifetime operation fault)
    (oid : entry.oid = object.oid) (size : entry.size = object.size)
    (fine : entry.refusal = none)
    (settled : Settled steady
      (ask (basic.transfer now) organization repository object operation) (.ok entry)) :
    Answered basic steady report now authority organization repository operation permission
      object entry where
  oid := oid
  size := size
  refused := by
    constructor
    · rintro ⟨_, same, _⟩
      rw [fine] at same
      cases same
    · intro missing
      exact absurd granted missing
  failed _ refusal := by
    constructor
    · intro same
      rw [fine] at same
      cases same
    · rintro ⟨fault, fails, _⟩
      exact absurd fails (clear fault)
  absent := by
    rintro _ rfl missing
    exact absurd (.size missing) (clear _)
  mismatched := by
    rintro _ rfl stored measured other
    exact absurd (.mismatch measured other) (clear _)
  otherwise _ _ state inside := (settled state inside).1

/-- An upload that is permitted and called for, but has no headers. -/
def Unissuable (basic : BasicTransfer σ) (report : StoreReport) (now : Int)
    (authority : Authority) (organization repository : String) (object : Item) : Prop :=
  authority organization repository .write (some object.oid) = true ∧
    report.Lacks (placeOf organization repository) object ∧
    ¬ basic.Issues now organization repository object.oid

theorem uploadAnswer_settled (keeps : basic.store.KeepsTo steady report)
    (granted : authority organization repository .write (some object.oid) = true)
    (issuable : ¬ Unissuable basic report now authority organization repository object) :
    ∃ entry, Settled steady (uploadAnswer (basic.transfer now) organization repository object
        (object.hints.getD Hints.empty)) (.ok entry) ∧
      Answered basic steady report now authority organization repository .upload .write object
        entry := by
  rcases report.upload_cases (placeOf organization repository) object basic.transferLifetime with
    ⟨fault, fails⟩ | has | lacks
  · have stopped := BasicTransfer.upload_of_fails now organization repository keeps fails
    exact ⟨_, stopped.tryCatch_error (Step.settled_pure _), .of_fails granted fails⟩
  · have done := BasicTransfer.upload_of_has now organization repository keeps has
    exact ⟨_, done.tryCatch_ok _, .of_settled granted (has.not_fails _) rfl rfl rfl done⟩
  · have issues : basic.Issues now organization repository object.oid :=
      Classical.byContradiction fun refused => issuable ⟨granted, lacks, refused⟩
    obtain ⟨uploadHeaders, verifyHeaders, first, second⟩ := issues
    have done := BasicTransfer.upload_of_issues now organization repository keeps lacks first second
    exact ⟨_, done.tryCatch_ok _, .of_settled granted (lacks.not_fails _) rfl rfl rfl done⟩

theorem uploadAnswer_unissuable (keeps : basic.store.KeepsTo steady report)
    (unissuable : Unissuable basic report now authority organization repository object) :
    ∃ failure, Settled steady (uploadAnswer (basic.transfer now) organization repository object
      (object.hints.getD Hints.empty)) (.error (.token failure)) := by
  obtain ⟨_, lacks, refused⟩ := unissuable
  obtain ⟨failure, stopped⟩ :=
    BasicTransfer.upload_of_not_issues now organization repository keeps lacks refused
  exact ⟨failure, stopped.tryCatch_error (Step.settled_throw _)⟩

theorem download_settled (keeps : basic.store.KeepsTo steady report)
    (granted : authority organization repository .read (some object.oid) = true) :
    ∃ entry, Settled steady (basic.download organization repository object.oid object.size
        (object.hints.getD Hints.empty)) (.ok entry) ∧
      Answered basic steady report now authority organization repository .download .read object
        entry := by
  by_cases faulty : ∃ fault, report.Fails (placeOf organization repository) object
      basic.transferLifetime .download fault
  · obtain ⟨fault, fails⟩ := faulty
    have stopped := BasicTransfer.offer_of_fails keeps fails
    exact ⟨_, BasicTransfer.download_of_offer _ _ _ _ _ stopped, .of_fails granted fails⟩
  · have clear := not_exists.mp faulty
    obtain ⟨offered, found⟩ := BasicTransfer.offer_of_not_fails keeps clear
    have done := BasicTransfer.download_of_offer organization repository _ _ _ found
    cases offered with
    | none => exact ⟨_, done, .of_settled granted clear rfl rfl rfl done⟩
    | some action => exact ⟨_, done, .of_settled granted clear rfl rfl rfl done⟩

theorem answer_settled (keeps : basic.store.KeepsTo steady report)
    (issuable : operation = .upload →
      ¬ Unissuable basic report now authority organization repository object) :
    ∃ entry, Settled steady (answer (basic.transfer now) authority organization repository
        operation object) (.ok entry) ∧
      Answered basic steady report now authority organization repository operation
        operation.permission object entry := by
  unfold answer
  by_cases granted :
      authority organization repository operation.permission (some object.oid) = true
  · rw [if_pos granted]
    cases operation with
    | upload => exact uploadAnswer_settled keeps granted (issuable rfl)
    | download => exact download_settled keeps granted
  · rw [if_neg granted]
    exact ⟨_, Step.settled_pure _, .of_missing granted⟩

theorem answer_unissuable (keeps : basic.store.KeepsTo steady report)
    (unissuable : Unissuable basic report now authority organization repository object) :
    ∃ failure, Settled steady (answer (basic.transfer now) authority organization repository
      .upload object) (.error (.token failure)) := by
  unfold answer
  have granted : authority organization repository (Operation.permission .upload)
      (some object.oid) = true := unissuable.1
  rw [if_pos granted]
  exact uploadAnswer_unissuable keeps unissuable

end Answers

/-- An answered upload is what the transfer has to say, or it refuses for an error of the store. -/
theorem uploadAnswer_cases {transfer : Transfer σ} {organization repository : String}
    {object : Item} {hints : Hints} {state : σ} {entry : Answer}
    (success : (uploadAnswer transfer organization repository object hints state).1 = .ok entry) :
    (transfer.upload organization repository object.oid object.size hints state).1 = .ok entry ∨
      ∃ error : StoreFailure,
        entry = (Answer.ofObject object.oid object.size).refusing error.refusal := by
  rw [uploadAnswer, Step.tryCatch_apply] at success
  cases outcome : transfer.upload organization repository object.oid object.size hints state with
  | mk result after =>
    rw [outcome] at success
    cases result with
    | ok value => exact .inl success
    | error failure =>
      cases failure <;> cases success
      exact .inr ⟨_, rfl⟩

/-! ## Answers to all objects -/

theorem answers_settled {transfer : Transfer σ} {authority : Authority}
    {organization repository : String} {operation : Operation} (entryOf : Item → Answer)
    (objects : List Item)
    (each : ∀ object ∈ objects,
      Settled steady (answer transfer authority organization repository operation object)
        (.ok (entryOf object))) :
    Settled steady (answers transfer authority organization repository operation objects)
      (.ok (objects.map entryOf)) := by
  induction objects with
  | nil => exact Step.settled_pure []
  | cons object rest ih =>
    have first := each object List.mem_cons_self
    have others := ih fun later inside => each later (List.mem_cons_of_mem _ inside)
    exact first.bind_ok (others.bind_ok (Step.settled_pure _))

theorem answers_unissuable {transfer : Transfer σ} {authority : Authority}
    {organization repository : String} {operation : Operation} (objects : List Item)
    (each : ∀ object ∈ objects,
      (∃ entry, Settled steady
        (answer transfer authority organization repository operation object) (.ok entry)) ∨
      ∃ failure, Settled steady
        (answer transfer authority organization repository operation object)
        (.error (.token failure)))
    (some_object : ∃ object ∈ objects, ∃ failure, Settled steady
      (answer transfer authority organization repository operation object)
      (.error (.token failure))) :
    ∃ failure, Settled steady
      (answers transfer authority organization repository operation objects)
      (.error (.token failure)) := by
  induction objects with
  | nil =>
    obtain ⟨_, inside, _⟩ := some_object
    cases inside
  | cons object rest ih =>
    rcases each object List.mem_cons_self with ⟨entry, first⟩ | ⟨failure, stopped⟩
    · obtain ⟨other, inside, failure, stopped⟩ := some_object
      rcases List.mem_cons.mp inside with rfl | later
      · exact ⟨failure, stopped.bind_error _⟩
      · obtain ⟨last, ended⟩ := ih
          (fun further within => each further (List.mem_cons_of_mem _ within))
          ⟨other, later, failure, stopped⟩
        exact ⟨last, first.bind_ok (ended.bind_error _)⟩
    · exact ⟨failure, stopped.bind_error _⟩

/-- What is said of the object at a place was said after the answers to those before it. -/
theorem answers_at {transfer : Transfer σ} {authority : Authority}
    {organization repository : String} {operation : Operation} (objects : List Item) :
    ∀ (state : σ) (entries : List Answer),
      (answers transfer authority organization repository operation objects state).1 = .ok entries →
      ∀ (place : Nat) (object : Item), objects[place]? = some object →
        ∃ entry, entries[place]? = some entry ∧
          (answer transfer authority organization repository operation object
            (answers transfer authority organization repository operation (objects.take place)
              state).2).1 = .ok entry := by
  induction objects with
  | nil =>
    intro _ _ _ place object here
    cases here
  | cons first rest ih =>
    intro state entries success place object here
    obtain ⟨entry, between, answered, success⟩ := (Step.bind_eq_ok_iff _ _ _ _).mp success
    obtain ⟨others, after, continued, success⟩ := (Step.bind_eq_ok_iff _ _ _ _).mp success
    cases success
    cases place with
    | zero =>
      cases here
      exact ⟨entry, rfl, congrArg Prod.fst answered⟩
    | succ earlier =>
      obtain ⟨entry, same, said⟩ :=
        ih between others (congrArg Prod.fst continued) earlier object here
      refine ⟨entry, same, ?_⟩
      rw [List.take_succ_cons, answers, Step.bind_of_ok (congrArg Prod.fst answered)]
      rw [Step.bind_quiet _ fun _ => Step.quiet_pure _, answered]
      exact said

theorem length_of_answers {transfer : Transfer σ} {authority : Authority}
    {organization repository : String} {operation : Operation} (objects : List Item) :
    ∀ (state : σ) (entries : List Answer),
      (answers transfer authority organization repository operation objects state).1 = .ok entries →
        entries.length = objects.length := by
  induction objects with
  | nil =>
    intro _ _ success
    cases success
    rfl
  | cons first rest ih =>
    intro state entries success
    obtain ⟨entry, between, -, success⟩ := (Step.bind_eq_ok_iff _ _ _ _).mp success
    obtain ⟨others, after, continued, success⟩ := (Step.bind_eq_ok_iff _ _ _ _).mp success
    cases success
    exact congrArg Nat.succ (ih between others (congrArg Prod.fst continued))

/-! ## Whole batches -/

namespace Request

/-- The request insists on transfers other than the one that is offered. -/
def Unsupported (request : Request) (transfer : String) : Prop :=
  ∃ offered, request.transfers = some offered ∧ offered ≠ [] ∧ transfer ∉ offered

theorem accepts_iff (request : Request) (transfer : String) :
    request.accepts transfer = true ↔ ¬ request.Unsupported transfer := by
  unfold accepts Unsupported
  cases request.transfers with
  | none => simp
  | some offered => cases offered <;> simp [Decidable.or_iff_not_imp_left]

end Request

theorem carryOut_objects (transfer : Transfer σ) (authority : Authority)
    (organization repository : String) (request : Request) (state : σ) (response : Response)
    (success : (carryOut transfer authority organization repository request state).1 =
      .ok response) :
    (answers transfer authority organization repository request.operation request.objects
      state).1 = .ok response.objects := by
  unfold carryOut at success
  by_cases accepted : request.accepts transfer.name = true
  · rw [if_pos accepted] at success
    obtain ⟨entries, after, answered, success⟩ := (Step.bind_eq_ok_iff _ _ _ _).mp success
    cases success
    rw [answered]
  · rw [if_neg accepted] at success
    cases success

variable {basic : BasicTransfer σ} {now : Int} {authority : Authority}
  {organization repository : String}

theorem carryOut_unsupported {transfer : Transfer σ} {request : Request}
    (unsupported : request.Unsupported transfer.name) :
    Settled steady (carryOut transfer authority organization repository request)
      (.error noCommonTransfer) := by
  have refused : ¬ request.accepts transfer.name = true :=
    fun accepted => (request.accepts_iff _).mp accepted unsupported
  unfold carryOut
  rw [if_neg refused]
  exact Step.settled_throw _

theorem carryOut_of_answers {transfer : Transfer σ} {request : Request}
    (supported : ¬ request.Unsupported transfer.name) {entries : List Answer}
    (answered : Settled steady (answers transfer authority organization repository
      request.operation request.objects) (.ok entries)) :
    Settled steady (carryOut transfer authority organization repository request)
      (.ok ⟨transfer.name, entries⟩) := by
  unfold carryOut
  rw [if_pos ((request.accepts_iff _).mpr supported)]
  exact answered.bind_ok (Step.settled_pure _)

theorem carryOut_of_stopped {transfer : Transfer σ} {request : Request}
    (supported : ¬ request.Unsupported transfer.name) {failure : ExchangeFailure}
    (stopped : Settled steady (answers transfer authority organization repository
      request.operation request.objects) (.error failure)) :
    Settled steady (carryOut transfer authority organization repository request)
      (.error failure) := by
  unfold carryOut
  rw [if_pos ((request.accepts_iff _).mpr supported)]
  exact stopped.bind_error _

def Request.Unissuable (request : Request) (basic : BasicTransfer σ) (report : StoreReport)
    (now : Int) (authority : Authority) (organization repository : String) : Prop :=
  request.operation = .upload ∧ ∃ object ∈ request.objects,
    Batch.Unissuable basic report now authority organization repository object

theorem carryOut_unissuable (keeps : basic.store.KeepsTo steady report) {request : Request}
    (supported : ¬ request.Unsupported BasicTransfer.name)
    (unissuable : request.Unissuable basic report now authority organization repository) :
    ∃ failure, Settled steady
      (carryOut (basic.transfer now) authority organization repository request)
      (.error (.token failure)) := by
  obtain ⟨uploads, object, inside, headless⟩ := unissuable
  have each : ∀ other ∈ request.objects,
      (∃ entry, Settled steady (answer (basic.transfer now) authority organization repository
        .upload other) (.ok entry)) ∨
      ∃ failure, Settled steady (answer (basic.transfer now) authority organization repository
        .upload other) (.error (.token failure)) := by
    intro other _
    by_cases refused : Batch.Unissuable basic report now authority organization repository other
    · exact .inr (answer_unissuable keeps refused)
    · obtain ⟨entry, settled, _⟩ := answer_settled keeps fun _ => refused
      exact .inl ⟨entry, settled⟩
  obtain ⟨failure, stopped⟩ :=
    answers_unissuable request.objects each ⟨object, inside, answer_unissuable keeps headless⟩
  exact ⟨failure, carryOut_of_stopped supported (uploads ▸ stopped)⟩

theorem carryOut_answered (entryOf : Operation → Item → Answer)
    (each : ∀ operation object,
      (operation = .upload →
        ¬ Batch.Unissuable basic report now authority organization repository object) →
      Settled steady (answer (basic.transfer now) authority organization repository operation
        object) (.ok (entryOf operation object)))
    {request : Request} (supported : ¬ request.Unsupported BasicTransfer.name)
    (issuable : ¬ request.Unissuable basic report now authority organization repository) :
    Settled steady (carryOut (basic.transfer now) authority organization repository request)
      (.ok ⟨BasicTransfer.name, request.objects.map (entryOf request.operation)⟩) := by
  apply carryOut_of_answers supported
  apply answers_settled
  intro object inside
  apply each
  intro uploads headless
  exact issuable ⟨uploads, object, inside, headless⟩

theorem exists_entryOf (keeps : basic.store.KeepsTo steady report) (now : Int)
    (authority : Authority) (organization repository : String) :
    ∃ entryOf : Operation → Item → Answer, ∀ operation object,
      (operation = .upload →
        ¬ Batch.Unissuable basic report now authority organization repository object) →
      Settled steady (answer (basic.transfer now) authority organization repository operation
        object) (.ok (entryOf operation object)) ∧
      Answered basic steady report now authority organization repository operation
        operation.permission object (entryOf operation object) := by
  have answered : ∀ operation object, ∃ entry,
      (operation = .upload →
        ¬ Batch.Unissuable basic report now authority organization repository object) →
      Settled steady (answer (basic.transfer now) authority organization repository operation
        object) (.ok entry) ∧
      Answered basic steady report now authority organization repository operation
        operation.permission object entry := by
    intro operation object
    by_cases issuable : operation = .upload →
        ¬ Batch.Unissuable basic report now authority organization repository object
    · obtain ⟨entry, settled, told⟩ := answer_settled keeps issuable
      exact ⟨entry, fun _ => ⟨settled, told⟩⟩
    · exact ⟨Answer.ofObject object.oid object.size, fun other => absurd other issuable⟩
  exact ⟨fun operation object => (answered operation object).choose,
    fun operation object => (answered operation object).choose_spec⟩

/-- However a batch ends, it has asked the store and changed nothing. -/
theorem carryOut_settled (keeps : basic.store.KeepsTo steady report) (request : Request) :
    ∃ outcome, Settled steady
      (carryOut (basic.transfer now) authority organization repository request) outcome := by
  by_cases unsupported : request.Unsupported BasicTransfer.name
  · exact ⟨_, carryOut_unsupported unsupported⟩
  by_cases unissuable :
      request.Unissuable basic report now authority organization repository
  · obtain ⟨failure, stopped⟩ := carryOut_unissuable keeps unsupported unissuable
    exact ⟨_, stopped⟩
  · obtain ⟨entryOf, told⟩ := exists_entryOf keeps now authority organization repository
    exact ⟨_, carryOut_answered entryOf (fun operation object issuable =>
      (told operation object issuable).1) unsupported unissuable⟩

/-- A batch fails only for transfers that are not offered or for headers that cannot be issued, and
what it says about an object depends on nothing but the object. -/
theorem carryOut_pointwise (basic : BasicTransfer σ) (steady : σ → Prop) (report : StoreReport)
    (keeps : basic.store.KeepsTo steady report) (now : Int) (authority : Authority)
    (organization repository : String) :
    ∃ entryOf : Operation → Item → Answer, ∀ (request : Request) (state : σ), steady state →
      ((∃ reason, (carryOut (basic.transfer now) authority organization repository request
            state).1 = .error (.invalidPayload reason)) ↔
          request.Unsupported BasicTransfer.name) ∧
      (¬ request.Unsupported BasicTransfer.name →
        ((∃ failure, (carryOut (basic.transfer now) authority organization repository request
            state).1 = .error (.token failure)) ↔
          request.Unissuable basic report now authority organization repository)) ∧
      (¬ request.Unsupported BasicTransfer.name →
        ¬ request.Unissuable basic report now authority organization repository →
        (carryOut (basic.transfer now) authority organization repository request state).1 =
            .ok ⟨BasicTransfer.name, request.objects.map (entryOf request.operation)⟩ ∧
          ∀ permission, request.operation.Needs permission → ∀ object ∈ request.objects,
            Answered basic steady report now authority organization repository
              request.operation permission object (entryOf request.operation object)) := by
  obtain ⟨entryOf, told⟩ := exists_entryOf keeps now authority organization repository
  refine ⟨entryOf, ?_⟩
  intro request state inside
  by_cases unsupported : request.Unsupported BasicTransfer.name
  · have refused : (carryOut (basic.transfer now) authority organization repository request
        state).1 = .error noCommonTransfer := (carryOut_unsupported unsupported state inside).1
    refine ⟨⟨fun _ => unsupported, fun _ => ⟨_, refused⟩⟩, ?_, ?_⟩
    · intro supported
      exact absurd unsupported supported
    · intro supported
      exact absurd unsupported supported
  by_cases unissuable :
      request.Unissuable basic report now authority organization repository
  · obtain ⟨failure, settled⟩ := carryOut_unissuable keeps unsupported unissuable
    have stopped := (settled state inside).1
    refine ⟨⟨?_, fun other => absurd other unsupported⟩, ?_, ?_⟩
    · rintro ⟨reason, refused⟩
      rw [stopped] at refused
      cases refused
    · intro _
      exact ⟨fun _ => unissuable, fun _ => ⟨failure, stopped⟩⟩
    · intro _ issuable
      exact absurd unissuable issuable
  · have done := (carryOut_answered entryOf (fun operation object issuable =>
      (told operation object issuable).1) unsupported unissuable state inside).1
    refine ⟨⟨?_, fun other => absurd other unsupported⟩, ?_, ?_⟩
    · rintro ⟨reason, refused⟩
      rw [done] at refused
      cases refused
    · intro _
      refine ⟨?_, fun other => absurd other unissuable⟩
      rintro ⟨failure, stopped⟩
      rw [done] at stopped
      cases stopped
    · intro _ _
      refine ⟨done, ?_⟩
      intro permission needs object among
      obtain rfl := (request.operation.needs_iff permission).mp needs
      apply (told request.operation object ?_).2
      intro uploads headless
      exact unissuable ⟨uploads, object, among, headless⟩

def sizeFault (method : Store.Method) : Option StoreFailure :=
  if method = .size then some (.backend "out of reach") else none

def unmeasured : BasicTransfer MemoryObjects where
  store := (MemoryStore.mk none).store.withFaults sizeFault
  authorizer := .signed ⟨[107, 101, 121], "Authorization"⟩
  endpoints := ExchangeSettings.localEndpoints
  transferLifetime := 900
  verificationLifetime := 43200

theorem carryOut_pointwise_unmeasured : ∃ entryOf : Operation → Item → Answer,
    (carryOut (unmeasured.transfer 1700000000) (fun _ _ _ oid => oid != some "0c") "acme" "widgets"
        ⟨.upload, none, none, [⟨"0a", 3, none⟩, ⟨"0b", 4, none⟩, ⟨"0c", 5, none⟩]⟩
        [(⟨"acme/widgets", "0a"⟩, [1, 2, 3])]).1 =
      .ok ⟨"basic", [entryOf .upload ⟨"0a", 3, none⟩, entryOf .upload ⟨"0b", 4, none⟩,
        entryOf .upload ⟨"0c", 5, none⟩]⟩ ∧
    (entryOf .upload ⟨"0a", 3, none⟩).refusal =
      some ⟨500, "Storage backend error: out of reach"⟩ ∧
    (entryOf .upload ⟨"0b", 4, none⟩).size = 4 ∧
    ∃ refusal, (entryOf .upload ⟨"0c", 5, none⟩).refusal = some refusal ∧ refusal.code = 403 := by
  have keeps : unmeasured.store.KeepsTo _ _ :=
    ((MemoryStore.mk none).keepsTo [(⟨"acme/widgets", "0a"⟩, [1, 2, 3])]).withFaults sizeFault
  obtain ⟨entryOf, batches⟩ := carryOut_pointwise unmeasured _ _ keeps 1700000000
    (fun _ _ _ oid => oid != some "0c") "acme" "widgets"
  obtain ⟨-, -, answered⟩ := batches
    ⟨.upload, none, none, [⟨"0a", 3, none⟩, ⟨"0b", 4, none⟩, ⟨"0c", 5, none⟩]⟩ _ rfl
  obtain ⟨done, told⟩ := answered (by rintro ⟨_, named, _⟩; cases named)
    (by rintro ⟨_, _, _, _, _, refused⟩; exact refused ⟨_, _, rfl, rfl⟩)
  have first := told .write .upload ⟨"0a", 3, none⟩ (by simp)
  have second := told .write .upload ⟨"0b", 4, none⟩ (by simp)
  have third := told .write .upload ⟨"0c", 5, none⟩ (by simp)
  have fault := (first.failed (by decide) _).mpr ⟨.backend "out of reach", .stored rfl rfl, rfl⟩
  exact ⟨entryOf, done, fault, second.size, third.refused.mpr (by decide)⟩

end Batch

end ObjectTransfer
