import ObjectTransfer.Exchange.Batch
import ObjectTransfer.Exchange.Objects
import ObjectTransfer.Proofs.Exchange.BatchAnswers
import ObjectTransfer.Proofs.Store.BucketReplies
import ObjectTransfer.Proofs.Store.BucketRequests

/-!
# A fault of the bucket is never taken for an answer

Uploads, downloads, verifications and content on its way down each take a few
requests to the bucket, one after the other as long as the replies are good.  If
one of the replies is a fault, then the bucket is said to be at fault, either by
the error of the whole or in the answer about the object.  Nothing is offered
then, and no object is said to be there or not to be there.
-/

set_option autoImplicit false

namespace ObjectTransfer

def ExchangeFailure.IsBackend (failure : ExchangeFailure) : Prop :=
  ∃ error : StoreFailure, error.IsBackend ∧ failure = .store error ∧ failure.status = 500

namespace Step

variable {τ ε α β : Type}

/-! ## Steps that make requests -/

/-- The step makes these requests, one after the other as long as the replies are good, and it fails
in this way if one of the replies is a fault. -/
structure DependsOn (transport : Transport τ) (requests : List BucketRequest) (failed : ε → Prop)
    (step : Step τ ε α) : Prop where
  asks : ∀ state, (step state).2 = (transport.replies requests state).2
  fails : ∀ state, (∃ reply ∈ (transport.replies requests state).1, reply.isFault = true) →
    ∃ error, failed error ∧ (step state).1 = .error error

/-- The step makes one request, and it ends with one of these values exactly if the reply is
good. -/
structure Leads (transport : Transport τ) (request : BucketRequest) (failed : ε → Prop)
    (onward : α → Prop) (step : Step τ ε α) : Prop where
  asks : ∀ state, (step state).2 = (transport.reply request state).2
  good : ∀ state, (transport.reply request state).1.isGood = true →
    ∃ value, onward value ∧ (step state).1 = .ok value
  stops : ∀ state, (transport.reply request state).1.isGood = false →
    ∀ value, (step state).1 = .ok value → ¬ onward value
  fails : ∀ state, (transport.reply request state).1.isFault = true →
    ∃ error, failed error ∧ (step state).1 = .error error

variable {transport : Transport τ} {request : BucketRequest} {requests : List BucketRequest}
  {failed : ε → Prop} {onward : β → Prop}

theorem DependsOn.bind {step : Step τ ε β} {next : β → Step τ ε α}
    (depends : DependsOn transport requests failed step) (after : ∀ value, Quiet (next value)) :
    DependsOn transport requests failed (step >>= next) := by
  refine ⟨fun state => ?_, fun state fault => ?_⟩
  · rw [bind_quiet step after, depends.asks]
  · obtain ⟨error, fails, ran⟩ := depends.fails state fault
    exact ⟨error, fails, by rw [bind_of_error ran]⟩

/-- Errors may be caught, but not those of the bucket. -/
theorem DependsOn.tryCatch {step : Step τ ε α} {handle : ε → Step τ ε α}
    (depends : DependsOn transport requests failed step) (after : ∀ error, Quiet (handle error))
    (passes : ∀ error, failed error → handle error = throw error) :
    DependsOn transport requests failed (tryCatch step handle) := by
  refine ⟨fun state => ?_, fun state fault => ?_⟩
  · rw [← depends.asks]
    cases ran : (step state).1 with
    | error error => rw [tryCatch_of_error ran, after]
    | ok value => rw [tryCatch_of_ok ran]
  · obtain ⟨error, fails, ran⟩ := depends.fails state fault
    refine ⟨error, fails, ?_⟩
    rw [tryCatch_of_error ran, passes error fails]
    rfl

/-- A request first, and the others after it if its reply is good. -/
theorem Leads.bind {step : Step τ ε β} {next : β → Step τ ε α}
    (leads : Leads transport request failed onward step)
    (further : ∀ value, onward value → DependsOn transport requests failed (next value))
    (ends : ∀ value, ¬ onward value → Quiet (next value)) :
    DependsOn transport (request :: requests) failed (step >>= next) := by
  refine ⟨fun state => ?_, fun state => ?_⟩
  case refine_1 =>
    simp only [Transport.replies]
    cases fine : (transport.reply request state).1.isGood with
    | true =>
      obtain ⟨value, goes, ran⟩ := leads.good state fine
      rw [if_pos rfl, bind_of_ok ran, (further value goes).asks, leads.asks]
    | false =>
      rw [if_neg Bool.false_ne_true, ← leads.asks]
      cases ran : (step state).1 with
      | error error => rw [bind_of_error ran]
      | ok value => rw [bind_of_ok ran, ends value (leads.stops state fine value ran)]
  case refine_2 =>
    simp only [Transport.replies]
    rintro ⟨reply, inside, fault⟩
    cases fine : (transport.reply request state).1.isGood with
    | true =>
      obtain ⟨value, goes, ran⟩ := leads.good state fine
      rw [bind_of_ok ran, leads.asks]
      rw [fine, if_pos rfl] at inside
      rcases List.mem_cons.mp inside with rfl | later
      · exact absurd fine (BucketReply.not_isGood_of_isFault fault)
      · exact (further value goes).fails _ ⟨reply, later, fault⟩
    | false =>
      rw [fine, if_neg Bool.false_ne_true] at inside
      obtain rfl := List.mem_singleton.mp inside
      obtain ⟨error, failure, ran⟩ := leads.fails state fault
      exact ⟨error, failure, by rw [bind_of_error ran]⟩

theorem dependsOn_one {step : Step τ ε α}
    (asks : ∀ state, (step state).2 = (transport.reply request state).2)
    (fails : ∀ state, (transport.reply request state).1.isFault = true →
      ∃ error, failed error ∧ (step state).1 = .error error) :
    DependsOn transport [request] failed step := by
  have whole : ∀ state, transport.replies [request] state =
      ([(transport.reply request state).1], (transport.reply request state).2) := by
    intro state
    simp only [Transport.replies]
    split <;> rfl
  refine ⟨fun state => ?_, fun state => ?_⟩
  · rw [whole, asks]
  · rw [whole]
    rintro ⟨reply, inside, fault⟩
    obtain rfl := List.mem_singleton.mp inside
    exact fails state fault

section OfStore

variable {inStore : StoreFailure → Prop} {inExchange : ExchangeFailure → Prop}
  (passed : ∀ error, inStore error → inExchange (.store error))
include passed

theorem DependsOn.ofStore {step : Step τ StoreFailure α}
    (depends : DependsOn transport requests inStore step) :
    DependsOn transport requests inExchange (ofStore step) := by
  refine ⟨depends.asks, fun state fault => ?_⟩
  obtain ⟨error, fails, ran⟩ := depends.fails state fault
  refine ⟨_, passed error fails, ?_⟩
  rw [ofStore_apply, ran]
  rfl

theorem Leads.ofStore {step : Step τ StoreFailure β}
    (leads : Leads transport request inStore onward step) :
    Leads transport request inExchange onward (ofStore step) := by
  refine ⟨leads.asks, fun state fine => ?_, fun state bad value => ?_, fun state fault => ?_⟩
  · obtain ⟨value, goes, ran⟩ := leads.good state fine
    refine ⟨value, goes, ?_⟩
    rw [ofStore_apply, ran]
    rfl
  · rw [ofStore_apply]
    cases ran : (step state).1 with
    | error error => exact fun same => by cases same
    | ok _ =>
      rintro ⟨⟩
      exact leads.stops state bad value ran
  · obtain ⟨error, fails, ran⟩ := leads.fails state fault
    refine ⟨_, passed error fails, ?_⟩
    rw [ofStore_apply, ran]
    rfl

end OfStore

end Step

open Step (DependsOn Leads Quiet)

variable {τ : Type}

/-! ## Questions to the bucket -/

namespace BucketStore

variable {bucket : BucketStore} {now : Int} {urls : String → String → String → Url}
  (builds : bucket.Builds now urls) (transport : Transport τ) (place oid : String)
include builds

theorem leads_holds :
    Leads transport (.asking "HEAD" (urls "HEAD" place oid)) StoreFailure.IsBackend (· = true)
      ((bucket.store transport now).holds place oid) := by
  constructor <;> intro state <;>
    obtain ⟨outcome, judged, ran⟩ := judged_holds builds transport place oid state <;>
    rw [ran]
  case good =>
    intro fine
    obtain ⟨response, -, rfl⟩ := judged.eq_some fine
    exact ⟨true, rfl, rfl⟩
  case stops =>
    intro bad value same
    rcases BucketReply.isMissing_or_isGood_or_isFault _ with absent | fine | fault
    · rw [judged.eq_none absent] at same
      cases same
      exact Bool.false_ne_true
    · rw [bad] at fine
      cases fine
    · obtain ⟨reason, rfl⟩ := judged.eq_error fault
      cases same
  case fails =>
    intro fault
    obtain ⟨reason, rfl⟩ := judged.eq_error fault
    exact ⟨_, StoreFailure.isBackend reason, rfl⟩

theorem leads_mimeType :
    Leads transport (.asking "HEAD" (urls "HEAD" place oid)) StoreFailure.IsBackend (fun _ => True)
      ((bucket.store transport now).mimeType place oid) := by
  constructor <;> intro state <;>
    obtain ⟨outcome, reports, ran⟩ := reports_mimeType builds transport place oid state <;>
    change _ = _ at ran <;> simp only [store, ran]
  case good =>
    intro fine
    obtain ⟨response, answered, good⟩ := BucketReply.isGood_iff.mp fine
    exact ⟨_, trivial, (reports.ok _).mpr ⟨response, answered, good, rfl⟩⟩
  case stops =>
    intro bad value same
    obtain ⟨response, answered, fine, -⟩ := (reports.ok value).mp same
    rw [BucketReply.isGood_iff.mpr ⟨response, answered, fine⟩] at bad
    cases bad
  case fails => exact reports.eq_error

theorem dependsOn_size :
    DependsOn transport [.asking "HEAD" (urls "HEAD" place oid)] StoreFailure.IsBackend
      ((bucket.store transport now).size place oid) := by
  refine Step.dependsOn_one (fun state => ?_) fun state => ?_ <;>
    obtain ⟨outcome, reports, ran⟩ := reports_size builds transport place oid state <;>
    simp only [store, ran]
  exact reports.eq_error

theorem dependsOn_get :
    DependsOn transport [.asking "GET" (urls "GET" place oid)] StoreFailure.IsBackend
      ((bucket.store transport now).get place oid) := by
  refine Step.dependsOn_one (fun state => ?_) fun state => ?_ <;>
    obtain ⟨outcome, reports, ran⟩ := reports_get builds transport place oid state <;>
    simp only [store, ran]
  exact reports.eq_error

end BucketStore

/-! ## Requests of clients -/

theorem ExchangeFailure.isBackend {error : StoreFailure} (backend : error.IsBackend) :
    (ExchangeFailure.store error).IsBackend := ⟨error, backend, rfl, backend.2⟩

section Exchange

variable {bucket : BucketStore} {now : Int} {urls : String → String → String → Url}
  (builds : bucket.Builds now urls) (transport : Transport τ) (organization repository oid : String)

def BucketRequest.about (urls : String → String → String → Url)
    (organization repository oid method : String) : BucketRequest :=
  .asking method (urls method (placeOf organization repository) oid)

open BucketRequest (about)

namespace BasicTransfer

variable {basic : BasicTransfer τ} (kept : basic.store = bucket.store transport now)
include builds kept

theorem dependsOn_upload (clock : Int) (size : UInt64) :
    DependsOn transport
      [about urls organization repository oid "HEAD", about urls organization repository oid "HEAD"]
      ExchangeFailure.IsBackend (basic.upload clock organization repository oid size) := by
  have asked : DependsOn transport
      [about urls organization repository oid "HEAD", about urls organization repository oid "HEAD"]
      StoreFailure.IsBackend (basic.isStored (placeOf organization repository) oid size) := by
    unfold isStored
    rw [kept]
    refine (bucket.leads_holds builds transport _ oid).bind (fun value there => ?_)
      fun value missing => ?_
    · rw [if_pos there]
      exact (bucket.dependsOn_size builds transport _ oid).bind fun _ => Step.quiet_pure _
    · rw [if_neg missing]
      exact Step.quiet_pure _
  unfold upload
  refine (asked.ofStore fun _ => ExchangeFailure.isBackend).bind fun stored => ?_
  split
  · exact Step.quiet_pure _
  · exact (Step.quiet_ofToken _).bind fun _ => (Step.quiet_ofToken _).bind fun _ =>
      Step.quiet_pure _

theorem dependsOn_offer (size : UInt64) (hints : Hints) :
    DependsOn transport [about urls organization repository oid "HEAD"]
      StoreFailure.IsBackend (basic.offer (placeOf organization repository) oid size hints) := by
  have handsOut : ∀ place, Quiet ((bucket.store transport now).downloadAction place oid size
      basic.transferLifetime hints) := by
    intro place state
    rw [BucketStore.downloadAction_apply]
  unfold offer
  rw [kept]
  refine (bucket.dependsOn_size builds transport _ oid).bind fun stored => ?_
  split
  · exact (Step.quiet_throw _).bind fun _ => handsOut _
  · exact handsOut _

theorem download_refused (size : UInt64) (hints : Hints) (state : τ) :
    let asked := transport.replies [about urls organization repository oid "HEAD"] state
    let ended := basic.download organization repository oid size hints state
    ended.2 = asked.2 ∧
      ((∃ reply ∈ asked.1, reply.isFault = true) →
        ∃ error : StoreFailure, error.IsBackend ∧
          ended.1 = .ok ⟨oid, size, none, none, some ⟨500, error.message⟩⟩) := by
  intro asked ended
  have depends := dependsOn_offer builds transport organization repository oid kept size hints
  refine ⟨depends.asks state, fun fault => ?_⟩
  obtain ⟨error, backend, ran⟩ := depends.fails state fault
  refine ⟨error, backend, ?_⟩
  simp only [ended, download]
  rcases offered : basic.offer (placeOf organization repository) oid size hints state with
    ⟨outcome, after⟩
  rw [offered] at ran
  subst ran
  simp only [Answer.ofObject, Answer.refusing, StoreFailure.refusal, backend.2]

end BasicTransfer

namespace Objects

variable {authority : Authority}
include builds

theorem dependsOn_verify (size : UInt64)
    (granted : authority organization repository .readMeta (some oid) = true) :
    DependsOn transport [about urls organization repository oid "HEAD"]
      ExchangeFailure.IsBackend
      (verify (bucket.store transport now) authority organization repository ⟨oid, size⟩) := by
  have compared : DependsOn transport [about urls organization repository oid "HEAD"]
      StoreFailure.IsBackend
      ((bucket.store transport now).verify (placeOf organization repository) oid size) := by
    refine ((bucket.dependsOn_size builds transport _ oid).bind fun _ =>
      Step.quiet_pure _).tryCatch (fun error => ?_) fun error => ?_
    · cases error <;> exact fun _ => rfl
    · rintro ⟨⟨reason, rfl⟩, -⟩
      rfl
  unfold verify allowed
  rw [if_pos granted]
  refine (compared.ofStore fun _ => ExchangeFailure.isBackend).bind fun same => ?_
  split <;> exact fun _ => rfl

theorem dependsOn_fetch (hints : Hints)
    (granted : authority organization repository .read (some oid) = true) :
    DependsOn transport
      [about urls organization repository oid "HEAD", about urls organization repository oid "HEAD",
        about urls organization repository oid "GET"]
      ExchangeFailure.IsBackend
      (fetch (bucket.store transport now) authority organization repository oid hints) := by
  unfold fetch allowed
  rw [if_pos granted]
  refine ((bucket.leads_holds builds transport _ oid).ofStore fun _ =>
    ExchangeFailure.isBackend).bind (fun value there => ?_) fun value missing => ?_
  · rw [if_pos there]
    refine ((bucket.leads_mimeType builds transport _ oid).ofStore fun _ =>
      ExchangeFailure.isBackend).bind (fun mimeType _ => ?_) fun _ never => absurd trivial never
    exact ((bucket.dependsOn_get builds transport _ oid).ofStore fun _ =>
      ExchangeFailure.isBackend).bind fun _ => Step.quiet_pure _
  · rw [if_neg missing]
    exact Step.quiet_throw _

end Objects

namespace Batch

def questions (urls : String → String → String → Url) (organization repository oid : String) :
    Operation → List BucketRequest
  | .upload =>
    [about urls organization repository oid "HEAD", about urls organization repository oid "HEAD"]
  | .download => [about urls organization repository oid "HEAD"]

variable {basic : BasicTransfer τ} (kept : basic.store = bucket.store transport now)
  {authority : Authority}
include builds kept

omit oid in
theorem answer_refused (clock : Int) (operation : Operation) (object : Item)
    (granted : authority organization repository operation.permission (some object.oid) = true)
    (state : τ)
    (fault : ∃ reply ∈ (transport.replies
      (questions urls organization repository object.oid operation) state).1,
      reply.isFault = true) :
    ∃ error : StoreFailure, error.IsBackend ∧
      (answer (basic.transfer clock) authority organization repository operation object state).1 =
        .ok ⟨object.oid, object.size, none, none, some ⟨500, error.message⟩⟩ := by
  unfold answer
  rw [if_pos granted]
  cases operation with
  | upload =>
    obtain ⟨failure, ⟨error, backend, rfl, -⟩, ran⟩ :=
      (BasicTransfer.dependsOn_upload builds transport organization repository object.oid kept
        clock object.size).fails state fault
    refine ⟨error, backend, ?_⟩
    unfold uploadAnswer
    simp only [BasicTransfer.transfer]
    rw [Step.tryCatch_of_error ran]
    simp only [Answer.ofObject, Answer.refusing, StoreFailure.refusal, backend.2]
    rfl
  | download =>
    exact (BasicTransfer.download_refused builds transport organization repository object.oid kept
      object.size _ state).2 fault

theorem carryOut_refused (clock : Int) (request : Request) (state : τ) (response : Response)
    (answered : (carryOut (basic.transfer clock) authority organization repository request
      state).1 = .ok response)
    (place : Nat) (object : Item) (permission : Permission)
    (here : request.objects[place]? = some object) (needs : request.operation.Needs permission)
    (granted : authority organization repository permission (some object.oid) = true)
    (fault : ∃ reply ∈ (transport.replies
      (questions urls organization repository object.oid request.operation)
      (answers (basic.transfer clock) authority organization repository request.operation
        (request.objects.take place) state).2).1, reply.isFault = true) :
    ∃ error : StoreFailure, error.IsBackend ∧ response.objects[place]? =
      some ⟨object.oid, object.size, none, none, some ⟨500, error.message⟩⟩ := by
  obtain rfl := (request.operation.needs_iff permission).mp needs
  have each := carryOut_objects _ authority organization repository request state response answered
  obtain ⟨entry, same, said⟩ :=
    answers_at request.objects state response.objects each place object here
  obtain ⟨error, backend, refused⟩ := answer_refused builds transport organization repository kept
    clock request.operation object granted _ fault
  rw [said] at refused
  cases refused
  exact ⟨error, backend, same⟩

end Batch

end Exchange

/-- By the status of the reply, a bucket says that an object is missing, or it answers, or it is at
fault; and if one of the replies that a client's request takes is a fault, the client is told so,
with a status of 500 or in the answer about the object, and of nothing else. -/
theorem bucket_faults_reported (bucket : BucketStore) (now : Int)
    (urls : String → String → String → Url) (builds : bucket.Builds now urls)
    (transport : Transport τ) :
    (∀ place oid state,
      let store := bucket.store transport now
      let head := (transport.reply (.asking "HEAD" (urls "HEAD" place oid)) state).1
      let get := (transport.reply (.asking "GET" (urls "GET" place oid)) state).1
      let holds := (store.holds place oid state).1
      (holds = .ok false ↔ head.isMissing = true) ∧
      (holds = .ok true ↔ head.isGood = true) ∧
      (holds ≠ .ok false → holds ≠ .ok true → BucketStore.FailsInBackend holds) ∧
      BucketStore.Reports head BucketResponse.Measures (store.size place oid state).1 ∧
      BucketStore.Reports get (fun response content => response.body = content)
        (store.get place oid state).1 ∧
      BucketStore.Reports head
        (fun response name => (response.header? "content-type").getD octetStream = name)
        (store.mimeType place oid state).1 ∧
      ∀ content body, content.joined = .ok body →
        let put := (store.put place oid content state).1
        let sent := (transport.reply (.storing (urls "PUT" place oid) body) state).1
        (put = .ok () ↔ sent.isGood = true) ∧
          (put ≠ .ok () → BucketStore.FailsInBackend put)) ∧
    ∀ (basic : BasicTransfer τ), basic.store = bucket.store transport now →
      ∀ (authority : Authority) (organization repository : String),
        let about := BucketRequest.about urls organization repository
        (∀ clock oid size,
          DependsOn transport [about oid "HEAD", about oid "HEAD"] ExchangeFailure.IsBackend
            (basic.upload clock organization repository oid size)) ∧
        (∀ oid size hints state,
          let asked := transport.replies [about oid "HEAD"] state
          let ended := basic.download organization repository oid size hints state
          ended.2 = asked.2 ∧
            ((∃ reply ∈ asked.1, reply.isFault = true) →
              ∃ error : StoreFailure, error.IsBackend ∧
                ended.1 = .ok ⟨oid, size, none, none, some ⟨500, error.message⟩⟩)) ∧
        (∀ oid size, authority organization repository .readMeta (some oid) = true →
          DependsOn transport [about oid "HEAD"] ExchangeFailure.IsBackend
            (Objects.verify basic.store authority organization repository ⟨oid, size⟩)) ∧
        (∀ oid hints, authority organization repository .read (some oid) = true →
          DependsOn transport [about oid "HEAD", about oid "HEAD", about oid "GET"]
            ExchangeFailure.IsBackend
            (Objects.fetch basic.store authority organization repository oid hints)) ∧
        ∀ (clock : Int) (request : Batch.Request) (state : τ) (response : Batch.Response),
          let transfer := basic.transfer clock
          (Batch.carryOut transfer authority organization repository request state).1 =
            .ok response →
          ∀ (place : Nat) (object : Batch.Item) (permission : Permission),
            request.objects[place]? = some object → request.operation.Needs permission →
            authority organization repository permission (some object.oid) = true →
            let before := (Batch.answers transfer authority organization repository
              request.operation (request.objects.take place) state).2
            let questions := Batch.questions urls organization repository object.oid
              request.operation
            (∃ reply ∈ (transport.replies questions before).1, reply.isFault = true) →
            ∃ error : StoreFailure, error.IsBackend ∧ response.objects[place]? =
              some ⟨object.oid, object.size, none, none, some ⟨500, error.message⟩⟩ := by
  refine ⟨fun place oid state => ?_, fun basic kept authority organization repository => ?_⟩
  · intro store head get holds
    obtain ⟨outcome, judged, held⟩ := bucket.judged_holds builds transport place oid state
    obtain ⟨measured, sizes, sized⟩ := bucket.reports_size builds transport place oid state
    obtain ⟨found, contents, got⟩ := bucket.reports_get builds transport place oid state
    obtain ⟨named, types, typed⟩ := bucket.reports_mimeType builds transport place oid state
    have answers : holds = outcome.map Option.isSome := congrArg Prod.fst held
    obtain ⟨absent, present, otherwise⟩ := judged.presence
    rw [← answers] at absent present otherwise
    refine ⟨absent, present, otherwise, ?_, ?_, ?_, fun content body whole => ?_⟩
    · exact (congrArg Prod.fst sized).symm ▸ sizes
    · exact (congrArg Prod.fst got).symm ▸ contents
    · exact (congrArg Prod.fst typed).symm ▸ types
    · obtain ⟨stored, done, failed, ran⟩ :=
        bucket.put_outcome builds transport place oid state content body whole
      have same : (store.put place oid content state).1 = stored := congrArg Prod.fst ran
      simp only [same]
      exact ⟨done, failed⟩
  · intro about
    refine ⟨fun clock oid size => ?_, fun oid size hints state => ?_, fun oid size granted => ?_,
      fun oid hints granted => ?_, ?_⟩
    · exact BasicTransfer.dependsOn_upload builds transport organization repository oid kept clock
        size
    · exact BasicTransfer.download_refused builds transport organization repository oid kept size
        hints state
    · rw [kept]
      exact Objects.dependsOn_verify builds transport organization repository oid size granted
    · rw [kept]
      exact Objects.dependsOn_fetch builds transport organization repository oid hints granted
    · exact Batch.carryOut_refused builds transport organization repository kept

def scriptedTransport : Transport (List BucketReply) :=
  fun _ script => (script.headD none, script.tail)

def localUrls (_ place oid : String) : Url :=
  (BucketStore.localBucket.links.address.endpoint.withPath
    (BucketLinks.escapePath ("/bucket/".toList ++ (place ++ "/" ++ oid).toList))).withQuery none

theorem builds_localUrls : BucketStore.localBucket.Builds 0 localUrls := by
  intro method place oid
  have nothing : BucketLinks.canonicalQuery (BucketLinks.sorted []) = [] := by
    simp [BucketLinks.sorted, BucketLinks.canonicalQuery, Text.join]
  simp only [BucketLinks.signed, BucketStore.localBucket, nothing]
  rfl

def bucketServer : BasicTransfer (List BucketReply) :=
  ⟨BucketStore.localBucket.store scriptedTransport 0, .none, ExchangeSettings.localEndpoints, 900,
    43200⟩

/-- The object is there at first, but then the bucket is too busy, or says nothing more. -/
theorem bucket_faults_reported_scripted :
    let there : BucketReply := some ⟨200, [("Content-Length", "3")], []⟩
    let busy : BucketReply := some ⟨503, [], []⟩
    let authority : Authority := fun _ _ permission _ => permission == .read
    BucketStore.localBucket.Builds 0 localUrls ∧
      (∃ error : ExchangeFailure, error.IsBackend ∧
        (bucketServer.upload 1700000000 "acme" "widgets" "abc" 3 [there, busy]).1 = .error error) ∧
      ∃ error : ExchangeFailure, error.IsBackend ∧
        (Objects.fetch bucketServer.store authority "acme" "widgets" "abc" Hints.empty
          [there, there]).1 = .error error := by
  intro there busy authority
  obtain ⟨-, exchange⟩ := bucket_faults_reported BucketStore.localBucket 0 localUrls
    builds_localUrls scriptedTransport
  obtain ⟨upload, -, -, fetch, -⟩ := exchange bucketServer rfl authority "acme" "widgets"
  refine ⟨builds_localUrls, (upload 1700000000 "abc" 3).fails _ (List.any_eq_true.mp ?_),
    (fetch "abc" Hints.empty rfl).fails _ (List.any_eq_true.mp ?_)⟩
  · decide +kernel
  · decide +kernel

end ObjectTransfer
