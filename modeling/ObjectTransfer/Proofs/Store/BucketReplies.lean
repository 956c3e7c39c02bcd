import ObjectTransfer.Proofs.Control.Outcome
import ObjectTransfer.Proofs.Control.Stepping
import ObjectTransfer.Store.Bucket

/-!
# What the replies of a bucket come to

A request that is sent comes back with a response or with nothing.  A response
either says that the object is missing or that all is well, by its status, or it
says neither, and then it is as little an answer as no response at all.

Every question to the store is settled by one reply.  It reports that an object
is missing only if the reply says so, it has a result only if the reply is good,
and in all other cases it fails in the backend.

Whoever asks several questions goes on as long as the replies are good.
-/

set_option autoImplicit false

namespace ObjectTransfer

/-! ## The length that a response names -/

namespace BucketResponse

theorem isGood_iff (response : BucketResponse) :
    response.isGood = true ↔ 200 ≤ response.status ∧ response.status < 300 := by
  simp [isGood]

/-- The text is a number of 64 bits in decimal; a plus sign may stand in front. -/
def Counts (text : String) (size : Nat) : Prop :=
  ∃ digits, (text.toList = digits ∨ text.toList = '+' :: digits) ∧ digits ≠ [] ∧
    (∀ c ∈ digits, c.isDigit = true) ∧ Nat.ofDigitChars 10 digits 0 = size ∧ size < UInt64.size

/-- The first header that is named so in any case counts the size. -/
def Measures (response : BucketResponse) (size : Nat) : Prop :=
  ∃ before name text after, response.headers = before ++ (name, text) :: after ∧
    name.toLower = "content-length" ∧ (∀ entry ∈ before, entry.1.toLower ≠ "content-length") ∧
    Counts text size

theorem ofDigitChars_eq (digits : List Char) :
    digits.foldl (fun sum c => sum * 10 + (c.toNat - 48)) 0 = Nat.ofDigitChars 10 digits 0 := by
  simp only [Nat.ofDigitChars_eq_foldl, Nat.mul_comm 10]
  rfl

theorem sizeOf?_of_digits {text : String} {digits : List Char}
    (same : text.toList = '+' :: digits ∨
      text.toList = digits ∧ ∀ rest, digits ≠ '+' :: rest) (size : Nat) :
    sizeOf? text = some size ↔ digits ≠ [] ∧ (∀ c ∈ digits, c.isDigit = true) ∧
      Nat.ofDigitChars 10 digits 0 = size ∧ size < UInt64.size := by
  have shown : sizeOf? text =
      if digits.isEmpty ∨ ¬ digits.all Char.isDigit then none
      else if Nat.ofDigitChars 10 digits 0 < UInt64.size then some (Nat.ofDigitChars 10 digits 0)
      else none := by
    rw [← ofDigitChars_eq]
    rcases same with signed | ⟨plain, other⟩
    · simp only [sizeOf?, signed]
    · simp only [sizeOf?, plain]
  rw [shown]
  by_cases fit : digits ≠ [] ∧ ∀ c ∈ digits, c.isDigit = true
  · have read : ¬ (digits.isEmpty = true ∨ ¬ digits.all Char.isDigit = true) := by
      simpa [List.all_eq_true] using fit
    rw [if_neg read]
    simp only [Option.ite_none_right_eq_some, Option.some.injEq]
    constructor
    · rintro ⟨small, rfl⟩
      exact ⟨fit.1, fit.2, rfl, small⟩
    · rintro ⟨-, -, rfl, small⟩
      exact ⟨small, rfl⟩
  · have unread : digits.isEmpty = true ∨ ¬ digits.all Char.isDigit = true := by
      apply Classical.byContradiction
      intro read
      exact fit (by simpa [List.all_eq_true] using read)
    rw [if_pos unread]
    exact iff_of_false (by simp) fun counted => fit ⟨counted.1, counted.2.1⟩

theorem sizeOf?_eq_some_iff (text : String) (size : Nat) :
    sizeOf? text = some size ↔ Counts text size := by
  by_cases signed : ∃ digits, text.toList = '+' :: digits
  · obtain ⟨rest, same⟩ := signed
    rw [sizeOf?_of_digits (.inl same)]
    constructor
    · exact fun counted => ⟨rest, .inr same, counted⟩
    · rintro ⟨digits, plain | again, counted⟩
      · rw [same] at plain
        have sign := counted.2.1 '+' (plain ▸ List.mem_cons_self)
        exact absurd sign (by decide)
      · rw [same] at again
        cases again
        exact counted
  · have plain : ∀ rest, text.toList ≠ '+' :: rest := fun rest same => signed ⟨rest, same⟩
    rw [sizeOf?_of_digits (.inr ⟨rfl, plain⟩)]
    constructor
    · exact fun counted => ⟨_, .inl rfl, counted⟩
    · rintro ⟨digits, rfl | again, counted⟩
      · exact counted
      · exact absurd again (plain digits)

theorem sameName_iff (name : String) :
    Headers.sameName name "content-length" = true ↔ name.toLower = "content-length" := by
  have lowered : name.toLower.toList = name.toList.map Char.toLower := String.toList_map
  rw [Headers.sameName, beq_iff_eq, ← String.toList_inj, lowered]
  exact iff_of_eq (congrArg _ (by decide))

theorem isReadable_of_counts {text : String} {size : Nat} (counted : Counts text size) :
    text.toList.all isReadable = true := by
  have digit : ∀ c : Char, c.isDigit = true → isReadable c = true := by
    intro c digit
    simp only [Char.isDigit, isReadable, Bool.and_eq_true, Bool.or_eq_true, decide_eq_true_eq]
      at digit ⊢
    exact .inr ⟨Char.le_trans (by decide) digit.1, Char.le_trans digit.2 (by decide)⟩
  obtain ⟨digits, same, -, numeric, -⟩ := counted
  apply List.all_eq_true.mpr
  intro c inside
  rcases same with plain | signed
  · exact digit c (numeric c (plain ▸ inside))
  · rw [signed] at inside
    rcases List.mem_cons.mp inside with rfl | later
    · decide
    · exact digit c (numeric c later)

theorem size?_eq_some_iff (response : BucketResponse) (size : Nat) :
    response.size? = some size ↔ response.Measures size := by
  constructor
  · intro told
    obtain ⟨text, header, counted⟩ := Option.bind_eq_some_iff.mp told
    obtain ⟨found, _⟩ := Option.filter_eq_some_iff.mp header
    obtain ⟨⟨name, _⟩, here, rfl⟩ := Option.map_eq_some_iff.mp found
    obtain ⟨named, before, after, same, others⟩ := List.find?_eq_some_iff_append.mp here
    refine ⟨before, name, _, after, same, (sameName_iff name).mp named, ?_,
      (sizeOf?_eq_some_iff ..).mp counted⟩
    intro entry inside also
    have other := others entry inside
    rw [(sameName_iff entry.1).mpr also] at other
    cases other
  · rintro ⟨before, name, text, after, same, named, others, counted⟩
    have here : response.headers.find? (fun entry => Headers.sameName entry.1 "content-length") =
        some (name, text) := by
      refine List.find?_eq_some_iff_append.mpr ⟨(sameName_iff name).mpr named, before, after, same,
        ?_⟩
      intro entry inside
      rw [Bool.not_eq_true']
      exact Bool.eq_false_iff.mpr fun also => others entry inside ((sameName_iff entry.1).mp also)
    have header : response.header? "content-length" = some text := by
      rw [header?, here]
      exact Option.filter_eq_some_iff.mpr ⟨rfl, isReadable_of_counts counted⟩
    rw [size?, header]
    exact (sizeOf?_eq_some_iff text size).mpr counted

end BucketResponse

abbrev BucketReply := Option BucketResponse

namespace BucketReply

def isMissing (reply : BucketReply) : Bool := reply.any fun response => response.status == 404

def isGood (reply : BucketReply) : Bool :=
  reply.any fun response => 200 ≤ response.status && response.status < 300

/-- The reply says neither that the object is missing nor that all is well. -/
def isFault (reply : BucketReply) : Bool := !reply.isMissing && !reply.isGood

theorem isGood_iff {reply : BucketReply} :
    reply.isGood = true ↔
      ∃ response, reply = some response ∧ 200 ≤ response.status ∧ response.status < 300 := by
  cases reply <;> simp [isGood]

theorem not_isGood_of_isMissing {reply : BucketReply} (missing : reply.isMissing = true) :
    ¬ reply.isGood = true := by
  cases reply with
  | none => exact Bool.false_ne_true
  | some response =>
    have status : response.status = 404 := by simpa [isMissing] using missing
    simp [isGood, status]

theorem isMissing_or_isGood_or_isFault (reply : BucketReply) :
    reply.isMissing = true ∨ reply.isGood = true ∨ reply.isFault = true := by
  unfold isFault
  cases reply.isMissing <;> cases reply.isGood <;> simp

theorem not_isGood_of_isFault {reply : BucketReply} (fault : reply.isFault = true) :
    ¬ reply.isGood = true := by
  intro good
  rw [isFault, good, Bool.not_true, Bool.and_false] at fault
  cases fault

theorem not_isMissing_of_isFault {reply : BucketReply} (fault : reply.isFault = true) :
    ¬ reply.isMissing = true := by
  intro missing
  rw [isFault, missing, Bool.not_true, Bool.false_and] at fault
  cases fault

end BucketReply

namespace StoreFailure

/-- What is behind the store is at fault, and not the client. -/
def IsBackend (error : StoreFailure) : Prop :=
  (∃ reason, error = .backend reason) ∧ error.code = 500

theorem isBackend (reason : String) : (backend reason).IsBackend := ⟨⟨reason, rfl⟩, rfl⟩

end StoreFailure

namespace BucketRequest

abbrev asking (method : String) (url : Url) : BucketRequest := ⟨method, url, none, []⟩

abbrev storing (url : Url) (body : Octets) : BucketRequest := ⟨"PUT", url, some octetStream, body⟩

end BucketRequest

namespace Transport

variable {τ : Type}

/-- The reply to a request; there is none if the request cannot be sent. -/
def reply (transport : Transport τ) (request : BucketRequest) (state : τ) : BucketReply × τ :=
  if BucketRequest.canSend request.url then transport request state else (none, state)

/-- The replies to requests made one after the other, up to the first that is not good. -/
def replies (transport : Transport τ) : List BucketRequest → τ → List BucketReply × τ
  | [], state => ([], state)
  | request :: rest, state =>
    let (first, between) := transport.reply request state
    if first.isGood then
      let (more, after) := replies transport rest between
      (first :: more, after)
    else ([first], between)

end Transport

namespace BucketStore

variable {τ α : Type}

/-- The requests that the store makes for objects have these URLs: for a method, a place and an
id. -/
def Builds (bucket : BucketStore) (now : Int) (urls : String → String → String → Url) : Prop :=
  ∀ method place oid,
    bucket.links.signed method (bucket.key place oid) ownLifetime [] now =
      .ok (urls method place oid)

theorem send_apply (transport : Transport τ) (request : BucketRequest) (state : τ) :
    send transport request state =
      ((match (transport.reply request state).1 with
        | some response => .ok response
        | none => .error (noResponse request.url)), (transport.reply request state).2) := by
  unfold send Transport.reply
  split
  · rw [Step.lift_bind_apply]
    cases (transport request state).1 <;> rfl
  · rfl

theorem signed_bind_apply {bucket : BucketStore} {now : Int}
    {urls : String → String → String → Url} (builds : bucket.Builds now urls)
    (method place oid : String) (next : Url → Step τ StoreFailure α) (state : τ) :
    (bucket.signed method place oid now >>= next) state = next (urls method place oid) state := by
  rw [Step.bind_apply]
  simp only [signed, builds method place oid]
  rfl

/-! ## One reply -/

/-- What a reply to a question about an object is taken for. -/
inductive Judged (reply : BucketReply) : Except StoreFailure (Option BucketResponse) → Prop
  | missing (absent : reply.isMissing = true) : Judged reply (.ok none)
  | good (response : BucketResponse) (answered : reply = some response)
      (fine : 200 ≤ response.status ∧ response.status < 300) : Judged reply (.ok (some response))
  | fault (faulty : reply.isFault = true) (reason : String) :
      Judged reply (.error (.backend reason))

namespace Judged

variable {reply : BucketReply} {outcome : Except StoreFailure (Option BucketResponse)}

theorem eq_none (judged : Judged reply outcome) (absent : reply.isMissing = true) :
    outcome = .ok none := by
  cases judged with
  | missing _ => rfl
  | good response answered fine =>
    have good := BucketReply.isGood_iff.mpr ⟨response, answered, fine⟩
    exact absurd good (BucketReply.not_isGood_of_isMissing absent)
  | fault faulty _ => exact absurd absent (BucketReply.not_isMissing_of_isFault faulty)

theorem eq_some (judged : Judged reply outcome) (fine : reply.isGood = true) :
    ∃ response, reply = some response ∧ outcome = .ok (some response) := by
  cases judged with
  | missing absent => exact absurd fine (BucketReply.not_isGood_of_isMissing absent)
  | good response answered _ => exact ⟨response, answered, rfl⟩
  | fault faulty _ => exact absurd fine (BucketReply.not_isGood_of_isFault faulty)

theorem eq_error (judged : Judged reply outcome) (fault : reply.isFault = true) :
    ∃ reason, outcome = .error (.backend reason) := by
  cases judged with
  | missing absent => exact absurd absent (BucketReply.not_isMissing_of_isFault fault)
  | good response answered fine =>
    have good := BucketReply.isGood_iff.mpr ⟨response, answered, fine⟩
    exact absurd good (BucketReply.not_isGood_of_isFault fault)
  | fault _ reason => exact ⟨reason, rfl⟩

end Judged

theorem judged_found? (doing place oid : String) (response : BucketResponse) (state : τ) :
    ∃ outcome, Judged (some response) outcome ∧
      found? doing place oid response state = (outcome, state) := by
  unfold found?
  split
  · rename_i absent
    exact ⟨_, .missing (by simp [BucketReply.isMissing, absent]), rfl⟩
  · rename_i present
    split
    · rename_i fine
      exact ⟨_, .good response rfl (response.isGood_iff.mp fine), rfl⟩
    · rename_i other
      refine ⟨_, .fault ?_ _, rfl⟩
      have good : BucketReply.isGood (some response) = response.isGood := rfl
      simp [BucketReply.isFault, BucketReply.isMissing, good, present, other]

theorem judged_asking (transport : Transport τ) (method doing place oid : String) (url : Url)
    (state : τ) :
    let asked := transport.reply (.asking method url) state
    ∃ outcome, Judged asked.1 outcome ∧
      (send transport (.asking method url) >>= found? doing place oid) state =
        (outcome, asked.2) := by
  rw [Step.bind_apply, send_apply]
  rcases transport.reply (.asking method url) state with ⟨reply, after⟩
  cases reply with
  | none => exact ⟨_, .fault rfl _, rfl⟩
  | some response => exact judged_found? doing place oid response after

/-! ## What the store reports -/

def FailsInBackend (outcome : Except StoreFailure α) : Prop :=
  ∃ error : StoreFailure, error.IsBackend ∧ outcome = .error error

theorem failsInBackend (reason : String) :
    FailsInBackend (.error (.backend reason) : Except StoreFailure α) :=
  ⟨_, StoreFailure.isBackend reason, rfl⟩

/-- The outcome is what a reply says about a value that good responses give. -/
structure Reports (reply : BucketReply) (gives : BucketResponse → α → Prop)
    (outcome : Except StoreFailure α) : Prop where
  notFound : outcome = .error .notFound ↔ reply.isMissing = true
  ok : ∀ value, outcome = .ok value ↔
    ∃ response, reply = some response ∧ (200 ≤ response.status ∧ response.status < 300) ∧
      gives response value
  otherwise : outcome ≠ .error .notFound → (∀ value, outcome ≠ .ok value) → FailsInBackend outcome

def valueOf (value? : BucketResponse → Option α) (lacking : String) :
    Option BucketResponse → Except StoreFailure α
  | none => .error .notFound
  | some response =>
    match value? response with
    | some value => .ok value
    | none => .error (.backend lacking)

theorem Judged.reports {reply : BucketReply} {outcome : Except StoreFailure (Option BucketResponse)}
    (judged : Judged reply outcome) {value? : BucketResponse → Option α}
    {gives : BucketResponse → α → Prop}
    (told : ∀ response value, value? response = some value ↔ gives response value)
    (lacking : String) :
    Reports reply gives (outcome >>= valueOf value? lacking) := by
  obtain rfl : gives = fun response value => value? response = some value := by
    funext response value
    exact propext (told response value).symm
  cases judged with
  | missing absent =>
    rw [ok_bind]
    refine ⟨iff_of_true rfl absent, fun value => iff_of_false (by simp [valueOf]) ?_,
      fun other => absurd rfl other⟩
    rintro ⟨response, answered, fine, -⟩
    exact BucketReply.not_isGood_of_isMissing absent
      (BucketReply.isGood_iff.mpr ⟨response, answered, fine⟩)
  | good response answered fine =>
    have good : reply.isGood = true := BucketReply.isGood_iff.mpr ⟨response, answered, fine⟩
    have there : ¬ reply.isMissing = true :=
      fun absent => BucketReply.not_isGood_of_isMissing absent good
    rw [ok_bind]
    simp only [valueOf]
    cases given : value? response with
    | some value =>
      refine ⟨iff_of_false (by simp) there, fun other => ?_, fun _ none => absurd rfl (none value)⟩
      simp [answered, fine, given]
    | none =>
      exact ⟨iff_of_false (by simp) there, fun other => by simp [answered, given],
        fun _ _ => failsInBackend lacking⟩
  | fault faulty reason =>
    rw [error_bind]
    refine ⟨iff_of_false (by simp) (BucketReply.not_isMissing_of_isFault faulty),
      fun value => iff_of_false (by simp) ?_, fun _ _ => failsInBackend reason⟩
    rintro ⟨response, answered, fine, -⟩
    exact BucketReply.not_isGood_of_isFault faulty
      (BucketReply.isGood_iff.mpr ⟨response, answered, fine⟩)

theorem Reports.eq_error {reply : BucketReply} {gives : BucketResponse → α → Prop}
    {outcome : Except StoreFailure α} (reports : Reports reply gives outcome)
    (fault : reply.isFault = true) : FailsInBackend outcome := by
  refine reports.otherwise (fun missing => ?_) fun value given => ?_
  · exact BucketReply.not_isMissing_of_isFault fault (reports.notFound.mp missing)
  · obtain ⟨response, answered, fine, -⟩ := (reports.ok value).mp given
    exact BucketReply.not_isGood_of_isFault fault
      (BucketReply.isGood_iff.mpr ⟨response, answered, fine⟩)

theorem Judged.presence {reply : BucketReply}
    {outcome : Except StoreFailure (Option BucketResponse)} (judged : Judged reply outcome) :
    let holds := outcome.map Option.isSome
    (holds = .ok false ↔ reply.isMissing = true) ∧ (holds = .ok true ↔ reply.isGood = true) ∧
      (holds ≠ .ok false → holds ≠ .ok true → FailsInBackend holds) := by
  intro holds
  cases judged with
  | missing absent =>
    exact ⟨iff_of_true rfl absent,
      iff_of_false (by simp [holds, Except.map]) (BucketReply.not_isGood_of_isMissing absent),
      fun other => (other rfl).elim⟩
  | good response answered fine =>
    have good : reply.isGood = true := BucketReply.isGood_iff.mpr ⟨response, answered, fine⟩
    exact ⟨iff_of_false (by simp [holds, Except.map])
        fun absent => BucketReply.not_isGood_of_isMissing absent good,
      iff_of_true rfl good, fun _ other => (other rfl).elim⟩
  | fault faulty reason =>
    exact ⟨iff_of_false (by simp [holds, Except.map]) (BucketReply.not_isMissing_of_isFault faulty),
      iff_of_false (by simp [holds, Except.map]) (BucketReply.not_isGood_of_isFault faulty),
      fun _ _ => failsInBackend reason⟩

theorem Judged.reports_present {reply : BucketReply}
    {outcome : Except StoreFailure (Option BucketResponse)} (judged : Judged reply outcome)
    {first : Step τ StoreFailure (Option BucketResponse)} {state after : τ}
    (same : first state = (outcome, after)) {value? : BucketResponse → Option α}
    {gives : BucketResponse → α → Prop}
    (told : ∀ response value, value? response = some value ↔ gives response value)
    (lacking : String) {next : BucketResponse → Step τ StoreFailure α}
    (taken : ∀ response, next response after = (valueOf value? lacking (some response), after)) :
    ∃ result, Reports reply gives result ∧
      (do next (← present (← first))) state = (result, after) := by
  refine ⟨_, judged.reports told lacking, ?_⟩
  rw [Step.bind_apply, same]
  rcases outcome with error | _ | response
  · rfl
  · rfl
  · exact taken response

theorem downloadAction_apply (bucket : BucketStore) (transport : Transport τ) (now : Int)
    (place oid : String) (size lifetime : UInt64) (hints : Hints) (state : τ) :
    (bucket.store transport now).downloadAction place oid size lifetime hints state =
      (bucket.downloadAction now place oid lifetime hints, state) := by
  simp only [store]
  cases bucket.downloadAction now place oid lifetime hints <;> rfl

section Questions

variable {bucket : BucketStore} {now : Int} {urls : String → String → String → Url}
  (builds : bucket.Builds now urls) (transport : Transport τ) (place oid : String) (state : τ)
include builds

theorem judged_head :
    let asked := transport.reply (.asking "HEAD" (urls "HEAD" place oid)) state
    ∃ outcome, Judged asked.1 outcome ∧
      bucket.head transport now place oid state = (outcome, asked.2) := by
  unfold head
  rw [signed_bind_apply builds]
  exact judged_asking transport "HEAD" "checking" place oid _ state

theorem judged_holds :
    let asked := transport.reply (.asking "HEAD" (urls "HEAD" place oid)) state
    ∃ outcome, Judged asked.1 outcome ∧
      (bucket.store transport now).holds place oid state =
        (outcome.map Option.isSome, asked.2) := by
  intro asked
  obtain ⟨outcome, judged, same⟩ := judged_head builds transport place oid state
  refine ⟨outcome, judged, ?_⟩
  simp only [store, Step.bind_apply, same]
  cases outcome <;> rfl

theorem reports_size :
    let asked := transport.reply (.asking "HEAD" (urls "HEAD" place oid)) state
    ∃ outcome, Reports asked.1 BucketResponse.Measures outcome ∧
      bucket.size transport now place oid state = (outcome, asked.2) := by
  intro asked
  obtain ⟨outcome, judged, same⟩ := judged_head builds transport place oid state
  refine judged.reports_present same BucketResponse.size?_eq_some_iff ("Missing content length for " ++ place ++ "/" ++ oid)
    fun response => ?_
  simp only [valueOf]
  cases response.size? <;> rfl

theorem reports_mimeType :
    let asked := transport.reply (.asking "HEAD" (urls "HEAD" place oid)) state
    ∃ outcome, Reports asked.1
        (fun response name => (response.header? "content-type").getD octetStream = name) outcome ∧
      bucket.mimeType transport now place oid state = (outcome, asked.2) := by
  intro asked
  obtain ⟨outcome, judged, same⟩ := judged_head builds transport place oid state
  exact judged.reports_present same (fun _ _ => Option.some_inj) "" fun response => rfl

theorem reports_get :
    let asked := transport.reply (.asking "GET" (urls "GET" place oid)) state
    ∃ outcome, Reports asked.1 (fun response content => response.body = content) outcome ∧
      bucket.get transport now place oid state = (outcome, asked.2) := by
  intro asked
  obtain ⟨outcome, judged, same⟩ :=
    judged_asking transport "GET" "fetching" place oid (urls "GET" place oid) state
  unfold get
  rw [signed_bind_apply builds, ← bind_assoc]
  exact judged.reports_present same (fun _ _ => Option.some_inj) "" fun response => rfl

theorem put_outcome (content : Content) (body : Octets) (whole : content.joined = .ok body) :
    let asked := transport.reply (.storing (urls "PUT" place oid) body) state
    ∃ outcome, (outcome = .ok () ↔ asked.1.isGood = true) ∧
      (outcome ≠ .ok () → FailsInBackend outcome) ∧
      bucket.put transport now place oid content state = (outcome, asked.2) := by
  unfold put
  rw [signed_bind_apply builds]
  simp only [whole]
  rw [Step.bind_apply, send_apply]
  rcases transport.reply (.storing (urls "PUT" place oid) body) state with ⟨reply, after⟩
  cases reply with
  | none => exact ⟨_, iff_of_false (by simp) (by simp [BucketReply.isGood]),
      fun _ => failsInBackend _, rfl⟩
  | some response =>
    have good : BucketReply.isGood (some response) = response.isGood := rfl
    simp only [good]
    by_cases fine : response.isGood = true
    · rw [if_neg (not_not_intro fine)]
      exact ⟨_, iff_of_true rfl fine, fun other => absurd rfl other, rfl⟩
    · rw [if_pos fine]
      exact ⟨_, iff_of_false (by simp) fine, fun _ => failsInBackend _, rfl⟩

end Questions

end BucketStore

end ObjectTransfer
