import ObjectTransfer.Proofs.Exchange.BatchAnswers
import ObjectTransfer.Store.Memory

/-!
# Proper answers

An answer offers something or refuses, never both, and it is marked as
authenticated just where it offers something.  Nothing in its fields forces
this; it holds because every way of making an answer keeps to it.  What a batch
answers is proper in this sense, whatever the store does, and what it offers is
what the operation calls for: an upload with its verification, for as long as
each is authorized, or the one download that the store has named.
-/

set_option autoImplicit false

namespace ObjectTransfer

namespace Answer

/-- A change to an answer. -/
inductive Revision where
  | offering (offers : Offers)
  | refusing (refusal : Refusal)

def revise (answer : Answer) : Revision → Answer
  | .offering offers => answer.offering offers
  | .refusing refusal => answer.refusing refusal

/-- The answer to a request for this object is well formed. -/
structure IsProper (answer : Answer) (oid : String) (size : UInt64) : Prop where
  oid : answer.oid = oid
  size : answer.size = size
  exclusive : answer.offers = none ∨ answer.refusal = none
  authenticated : answer.authenticated = if answer.offers.isSome then some true else none

variable {answer : Answer} {oid : String} {size : UInt64}

theorem isProper_ofObject (oid : String) (size : UInt64) : (ofObject oid size).IsProper oid size :=
  ⟨rfl, rfl, .inl rfl, rfl⟩

theorem IsProper.offering (proper : answer.IsProper oid size) (offers : Offers) :
    (answer.offering offers).IsProper oid size :=
  ⟨proper.oid, proper.size, .inr rfl, rfl⟩

theorem IsProper.refusing (proper : answer.IsProper oid size) (refusal : Refusal) :
    (answer.refusing refusal).IsProper oid size :=
  ⟨proper.oid, proper.size, .inl rfl, rfl⟩

theorem IsProper.revise (proper : answer.IsProper oid size) (revision : Revision) :
    (answer.revise revision).IsProper oid size := by
  cases revision with
  | offering offers => exact proper.offering offers
  | refusing refusal => exact proper.refusing refusal

theorem IsProper.revisions (proper : answer.IsProper oid size) (revisions : List Revision) :
    (revisions.foldl Answer.revise answer).IsProper oid size := by
  induction revisions generalizing answer with
  | nil => exact proper
  | cons first rest ih => exact ih (proper.revise first)

end Answer

variable {σ : Type}

/-! ## How the answers of a batch come about -/

namespace BasicTransfer

/-- What is offered for an object, from the state in which the transfer looked at it. -/
inductive Offered (basic : BasicTransfer σ) (place : String) (object : Batch.Item) (state : σ) :
    Operation → Offers → Prop where
  | upload (upload verify : Action) :
      upload.lifetime = basic.transferLifetime → verify.lifetime = basic.verificationLifetime →
        Offered basic place object state .upload ⟨some upload, some verify, none⟩
  | download (action : Action) (between : σ) :
      basic.store.size place object.oid state = (.ok object.size.toNat, between) →
      (basic.store.downloadAction place object.oid object.size basic.transferLifetime
          (object.hints.getD Hints.empty) between).1 = .ok (some action) →
        Offered basic place object state .download ⟨none, none, some action⟩

inductive Made (basic : BasicTransfer σ) (place : String) (object : Batch.Item) (state : σ)
    (operation : Operation) : Answer → Prop where
  | idle : Made basic place object state operation (Answer.ofObject object.oid object.size)
  | refused (refusal : Refusal) :
      Made basic place object state operation
        ((Answer.ofObject object.oid object.size).refusing refusal)
  | offered (offers : Offers) :
      basic.Offered place object state operation offers →
        Made basic place object state operation
          ((Answer.ofObject object.oid object.size).offering offers)

variable {basic : BasicTransfer σ} {place organization repository : String} {object : Batch.Item}
  {operation : Operation} {now : Int} {state : σ} {entry : Answer}

theorem Made.isProper (made : basic.Made place object state operation entry) :
    entry.IsProper object.oid object.size := by
  have fresh := Answer.isProper_ofObject object.oid object.size
  cases made with
  | idle => exact fresh
  | refused refusal => exact fresh.refusing refusal
  | offered offers _ => exact fresh.offering offers

theorem Made.offers (made : basic.Made place object state operation entry) {offers : Offers}
    (offered : entry.offers = some offers) :
    basic.Offered place object state operation offers := by
  cases made with
  | idle => cases offered
  | refused _ => cases offered
  | offered _ called =>
    cases offered
    exact called

theorem upload_made
    (success : (basic.upload now organization repository object.oid object.size state).1 =
      .ok entry) :
    basic.Made (placeOf organization repository) object state .upload entry := by
  rcases upload_cases success with rfl | ⟨_, _, rfl, -, -⟩
  · exact .idle
  · exact .offered _ (.upload _ _ rfl rfl)

theorem offer_made {action : Action}
    (success : (basic.offer place object.oid object.size (object.hints.getD Hints.empty) state).1 =
      .ok (some action)) :
    basic.Offered place object state .download ⟨none, none, some action⟩ := by
  unfold offer at success
  obtain ⟨stored, between, measured, success⟩ := (Step.bind_eq_ok_iff _ _ _ _).mp success
  by_cases same : stored = object.size.toNat
  · subst same
    rw [if_neg (not_not_intro rfl)] at success
    exact .download action between measured success
  · rw [if_pos same] at success
    cases success

theorem download_made
    (success : (basic.download organization repository object.oid object.size
      (object.hints.getD Hints.empty) state).1 = .ok entry) :
    basic.Made (placeOf organization repository) object state .download entry := by
  unfold download at success
  cases asked : basic.offer (placeOf organization repository) object.oid object.size
      (object.hints.getD Hints.empty) state with
  | mk outcome after =>
    rw [asked] at success
    cases outcome with
    | error error =>
      cases success
      exact .refused error.refusal
    | ok offered =>
      cases offered with
      | none =>
        cases success
        exact .idle
      | some action =>
        cases success
        exact .offered _ (offer_made (congrArg Prod.fst asked))

end BasicTransfer

namespace Batch

variable {basic : BasicTransfer σ} {authority : Authority} {organization repository : String}
  {object : Item} {operation : Operation} {now : Int} {state : σ} {entry : Answer}

theorem uploadAnswer_made
    (success : (uploadAnswer (basic.transfer now) organization repository object
      (object.hints.getD Hints.empty) state).1 = .ok entry) :
    basic.Made (placeOf organization repository) object state .upload entry := by
  rcases uploadAnswer_cases success with done | ⟨error, rfl⟩
  · exact BasicTransfer.upload_made done
  · exact .refused error.refusal

theorem answer_made
    (success : (answer (basic.transfer now) authority organization repository operation object
      state).1 = .ok entry) :
    basic.Made (placeOf organization repository) object state operation entry := by
  unfold answer at success
  by_cases granted :
      authority organization repository operation.permission (some object.oid) = true
  · rw [if_pos granted] at success
    cases operation with
    | upload => exact uploadAnswer_made success
    | download => exact BasicTransfer.download_made success
  · rw [if_neg granted] at success
    cases success
    exact .refused forbidden

/-- Every answer is proper, whether it was changed in a row of steps or is what a batch says about
an object; and what a batch offers for an object is what its operation calls for, found after the
objects before it were answered. -/
theorem answers_proper :
    (∀ oid size (revisions : List Answer.Revision),
      (revisions.foldl Answer.revise (Answer.ofObject oid size)).IsProper oid size) ∧
    ∀ (basic : BasicTransfer σ) (now : Int) (authority : Authority)
      (organization repository : String) (request : Request) (state : σ) (response : Response),
      (carryOut (basic.transfer now) authority organization repository request state).1 =
        .ok response →
      response.objects.length = request.objects.length ∧
      ∀ (index : Nat) (object : Item) (entry : Answer),
        request.objects[index]? = some object → response.objects[index]? = some entry →
        entry.IsProper object.oid object.size ∧
        ∀ offers, entry.offers = some offers →
          basic.Offered (placeOf organization repository) object
            (answers (basic.transfer now) authority organization repository request.operation
              (request.objects.take index) state).2
            request.operation offers := by
  constructor
  · intro oid size revisions
    exact (Answer.isProper_ofObject oid size).revisions revisions
  · intro basic now authority organization repository request state response success
    have answered := carryOut_objects _ _ _ _ _ _ _ success
    refine ⟨length_of_answers request.objects state response.objects answered, ?_⟩
    intro index object entry asked told
    obtain ⟨said, same, given⟩ :=
      answers_at request.objects state response.objects answered index object asked
    cases told.symm.trans same
    have made := answer_made given
    exact ⟨made.isProper, fun offers offered => made.offers offered⟩

def namedTransfer : BasicTransfer MemoryObjects :=
  ⟨(MemoryStore.mk (some ExchangeSettings.localEndpoints)).store, .none,
    ExchangeSettings.localEndpoints, 900, 43200⟩

theorem answers_proper_download :
    ∃ response, (carryOut (namedTransfer.transfer 1700000000) (fun _ _ _ _ => true) "acme" "widgets"
        ⟨.download, none, none, [⟨"0a", 3, none⟩, ⟨"0b", 4, none⟩]⟩
        [(⟨"acme/widgets", "0a"⟩, [1, 2, 3])]).1 = .ok response ∧
      ∃ first second offers refusal, response.objects = [first, second] ∧
        first.IsProper "0a" 3 ∧ first.offers = some offers ∧
        namedTransfer.Offered "acme/widgets" ⟨"0a", 3, none⟩
          [(⟨"acme/widgets", "0a"⟩, [1, 2, 3])] .download offers ∧
        second.IsProper "0b" 4 ∧ second.refusal = some refusal ∧ refusal.code = 404 := by
  obtain ⟨-, batches⟩ := answers_proper (σ := MemoryObjects)
  obtain ⟨-, each⟩ := batches namedTransfer 1700000000 (fun _ _ _ _ => true) "acme" "widgets"
    ⟨.download, none, none, [⟨"0a", 3, none⟩, ⟨"0b", 4, none⟩]⟩
    [(⟨"acme/widgets", "0a"⟩, [1, 2, 3])] _ rfl
  obtain ⟨proper, offered⟩ := each 0 _ _ rfl rfl
  obtain ⟨refused, -⟩ := each 1 _ _ rfl rfl
  exact ⟨_, rfl, _, _, _, _, rfl, proper, rfl, offered _ rfl, refused, rfl, rfl⟩

end Batch
end ObjectTransfer
