import ObjectTransfer.Exchange.Batch
import ObjectTransfer.Exchange.Objects
import ObjectTransfer.Proofs.Wire.TextualRoundTrip

/-!
# No message is lost on its way

Every message of an exchange, and the scope of a token, is read back from its
text as it was.  So two messages have the same text only if they are the same;
what is absent is never mistaken for what is there but empty.
-/

set_option autoImplicit false

namespace ObjectTransfer

/-- Texts of messages stand for one message each.  Nothing and an empty list of transfers, hints
that are absent and hints of which none is given, actions that are absent and actions of which none
is offered, an answer without a mark and one that is marked as not authenticated, and no object and
the object with the empty id are different in the text as well. -/
theorem messages_read_back :
    (∀ request : Batch.Request,
      Batch.Request.wire.ofText (Batch.Request.wire.toText request) = .ok request) ∧
    (∀ response : Batch.Response,
      Batch.Response.wire.ofText (Batch.Response.wire.toText response) = .ok response) ∧
    (∀ answer : Answer, Answer.wire.ofText (Answer.wire.toText answer) = .ok answer) ∧
    (∀ offers : Offers, Offers.wire.ofText (Offers.wire.toText offers) = .ok offers) ∧
    (∀ action : Action, Action.wire.ofText (Action.wire.toText action) = .ok action) ∧
    (∀ refusal : Refusal, Refusal.wire.ofText (Refusal.wire.toText refusal) = .ok refusal) ∧
    (∀ payload : Verification,
      Verification.wire.ofText (Verification.wire.toText payload) = .ok payload) ∧
    (∀ scope : Scope, Scope.wire.ofText (Scope.wire.toText scope) = .ok scope) ∧
    (∀ request : Batch.Request,
      Batch.Request.wire.toText { request with transfers := none } ≠
        Batch.Request.wire.toText { request with transfers := some [] }) ∧
    (∀ object : Batch.Item,
      Batch.Item.wire.toText { object with hints := none } ≠
        Batch.Item.wire.toText { object with hints := some Hints.empty }) ∧
    (∀ answer : Answer,
      Answer.wire.toText { answer with offers := none } ≠
        Answer.wire.toText { answer with offers := some ⟨none, none, none⟩ }) ∧
    (∀ answer : Answer,
      Answer.wire.toText { answer with authenticated := none } ≠
        Answer.wire.toText { answer with authenticated := some false }) ∧
    (∀ scope : Scope,
      Scope.wire.toText { scope with oid := none } ≠
        Scope.wire.toText { scope with oid := some "" }) := by
  refine ⟨?_, ?_, ?_, ?_, ?_, ?_, ?_, ?_, ?_, ?_, ?_, ?_, ?_⟩
  · exact Batch.Request.wire.ofText_toText (by decide) (by decide)
  · exact Batch.Response.wire.ofText_toText (by decide) (by decide)
  · exact Answer.wire.ofText_toText (by decide) (by decide)
  · exact Offers.wire.ofText_toText (by decide) (by decide)
  · exact Action.wire.ofText_toText (by decide) (by decide)
  · exact Refusal.wire.ofText_toText (by decide) (by decide)
  · exact Verification.wire.ofText_toText (by decide) (by decide)
  · exact Scope.wire.ofText_toText (by decide) (by decide)
  · exact fun request => Batch.Request.wire.toText_ne (by decide) (by decide) (by simp)
  · exact fun object => Batch.Item.wire.toText_ne (by decide) (by decide) (by simp)
  · exact fun answer => Answer.wire.toText_ne (by decide) (by decide) (by simp)
  · exact fun answer => Answer.wire.toText_ne (by decide) (by decide) (by simp)
  · exact fun scope => Scope.wire.toText_ne (by decide) (by decide) (by simp)

end ObjectTransfer
