import ObjectTransfer.Link.Action
import ObjectTransfer.Store.Failure

/-!
# Answers about one object

An answer starts with the object's id and size. It may offer actions, and is then marked as
authenticated, or refuse; each of the two takes the place of the other.
-/

set_option autoImplicit false

namespace ObjectTransfer

/-- The actions that a client is offered for an object. -/
structure Offers where
  upload : Option Action
  verify : Option Action
  download : Option Action
  deriving DecidableEq

namespace Offers

def wire : Wire.Format Offers where
  shape := .record "Actions" <|
    .cons "upload" .omittable Action.wire.shape <|
    .cons "verify" .omittable Action.wire.shape <|
    .cons "download" .omittable Action.wire.shape .nil
  pack offers :=
    (offers.upload.map Action.wire.pack, offers.verify.map Action.wire.pack,
      offers.download.map Action.wire.pack, ())
  unpack := fun (upload, verify, download, _) =>
    ⟨upload.map Action.wire.unpack, verify.map Action.wire.unpack,
      download.map Action.wire.unpack⟩
  unpack_pack offers := by
    have back : ∀ action : Option Action,
        (action.map Action.wire.pack).map Action.wire.unpack = action := by
      intro action
      cases action with
      | none => rfl
      | some value => exact congrArg some (Action.wire.unpack_pack value)
    obtain ⟨upload, verify, download⟩ := offers
    simp only [back]

end Offers

structure Answer where
  oid : String
  size : UInt64
  authenticated : Option Bool
  offers : Option Offers
  refusal : Option Refusal
  deriving DecidableEq

namespace Answer

def ofObject (oid : String) (size : UInt64) : Answer := ⟨oid, size, none, none, none⟩

def offering (answer : Answer) (offers : Offers) : Answer :=
  { answer with authenticated := some true, offers := some offers, refusal := none }

def refusing (answer : Answer) (refusal : Refusal) : Answer :=
  { answer with authenticated := none, offers := none, refusal := some refusal }

def isRefusal (answer : Answer) : Bool := answer.refusal.isSome

def wire : Wire.Format Answer where
  shape := .record "TransferResponse" <|
    .cons "oid" .required (.text "a string") <|
    .cons "size" .required .word64 <|
    .cons "authenticated" .omittable .boolean <|
    .cons "actions" .omittable Offers.wire.shape <|
    .cons "error" .omittable Refusal.wire.shape .nil
  pack answer :=
    (answer.oid, answer.size, answer.authenticated, answer.offers.map Offers.wire.pack,
      answer.refusal.map Refusal.wire.pack, ())
  unpack := fun (oid, size, authenticated, offers, refusal, _) =>
    ⟨oid, size, authenticated, offers.map Offers.wire.unpack,
      refusal.map Refusal.wire.unpack⟩
  unpack_pack answer := by
    obtain ⟨oid, size, authenticated, offers, refusal⟩ := answer
    have first : (offers.map Offers.wire.pack).map Offers.wire.unpack = offers := by
      cases offers with
      | none => rfl
      | some value => exact congrArg some (Offers.wire.unpack_pack value)
    have second : (refusal.map Refusal.wire.pack).map Refusal.wire.unpack = refusal := by
      cases refusal <;> rfl
    simp only [first, second]

end Answer

end ObjectTransfer
