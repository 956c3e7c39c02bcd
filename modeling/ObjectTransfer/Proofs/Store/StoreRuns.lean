import ObjectTransfer.Proofs.Control.Stepping
import ObjectTransfer.Proofs.Store.Addresses

/-!
# Runs of a store

A store answers calls about objects one after the other.  A call that gets an
object's content is replied to with what the content comes to when it is
collected, so that it does not show into which chunks it was divided.
-/

set_option autoImplicit false

namespace ObjectTransfer

inductive StoreTask where
  | holds
  | size
  | get
  | put (content : Content)
  | mimeType
  | verify (size : UInt64)
  | downloadAction (size lifetime : UInt64) (hints : Hints)

structure StoreCall where
  address : ObjectAddress
  task : StoreTask

inductive StoreReply where
  | holds (outcome : Except StoreFailure Bool)
  | size (outcome : Except StoreFailure Nat)
  | get (outcome : Except StoreFailure (Except StoreFailure Octets))
  | put (outcome : Except StoreFailure Unit)
  | mimeType (outcome : Except StoreFailure String)
  | verify (outcome : Except StoreFailure Bool)
  | downloadAction (outcome : Except StoreFailure (Option Action))

namespace Store

variable {σ : Type} (store : Store σ)

def serve (call : StoreCall) (state : σ) : StoreReply × σ :=
  let place := call.address.place
  let oid := call.address.oid
  match call.task with
  | .holds => (store.holds place oid state).map .holds id
  | .size => (store.size place oid state).map .size id
  | .get => (store.get place oid state).map (fun outcome => .get (outcome.map Content.joined)) id
  | .put content => (store.put place oid content state).map .put id
  | .mimeType => (store.mimeType place oid state).map .mimeType id
  | .verify size => (store.verify place oid size state).map .verify id
  | .downloadAction size lifetime hints =>
    (store.downloadAction place oid size lifetime hints state).map .downloadAction id

def run : List StoreCall → σ → List StoreReply × σ
  | [], state => ([], state)
  | call :: rest, state =>
    let (reply, between) := store.serve call state
    let (replies, after) := run rest between
    (reply :: replies, after)

theorem run_cons (call : StoreCall) (rest : List StoreCall) (state : σ) :
    store.run (call :: rest) state =
      ((store.serve call state).1 :: (store.run rest (store.serve call state).2).1,
        (store.run rest (store.serve call state).2).2) := rfl

theorem verify_apply (place oid : String) (size : UInt64) (state : σ) :
    store.verify place oid size state =
      ((match (store.size place oid state).1 with
        | .ok held => .ok (held == size.toNat)
        | .error .notFound => .ok false
        | .error other => .error other), (store.size place oid state).2) := by
  unfold Store.verify
  rw [Step.tryCatch_apply, Step.bind_apply]
  rcases store.size place oid state with ⟨outcome, after⟩
  cases outcome with
  | ok held => rfl
  | error error => cases error <;> rfl

/-- The reply to a call is given from where the calls before it have led. -/
theorem run_reply (calls : List StoreCall) (state : σ) (place : Nat) :
    (store.run calls state).1[place]? =
      calls[place]?.map fun call => (store.serve call (store.run (calls.take place) state).2).1 := by
  induction calls generalizing state place with
  | nil => rfl
  | cons call rest ih =>
    rw [run_cons]
    cases place with
    | zero => rfl
    | succ earlier =>
      rw [List.getElem?_cons_succ, List.getElem?_cons_succ, ih, List.take_succ_cons, run_cons]

end Store

end ObjectTransfer
