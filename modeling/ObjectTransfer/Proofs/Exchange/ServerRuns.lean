import ObjectTransfer.Exchange.Batch
import ObjectTransfer.Exchange.Objects

/-!
# Runs of a server

A server answers calls one after the other: batches through its transfer, and
uploads, downloads and verifications through the store of that transfer.  Each
call comes from somebody, who has their own authority, and is about one
repository.
-/

set_option autoImplicit false

namespace ObjectTransfer

inductive Task where
  | batch (now : Int) (request : Batch.Request)
  | put (oid : String) (content : Content)
  | fetch (oid : String) (hints : Hints)
  | verify (payload : Verification)

structure Call where
  authority : Authority
  organization : String
  repository : String
  task : Task

inductive Reply where
  | batch (outcome : Except ExchangeFailure Batch.Response)
  | put (outcome : Except ExchangeFailure Unit)
  | fetch (outcome : Except ExchangeFailure Download)
  | verify (outcome : Except ExchangeFailure Unit)

namespace BasicTransfer

variable {σ : Type} (basic : BasicTransfer σ)

def serve (call : Call) (state : σ) : Reply × σ :=
  match call.task with
  | .batch now request =>
    (Batch.carryOut (basic.transfer now) call.authority call.organization call.repository request
      state).map .batch id
  | .put oid content =>
    (Objects.put basic.store call.authority call.organization call.repository oid content
      state).map .put id
  | .fetch oid hints =>
    (Objects.fetch basic.store call.authority call.organization call.repository oid hints
      state).map .fetch id
  | .verify payload =>
    (Objects.verify basic.store call.authority call.organization call.repository payload
      state).map .verify id

/-- The replies to calls in their order, and the state after the last of them. -/
def run : List Call → σ → List Reply × σ
  | [], state => ([], state)
  | call :: rest, state =>
    let (reply, between) := basic.serve call state
    let (replies, after) := run rest between
    (reply :: replies, after)

theorem run_cons (call : Call) (rest : List Call) (state : σ) :
    basic.run (call :: rest) state =
      ((basic.serve call state).1 :: (basic.run rest (basic.serve call state).2).1,
        (basic.run rest (basic.serve call state).2).2) := rfl

theorem run_reply (calls : List Call) (state : σ) (place : Nat) :
    (basic.run calls state).1[place]? =
      calls[place]?.map fun call => (basic.serve call (basic.run (calls.take place) state).2).1 := by
  induction calls generalizing state place with
  | nil => rfl
  | cons call rest ih =>
    rw [run_cons]
    cases place with
    | zero => rfl
    | succ earlier =>
      rw [List.getElem?_cons_succ, List.getElem?_cons_succ, ih, List.take_succ_cons, run_cons]

end BasicTransfer

end ObjectTransfer
