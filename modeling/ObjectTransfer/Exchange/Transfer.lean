import ObjectTransfer.Exchange.Failure
import ObjectTransfer.Exchange.Answer
import ObjectTransfer.Exchange.Settings
import ObjectTransfer.Store.Basic
import ObjectTransfer.Token.Authorizer

/-!
# Transfers

A transfer turns one object of a request into what the client should do with it. The basic transfer
sends uploads through the endpoints, each with headers that authorize just this upload and its
verification, and leaves downloads to the store.
-/

set_option autoImplicit false

namespace ObjectTransfer

structure Transfer (σ : Type) where
  name : String
  /-- Organization, repository, id, size and hints. -/
  upload : String → String → String → UInt64 → Hints → Step σ ExchangeFailure Answer
  download : String → String → String → UInt64 → Hints → Step σ ExchangeFailure Answer

def ofStore {σ α : Type} (step : Step σ StoreFailure α) : Step σ ExchangeFailure α :=
  fun state =>
    let (result, after) := step state
    (result.mapError .store, after)

def ofToken {σ α : Type} (result : Except TokenFailure α) : Step σ ExchangeFailure α :=
  match result with
  | .ok value => pure value
  | .error error => throw (.token error)

structure BasicTransfer (σ : Type) where
  store : Store σ
  authorizer : Authorizer
  endpoints : Endpoints
  transferLifetime : UInt64
  verificationLifetime : UInt64

namespace BasicTransfer
variable {σ : Type}

def name : String := "basic"

def ofSettings (store : Store σ) (authorizer : Authorizer) (settings : ExchangeSettings) :
    Except ExchangeFailure (BasicTransfer σ) :=
  match settings.endpoints with
  | .ok endpoints =>
    .ok ⟨store, authorizer, endpoints, settings.transferLifetime, settings.verificationLifetime⟩
  | .error error => .error (.store error)

def actionHeaders (basic : BasicTransfer σ) (now : Int) (organization repository oid : String)
    (action : TokenAction) (lifetime : UInt64) : Except TokenFailure Headers :=
  basic.authorizer.headers ⟨organization, repository, some oid, ActionSet.ofList [action]⟩
    lifetime now

/-- Whether the object is there already, with just this size. -/
def isStored (basic : BasicTransfer σ) (place oid : String) (size : UInt64) :
    Step σ StoreFailure Bool := do
  if ← basic.store.holds place oid then
    return (← basic.store.size place oid) == size.toNat
  else
    return false

def upload (basic : BasicTransfer σ) (now : Int) (organization repository oid : String)
    (size : UInt64) : Step σ ExchangeFailure Answer := do
  let answer := Answer.ofObject oid size
  let place := placeOf organization repository
  if ← ofStore (basic.isStored place oid size) then return answer
  let uploadHeaders ← ofToken
    (basic.actionHeaders now organization repository oid .write basic.transferLifetime)
  let verifyHeaders ← ofToken
    (basic.actionHeaders now organization repository oid .verify basic.verificationLifetime)
  return answer.offering
    { upload := some
        ⟨(basic.endpoints.object place oid).text, uploadHeaders, basic.transferLifetime⟩
      verify := some
        ⟨(basic.endpoints.verify place).text, verifyHeaders, basic.verificationLifetime⟩
      download := none }

def offer (basic : BasicTransfer σ) (place oid : String) (size : UInt64) (hints : Hints) :
    Step σ StoreFailure (Option Action) := do
  if (← basic.store.size place oid) ≠ size.toNat then
    throw (.invalidObject "Object size does not match")
  basic.store.downloadAction place oid size basic.transferLifetime hints

/-- An error of the store is a part of the answer. -/
def download (basic : BasicTransfer σ) (organization repository oid : String) (size : UInt64)
    (hints : Hints) : Step σ ExchangeFailure Answer := fun state =>
  let answer := Answer.ofObject oid size
  let (offered, after) := basic.offer (placeOf organization repository) oid size hints state
  (.ok (match offered with
    | .ok (some action) =>
      answer.offering { upload := none, verify := none, download := some action }
    | .ok none => answer
    | .error error => answer.refusing error.refusal), after)

def transfer (basic : BasicTransfer σ) (now : Int) : Transfer σ where
  name := name
  upload organization repository oid size _ := basic.upload now organization repository oid size
  download := basic.download

end BasicTransfer

end ObjectTransfer
