import ObjectTransfer.Store.Failure
import ObjectTransfer.Token.Failure

/-!
# What can go wrong in an exchange

Each error has a status for the client. Errors of the store and of tokens keep their own texts.
-/

set_option autoImplicit false

namespace ObjectTransfer

inductive ExchangeFailure where
  | notFound (reason : String)
  | invalidPayload (reason : String)
  | forbidden (reason : String)
  | unauthorized (reason : String)
  | store (error : StoreFailure)
  | token (error : TokenFailure)
  deriving DecidableEq, Repr

namespace ExchangeFailure

def message : ExchangeFailure → String
  | .notFound reason => reason
  | .invalidPayload reason => reason
  | .forbidden reason => reason
  | .unauthorized reason => reason
  | .store error => error.message
  | .token error => error.message

def tokenStatus : TokenFailure → UInt16
  | .invalid _ => 401
  | .expired => 401
  | .signing _ => 500
  | .encoding _ => 500

def status : ExchangeFailure → UInt16
  | .notFound _ => 404
  | .invalidPayload _ => 422
  | .forbidden _ => 403
  | .unauthorized _ => 401
  | .store error => error.code
  | .token error => tokenStatus error

def denied : ExchangeFailure := .forbidden "Forbidden"

end ExchangeFailure

end ObjectTransfer
