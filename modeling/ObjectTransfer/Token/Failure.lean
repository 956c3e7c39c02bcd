/-!
# What can go wrong with tokens
-/

set_option autoImplicit false

namespace ObjectTransfer

inductive TokenFailure where
  | signing (reason : String)
  | encoding (reason : String)
  | invalid (reason : String)
  | expired
  deriving DecidableEq, Repr

def TokenFailure.message : TokenFailure → String
  | .signing reason => "Failed to sign pre-authorization: " ++ reason
  | .encoding reason => "Failed to encode pre-authorization: " ++ reason
  | .invalid reason => "Invalid pre-authorization token: " ++ reason
  | .expired => "Pre-authorization token expired"

end ObjectTransfer
