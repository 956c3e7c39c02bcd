import ObjectTransfer.Wire.Shape

/-!
# What can go wrong in a store

Each error has a code for the client; only a missing object and a bad one are the client's own
affair.
-/

set_option autoImplicit false

namespace ObjectTransfer

inductive StoreFailure where
  | notFound
  | invalidObject (reason : String)
  | backend (reason : String)
  | configuration (reason : String)
  | io (reason : String)
  deriving DecidableEq, Repr

namespace StoreFailure

def message : StoreFailure → String
  | .notFound => "Object was not found"
  | .invalidObject reason => reason
  | .backend reason => "Storage backend error: " ++ reason
  | .configuration reason => "Storage configuration error: " ++ reason
  | .io reason => "Storage I/O error: " ++ reason

def code : StoreFailure → UInt16
  | .notFound => 404
  | .invalidObject _ => 422
  | .backend _ => 500
  | .configuration _ => 500
  | .io _ => 500

end StoreFailure

/-- An error as a client sees it, beside the object that it is about. -/
structure Refusal where
  code : UInt16
  message : String
  deriving DecidableEq, Repr

namespace Refusal

def wire : Wire.Format Refusal where
  shape := .record "ErrorObject" <|
    .cons "code" .required .word16 <|
    .cons "message" .required (.text "a string") .nil
  pack error := (error.code, error.message, ())
  unpack := fun (code, message, _) => ⟨code, message⟩
  unpack_pack _ := rfl

end Refusal

def StoreFailure.refusal (error : StoreFailure) : Refusal := ⟨error.code, error.message⟩

end ObjectTransfer
