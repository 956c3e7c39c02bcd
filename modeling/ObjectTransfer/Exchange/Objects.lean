import ObjectTransfer.Access.Identity
import ObjectTransfer.Exchange.Transfer

/-!
# Content, up and down, and its verification

Each request needs one permission on the object, and without it the store is not asked. A
verification confirms that an object is there with just the given size.
-/

set_option autoImplicit false

namespace ObjectTransfer

/-- Content on its way down, with the headers that present it. -/
structure Download where
  headers : Headers
  content : Content

namespace Download

def typeHeader : String := "Content-Type"

def presentationHeader : String := "Content-Disposition"

def quotedEntry (entry : String × String) : String :=
  Text.quoted entry.1 ++ ": " ++ Text.quoted entry.2

def describe (download : Download) : String :=
  "ObjectDownload \x7b headers: \x7b" ++
    String.intercalate ", " (download.headers.toList.map quotedEntry) ++ "\x7d, .. \x7d"

end Download

structure Verification where
  oid : String
  size : UInt64
  deriving DecidableEq, Repr

def Verification.wire : Wire.Format Verification where
  shape := .record "VerifyPayload" <|
    .cons "oid" .required (.text "a string") <|
    .cons "size" .required .word64 .nil
  pack payload := (payload.oid, payload.size, ())
  unpack := fun (oid, size, _) => ⟨oid, size⟩
  unpack_pack _ := rfl

namespace Objects
variable {σ : Type}

/-- Goes on only with a permission. -/
def allowed {α : Type} (authority : Authority) (organization repository : String)
    (permission : Permission) (oid : String) (step : Step σ ExchangeFailure α) :
    Step σ ExchangeFailure α :=
  if authority organization repository permission (some oid) then step
  else throw ExchangeFailure.denied

def put (store : Store σ) (authority : Authority) (organization repository oid : String)
    (content : Content) : Step σ ExchangeFailure Unit :=
  allowed authority organization repository .write oid <|
    ofStore (store.put (placeOf organization repository) oid content)

/-- The headers of a download: how it is presented, if the hints say so, and its type. -/
def downloadHeaders (hints : Hints) (mimeType : String) : Headers :=
  let presented := match hints.presentation with
    | some value => Dictionary.empty.insert Download.presentationHeader value
    | none => Dictionary.empty
  presented.insert Download.typeHeader mimeType

def fetch (store : Store σ) (authority : Authority) (organization repository oid : String)
    (hints : Hints) : Step σ ExchangeFailure Download :=
  allowed authority organization repository .read oid do
    let place := placeOf organization repository
    if ← ofStore (store.holds place oid) then
      let mimeType ← ofStore (store.mimeType place oid)
      let content ← ofStore (store.get place oid)
      return ⟨downloadHeaders hints mimeType, content⟩
    else
      throw (.notFound "The object was not found")

def verify (store : Store σ) (authority : Authority) (organization repository : String)
    (payload : Verification) : Step σ ExchangeFailure Unit :=
  allowed authority organization repository .readMeta payload.oid do
    if ← ofStore (store.verify (placeOf organization repository) payload.oid payload.size) then
      return ()
    else
      throw (.invalidPayload "Object does not exist or size does not match")

end Objects

end ObjectTransfer
