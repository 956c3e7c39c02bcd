import ObjectTransfer.Link.Hints
import ObjectTransfer.Store.Failure

/-!
# Endpoints

An object lives at the base, then the segments of its repository's prefix, then two fixed segments,
then its id; the verification of a repository's objects lives there under a fixed name. Downloads
carry the hints in the query, as they were given.
-/

set_option autoImplicit false

namespace ObjectTransfer

/-- A base that can carry a path. -/
structure Endpoints where
  base : Url
  carriesPath : base.isOpaque = false
  deriving DecidableEq

namespace Endpoints

def ofBase (base : Url) : Except StoreFailure Endpoints :=
  if carriesPath : base.isOpaque = false then .ok ⟨base, carriesPath⟩
  else .error (.configuration ("Endpoint base URL cannot carry a path: " ++ base.text))

def below (endpoints : Endpoints) (place last : String) : Url :=
  endpoints.base.popIfEmpty.pushAll
    (Text.split '/' place.toList ++ ["objects".toList, "storage".toList, last.toList])

def object (endpoints : Endpoints) (place oid : String) : Url := endpoints.below place oid

def verify (endpoints : Endpoints) (place : String) : Url := endpoints.below place "verify"

def appendHint (name : String) (hint : Option String) (url : Url) : Url :=
  match hint with
  | some value => url.appendPair name value
  | none => url

def download (endpoints : Endpoints) (place oid : String) (hints : Hints) : Url :=
  appendHint "disposition" hints.disposition
    (appendHint "filename" hints.filename (endpoints.object place oid))

end Endpoints

end ObjectTransfer
