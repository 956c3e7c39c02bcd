import ObjectTransfer.Collections.Table
import ObjectTransfer.Link.Endpoints
import ObjectTransfer.Store.Basic

/-!
# Objects in memory

The objects are a table under place and id. Content is collected before it is stored, so a failed
upload leaves everything as it was.
-/

set_option autoImplicit false

namespace ObjectTransfer

structure ObjectName where
  place : String
  oid : String
  deriving DecidableEq, Repr

abbrev MemoryObjects := Table ObjectName Octets

/-- A store in memory, which offers downloads if it knows the endpoints for them. -/
structure MemoryStore where
  endpoints : Option Endpoints
  deriving DecidableEq

namespace MemoryStore

def lookup (place oid : String) : Step MemoryObjects StoreFailure Octets := do
  match (← get).get? ⟨place, oid⟩ with
  | some content => return content
  | none => throw .notFound

def insert (place oid : String) (content : Octets) : Step MemoryObjects StoreFailure Unit :=
  modify fun objects => objects.put ⟨place, oid⟩ content

def put (place oid : String) (content : Content) : Step MemoryObjects StoreFailure Unit := do
  match content.joined with
  | .ok octets => insert place oid octets
  | .error error => throw error

def downloadFrom (endpoints : Option Endpoints) (place oid : String) (lifetime : UInt64)
    (hints : Hints) : Option Action :=
  endpoints.map fun endpoints =>
    ⟨(endpoints.download place oid hints).text, Dictionary.empty, lifetime⟩

def store (memory : MemoryStore) : Store MemoryObjects where
  holds place oid := do return ((← get).get? ⟨place, oid⟩).isSome
  size place oid := do return (← lookup place oid).length
  get place oid := do return Content.ofOctets (← lookup place oid)
  put := put
  mimeType _ _ := return octetStream
  downloadAction place oid _ lifetime hints :=
    return downloadFrom memory.endpoints place oid lifetime hints

end MemoryStore

end ObjectTransfer
