import ObjectTransfer.Link.BucketLinks
import ObjectTransfer.Store.Basic
import ObjectTransfer.Store.Transport

/-!
# Objects in a bucket

The key of an object is its place and its id, below a folder if there is one. Every request goes to
a presigned URL, also the store's own; a client downloads from such a URL itself.

A status of 404 means that the object is not there, a good status is the answer, and any other
status, like a request that was not answered, is a fault of the backend.
-/

set_option autoImplicit false

namespace ObjectTransfer

structure BucketStore where
  links : BucketLinks
  folder : Option String
  deriving DecidableEq

namespace BucketStore

/-- How long the store's own requests are good for, in seconds. -/
def ownLifetime : UInt64 := 60

/-- A folder without slashes around it; nothing but slashes is none. -/
def folderOf (text : String) : Option String :=
  let name := Text.trimBy (· == '/') text.toList
  if name.isEmpty then none else some (String.ofList name)

def key (bucket : BucketStore) (place oid : String) : String :=
  match bucket.folder with
  | some folder => folder ++ "/" ++ place ++ "/" ++ oid
  | none => place ++ "/" ++ oid

variable {τ : Type}

def noResponse (url : Url) : StoreFailure := .backend (BucketRequest.fault url).message

def send (transport : Transport τ) (request : BucketRequest) :
    Step τ StoreFailure BucketResponse := do
  if BucketRequest.canSend request.url then
    match ← (transport request : StateM τ (Option BucketResponse)) with
    | some response => return response
    | none => throw (noResponse request.url)
  else throw (noResponse request.url)

def signed (bucket : BucketStore) (method place oid : String) (now : Int) :
    Step τ StoreFailure Url :=
  match bucket.links.signed method (bucket.key place oid) ownLifetime [] now with
  | .ok url => pure url
  | .error error => throw error

/-- The response, unless the object is not there. -/
def found? (doing place oid : String) (response : BucketResponse) :
    Step τ StoreFailure (Option BucketResponse) :=
  if response.status = 404 then pure none
  else if response.isGood then pure (some response)
  else
    throw (.backend
      ("Unexpected status " ++ response.statusText ++ " " ++ doing ++ " " ++ place ++ "/" ++ oid))

def head (bucket : BucketStore) (transport : Transport τ) (now : Int) (place oid : String) :
    Step τ StoreFailure (Option BucketResponse) := do
  let url ← bucket.signed "HEAD" place oid now
  found? "checking" place oid (← send transport ⟨"HEAD", url, none, []⟩)

def present (response : Option BucketResponse) : Step τ StoreFailure BucketResponse :=
  match response with
  | some response => pure response
  | none => throw .notFound

def size (bucket : BucketStore) (transport : Transport τ) (now : Int) (place oid : String) :
    Step τ StoreFailure Nat := do
  let response ← present (← bucket.head transport now place oid)
  match response.size? with
  | some size => return size
  | none => throw (.backend ("Missing content length for " ++ place ++ "/" ++ oid))

def get (bucket : BucketStore) (transport : Transport τ) (now : Int) (place oid : String) :
    Step τ StoreFailure Content := do
  let url ← bucket.signed "GET" place oid now
  let response ← send transport ⟨"GET", url, none, []⟩
  return (← present (← found? "fetching" place oid response)).body

/-- Sends content on. Content that fails breaks the request off. -/
def put (bucket : BucketStore) (transport : Transport τ) (now : Int) (place oid : String)
    (content : Content) : Step τ StoreFailure Unit := do
  let url ← bucket.signed "PUT" place oid now
  match content.joined with
  | .error _ => throw (noResponse url)
  | .ok body =>
    let response ← send transport ⟨"PUT", url, some octetStream, body⟩
    if ¬ response.isGood then
      throw (.backend
        ("Unexpected status " ++ response.statusText ++ " storing " ++ place ++ "/" ++ oid))

def mimeType (bucket : BucketStore) (transport : Transport τ) (now : Int) (place oid : String) :
    Step τ StoreFailure String := do
  let response ← present (← bucket.head transport now place oid)
  return (response.header? "content-type").getD octetStream

/-- Hands out a presigned URL that presents the download as the hints say. -/
def downloadAction (bucket : BucketStore) (now : Int) (place oid : String) (lifetime : UInt64)
    (hints : Hints) : Except StoreFailure (Option Action) := do
  let parameters := match hints.presentation with
    | some value => [("response-content-disposition", value)]
    | none => []
  let url ← bucket.links.signed "GET" (bucket.key place oid) lifetime parameters now
  return some ⟨url.text, Dictionary.empty, lifetime⟩

def store (bucket : BucketStore) (transport : Transport τ) (now : Int) : Store τ where
  holds place oid := do return (← bucket.head transport now place oid).isSome
  size := bucket.size transport now
  get := bucket.get transport now
  put := bucket.put transport now
  mimeType := bucket.mimeType transport now
  downloadAction place oid _ lifetime hints :=
    match bucket.downloadAction now place oid lifetime hints with
    | .ok action => pure action
    | .error error => throw error

end BucketStore

end ObjectTransfer
