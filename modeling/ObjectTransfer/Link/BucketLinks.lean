import ObjectTransfer.Digest.Hmac
import ObjectTransfer.Encoding.Hex
import ObjectTransfer.Store.Failure
import ObjectTransfer.Text.Quoted
import ObjectTransfer.Time.Calendar

/-!
# Presigned bucket URLs

Objects in a bucket have URLs. The bucket is the first path segment, or else the first label of the
host. With an access key a URL can carry a signature over its method, path, query and host, which
holds for a given time; without one it is left as it is.

The query has one canonical text: the pairs in the order of their names and values, everything but
unreserved characters escaped. That text is what is signed and what the URL carries.
-/

set_option autoImplicit false

namespace ObjectTransfer

/-- Where a bucket is; the endpoint always has a host. -/
structure BucketAddress where
  endpoint : Url
  host : List Char
  region : String
  bucket : String
  hosted : endpoint.hostText? = some host
  deriving DecidableEq

namespace BucketAddress

def ofText (endpoint region bucket : String) : Except StoreFailure BucketAddress :=
  match Url.parse endpoint with
  | .error fault => .error (.configuration ("Invalid S3 endpoint: " ++ fault.message))
  | .ok url =>
    match hosted : url.hostText? with
    | none => .error (.configuration ("S3 endpoint has no host: " ++ url.text))
    | some host => .ok ⟨url, host, region, bucket, hosted⟩

/-- Numeric hosts and the local host have no names below them for buckets. -/
def prefersPath (address : BucketAddress) : Bool :=
  match address.endpoint.host? with
  | some (.domain name) => name == "localhost".toList
  | some (.ipv4 _) => true
  | some (.ipv6 _) => true
  | none => false

end BucketAddress

structure AccessKey where
  id : String
  secret : String
  deriving DecidableEq, Repr

def AccessKey.describe (key : AccessKey) : String :=
  "AccessKey \x7b id: " ++ Text.quoted key.id ++ ", .. \x7d"

structure BucketLinks where
  address : BucketAddress
  accessKey : Option AccessKey
  pathStyle : Bool
  deriving DecidableEq

namespace BucketLinks

def ofAddress (address : BucketAddress) (accessKey : Option AccessKey) : BucketLinks :=
  ⟨address, accessKey, address.prefersPath⟩

def escape (text : List Char) : List Char := Percent.encode Percent.isUnreserved text

/-- A path with everything between its slashes escaped. -/
def escapePath (path : List Char) : List Char :=
  Text.join '/' ((Text.split '/' path).map escape)

/-- The URL of a key, without a query of its own. -/
def plain (links : BucketLinks) (key : String) : Except StoreFailure Url :=
  let address := links.address
  if links.pathStyle then
    .ok (address.endpoint.withPath
      (escapePath ('/' :: address.bucket.toList ++ '/' :: key.toList)))
  else
    match address.endpoint.withHost (address.bucket.toList ++ '.' :: address.host) with
    | .error fault => .error (.configuration ("Invalid S3 host: " ++ fault.message))
    | .ok url => .ok (url.withPath (escapePath ('/' :: key.toList)))

abbrev Parameter := String × String

def precedes (left right : Parameter) : Bool :=
  decide (left.1 < right.1) || (left.1 == right.1 && !decide (right.2 < left.2))

/-- In the order of names and then values. -/
def sorted (parameters : List Parameter) : List Parameter := parameters.mergeSort precedes

def escapePair (parameter : Parameter) : List Char :=
  escape parameter.1.toList ++ '=' :: escape parameter.2.toList

def canonicalQuery (parameters : List Parameter) : List Char :=
  Text.join '&' (parameters.map escapePair)

/-- The day, the region and the service that a signature is for. -/
def credentialScope (date : List Char) (region : String) : List Char :=
  date ++ '/' :: region.toList ++ "/s3/aws4_request".toList

def algorithm : String := "AWS4-HMAC-SHA256"

/-- What the signature adds to the query before it is signed. -/
def signingParameters (key : AccessKey) (scope stamp : List Char) (expires : UInt64) :
    List Parameter :=
  [("X-Amz-Algorithm", algorithm),
   ("X-Amz-Credential", key.id ++ "/" ++ String.ofList scope),
   ("X-Amz-Date", String.ofList stamp),
   ("X-Amz-Expires", toString expires.toNat),
   ("X-Amz-SignedHeaders", "host")]

def lines (texts : List (List Char)) : List Char := Text.join '\n' texts

def canonicalRequest (method : String) (path query host : List Char) : List Char :=
  lines [method.toList, path, query, "host:".toList ++ host, [], "host".toList,
    "UNSIGNED-PAYLOAD".toList]

def textToSign (stamp scope request : List Char) : List Char :=
  lines [algorithm.toList, stamp, scope,
    Hex.encode (Sha256.digest (Utf8.encodeChars request))]

/-- The key for one day, region and service, derived from the secret step by step. -/
def signingKey (secret : String) (date : List Char) (region : String) : Octets :=
  ["s3".toList, "aws4_request".toList].foldl (fun key step => Hmac.tag key (Utf8.encodeChars step))
    (Hmac.tag (Hmac.tag (Utf8.encode ("AWS4" ++ secret)) (Utf8.encodeChars date))
      (Utf8.encode region))

/-- The host of a URL with its port, if that is not the default. -/
def hostAndPort (url : Url) : List Char :=
  url.hostText?.getD [] ++
    (match url.port? with
      | some port => ':' :: Nat.toDigits 10 port
      | none => [])

def signed (links : BucketLinks) (method key : String) (expires : UInt64)
    (parameters : List Parameter) (now : Int) : Except StoreFailure Url := do
  let url ← links.plain key
  match links.accessKey with
  | none =>
    let query := canonicalQuery (sorted parameters)
    return url.withQuery (if query.isEmpty then none else some query)
  | some accessKey =>
    let stamp := Calendar.stamp now
    let date := stamp.take 8
    let region := links.address.region
    let scope := credentialScope date region
    let query := canonicalQuery
      (sorted (parameters ++ signingParameters accessKey scope stamp expires))
    let request := canonicalRequest method url.pathText query (hostAndPort url)
    let signature :=
      Hmac.tag (signingKey accessKey.secret date region)
        (Utf8.encodeChars (textToSign stamp scope request))
    return url.withQuery (some (query ++ "&X-Amz-Signature=".toList ++ Hex.encode signature))

end BucketLinks

end ObjectTransfer
