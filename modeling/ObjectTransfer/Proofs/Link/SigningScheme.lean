import ObjectTransfer.Proofs.Link.QueryOrder
import ObjectTransfer.Proofs.Url.Ports

/-!
# How a server checks a signed URL

A server that checks a signature has nothing but the request.  It reads the
pairs of the query, takes the signature out, and puts the rest into canonical
form once more: escaped first and then sorted, as the signing scheme prescribes.
With the method, the path, the host and the stamp it comes to a text of its own,
and signs it with the key to compare the signatures.

The texts and the keys of the scheme are those that URLs are signed with.
-/

set_option autoImplicit false

namespace ObjectTransfer

/-- The host as the header of a request names it: with the port, unless the scheme implies it. -/
def Url.hostHeader (url : Url) : List Char :=
  url.hostText?.getD [] ++
    match url.port? with
    | some port =>
      if Url.defaultPort? url.scheme = some port then [] else ':' :: Nat.toDigits 10 port
    | none => []

open BucketLinks (Parameter algorithm prescribedQuery readQuery?)

/-! ## The signing scheme -/

namespace SigningScheme

def request (method : String) (path query host : List Char) : List Char :=
  method.toList ++ '\n' :: path ++ '\n' :: query ++ "\nhost:".toList ++ host ++
    "\n\nhost\nUNSIGNED-PAYLOAD".toList

def scope (date : List Char) (region : String) : List Char :=
  date ++ '/' :: region.toList ++ "/s3/aws4_request".toList

def text (stamp scope request : List Char) : List Char :=
  "AWS4-HMAC-SHA256\n".toList ++ stamp ++ '\n' :: scope ++
    '\n' :: Hex.encode (Sha256.digest (Utf8.encodeChars request))

def key (secret : String) (date : List Char) (region : String) : Octets :=
  Hmac.tag
    (Hmac.tag
      (Hmac.tag (Hmac.tag (Utf8.encode ("AWS4" ++ secret)) (Utf8.encodeChars date))
        (Utf8.encode region))
      (Utf8.encode "s3"))
    (Utf8.encode "aws4_request")

def signature (secret : String) (date : List Char) (region : String) (text : List Char) :
    List Char :=
  Hex.encode (Hmac.tag (key secret date region) (Utf8.encodeChars text))

end SigningScheme

/-! ## Reading a request -/

/-- What the query of a signed request says, and the pairs that it was signed with. -/
structure SignedQuery where
  stamp : String
  credential : String
  signature : String
  pairs : List Parameter

namespace SignedQuery

def only? (name : String) (pairs : List Parameter) : Option String :=
  match pairs.filter fun pair => pair.1 == name with
  | [pair] => some pair.2
  | _ => none

def read? (query : List Char) : Option SignedQuery := do
  let all ← readQuery? query
  if only? "X-Amz-Algorithm" all = some "AWS4-HMAC-SHA256" ∧
      only? "X-Amz-SignedHeaders" all = some "host" then
    return ⟨← only? "X-Amz-Date" all, ← only? "X-Amz-Credential" all,
      ← only? "X-Amz-Signature" all, all.filter fun pair => pair.1 != "X-Amz-Signature"⟩
  else none

def date (signed : SignedQuery) : List Char := signed.stamp.toList.take 8

/-- The canonical request that a server rebuilds. -/
def request (signed : SignedQuery) (method : String) (url : Url) : List Char :=
  SigningScheme.request method url.pathText (prescribedQuery signed.pairs) url.hostHeader

def text (signed : SignedQuery) (region method : String) (url : Url) : List Char :=
  SigningScheme.text signed.stamp.toList (SigningScheme.scope signed.date region)
    (signed.request method url)

end SignedQuery

def Url.signedQuery? (url : Url) : Option SignedQuery := url.query.bind SignedQuery.read?

/-- Whether a server of a region takes a request that is signed with a key. -/
def AccessKey.Accepts (key : AccessKey) (region method : String) (url : Url) : Prop :=
  ∃ signed, url.signedQuery? = some signed ∧
    signed.credential = key.id ++ "/" ++ String.ofList (SigningScheme.scope signed.date region) ∧
    signed.signature.toList =
      SigningScheme.signature key.secret signed.date region (signed.text region method url)

namespace BucketLinks

/-! ## The same scheme -/

theorem canonicalRequest_eq (method : String) (path query host : List Char) :
    canonicalRequest method path query host = SigningScheme.request method path query host := by
  simp [canonicalRequest, lines, Text.join, SigningScheme.request]

theorem textToSign_eq (stamp scope request : List Char) :
    textToSign stamp scope request = SigningScheme.text stamp scope request := by
  unfold textToSign SigningScheme.text
  generalize Hex.encode (Sha256.digest (Utf8.encodeChars request)) = digest
  simp [lines, Text.join, algorithm]

theorem signingKey_eq (secret : String) (date : List Char) (region : String) :
    signingKey secret date region = SigningScheme.key secret date region := by
  unfold signingKey SigningScheme.key Utf8.encode
  rw [List.foldl_cons, List.foldl_cons, List.foldl_nil]

theorem request_inj (method : String) (path query other host : List Char) :
    SigningScheme.request method path query host = SigningScheme.request method path other host ↔
      query = other := by
  simp [SigningScheme.request]

theorem hostAndPort_eq (url : Url) (own : url.HasOwnPort) : hostAndPort url = url.hostHeader := by
  unfold hostAndPort Url.hostHeader
  cases there : url.port? with
  | none => rfl
  | some port => simp only [if_neg (own port there)]

end BucketLinks

end ObjectTransfer
