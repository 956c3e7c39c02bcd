import ObjectTransfer.Access.Identity
import ObjectTransfer.Collections.Headers
import ObjectTransfer.Digest.Hmac
import ObjectTransfer.Encoding.Base64Url
import ObjectTransfer.Text.Blank
import ObjectTransfer.Token.Claims
import ObjectTransfer.Token.Failure

/-!
# Signed tokens

A token is a payload and a signature with a dot between them, both in base64. The payload holds the
claims; the signature is the keyed digest of the payload as it is written, not of what it says.
Whoever knows the key can check a token, and nothing can revoke it before it expires.

Checking goes from the outside in: the dot, the signature's writing, the signature, the payload's
writing, the claims, and last the time.

`Signer.headers` hands out a token in a header, and `Signer.authenticate` turns such a header back
into an identity that holds just what the scope grants. An `Authorizer` is whatever does these two;
`Authorizer.signed` does them by tokens.
-/

set_option autoImplicit false

namespace ObjectTransfer

/-- The key that signs tokens, and the header that carries them. -/
structure Signer where
  secret : Octets
  headerName : String
  deriving DecidableEq, Repr

namespace Signer

def defaultHeader : String := "Authorization"

def holderName : String := "pre-authorized"

def bearer : List Char := "Bearer ".toList

def signature (signer : Signer) (payload : List Char) : Octets :=
  Hmac.tag signer.secret (Utf8.encodeChars payload)

def base64 (octets : Octets) : List Char :=
  (Base64Url.encode octets).map fun octet => Char.ofNat octet.toNat

def unbase64 (text : List Char) : Except TokenFailure Octets :=
  match Base64Url.decode (Utf8.encodeChars text) with
  | .ok octets => .ok octets
  | .error fault => .error (.invalid fault.message)

/-- The token for claims, whatever their expiry. -/
def sign (signer : Signer) (claims : Claims) : List Char :=
  let payload := base64 claims.toOctets
  payload ++ '.' :: base64 (signer.signature payload)

/-- A token for a scope from now on. A lifetime must be a number of seconds that a clock can count;
an expiry beyond the last such second is that second. -/
def issue (signer : Signer) (scope : Scope) (lifetime : UInt64) (now : Int) :
    Except TokenFailure (List Char) :=
  let seconds := Int.ofNat lifetime.toNat
  if largestTime < seconds then .error (.signing s!"Lifetime {lifetime}s is out of range")
  else .ok (signer.sign ⟨scope, min (now + seconds) largestTime⟩)

/-- The scope of a token that has not expired. -/
def verify (signer : Signer) (token : List Char) (now : Int) : Except TokenFailure Scope := do
  match Text.cut? '.' token with
  | none => throw (.invalid "Missing signature")
  | some (payload, tag) =>
    let given ← unbase64 tag
    if given ≠ signer.signature payload then throw (.invalid "Signature mismatch")
    let octets ← unbase64 payload
    match Claims.ofOctets octets with
    | .error stop => throw (.invalid (stop.message octets))
    | .ok claims => if claims.expiry ≤ now then throw .expired else return claims.scope

def headers (signer : Signer) (scope : Scope) (lifetime : UInt64) (now : Int) :
    Except TokenFailure Headers := do
  let token ← signer.issue scope lifetime now
  return Dictionary.empty.insert signer.headerName (String.ofList (bearer ++ token))

/-- What follows the mark of a token in a header. -/
def tokenIn? (value : String) : Option (List Char) :=
  if bearer.isPrefixOf value.toList then
    some (Text.trimBy Text.isBlank (value.toList.drop bearer.length))
  else none

/-- Somebody who holds what a scope grants, and nothing else. -/
def holder (scope : Scope) : Identity :=
  { Identity.anonymous with name := some holderName }.granted
    ⟨⟨some scope.organization, some scope.repository, scope.oid⟩, some scope.permissions⟩

/-- The identity behind the headers; nobody, where they carry no token at all. -/
def authenticate (signer : Signer) (headers : Headers) (now : Int) :
    Except TokenFailure (Option Identity) := do
  match (headers.find? signer.headerName).bind tokenIn? with
  | none => return none
  | some token => return some (holder (← signer.verify token now))

def describe (signer : Signer) : String :=
  "SignedTokenAuthorizer \x7b secret: \"[redacted]\", header_name: " ++
    Text.quoted signer.headerName ++ " \x7d"

end Signer

/-- How follow-up requests are authorized. -/
structure Authorizer where
  /-- The headers for a scope, good for a number of seconds from a time on. -/
  headers : Scope → UInt64 → Int → Except TokenFailure Headers
  /-- Who is behind the headers of a request at a time; nobody, where they authorize nothing. -/
  authenticate : Headers → Int → Except TokenFailure (Option Identity)
  describe : Option String

namespace Authorizer

/-- Authorizes nothing: whoever follows up needs credentials of their own. -/
def none : Authorizer where
  headers _ _ _ := .ok Dictionary.empty
  authenticate _ _ := .ok Option.none
  describe := Option.none

def signed (signer : Signer) : Authorizer where
  headers := signer.headers
  authenticate := signer.authenticate
  describe := some signer.describe

end Authorizer

end ObjectTransfer
