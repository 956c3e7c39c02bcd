import ObjectTransfer.Encoding.Form
import ObjectTransfer.Url.Host
import ObjectTransfer.Url.Path
import ObjectTransfer.Url.Scheme

/-!
# URLs

A URL is kept in its parts, each already escaped, and `Url.text` puts them together. Its path is a
list of segments, except where the scheme is followed by neither slash nor authority: such a URL
has an opaque path and cannot carry segments.

A path that was read with an empty first segment and without an authority has a dot segment before
it, or its two slashes would read as the start of an authority. The dot segment stays when the path
changes.
-/

set_option autoImplicit false

namespace ObjectTransfer

namespace Url

structure Authority where
  username : List Char
  password : Option (List Char)
  host : Option Host
  port : Option Nat
  deriving DecidableEq, Repr

inductive PathKind where
  | segments (path : List Segment)
  | opaquePath (text : List Char)
  deriving DecidableEq, Repr

end Url

structure Url where
  scheme : String
  authority : Option Url.Authority
  /-- Whether a dot segment, which is not part of the path, stands before it. -/
  dotted : Bool
  path : Url.PathKind
  query : Option (List Char)
  fragment : Option (List Char)
  deriving DecidableEq, Repr

namespace Url

def isPlainInQuery (special : Bool) (octet : UInt8) : Bool :=
  33 ≤ octet && octet < 127 &&
    !(octet == 34 || octet == 35 || octet == 60 || octet == 62 || (special && octet == 39))

def isPlainInFragment (octet : UInt8) : Bool :=
  33 ≤ octet && octet < 127 && !(octet == 34 || octet == 60 || octet == 62 || octet == 96)

def isPlainInUserInfo (octet : UInt8) : Bool :=
  isPlainInPath octet &&
    !(octet == 47 || octet == 58 || octet == 59 || octet == 61 || octet == 64 || octet == 91 ||
      octet == 92 || octet == 93 || octet == 94 || octet == 124)

def Authority.text (authority : Authority) : List Char :=
  let password := match authority.password with
    | some password => ':' :: password
    | none => []
  let credentials := authority.username ++ password
  (if credentials.isEmpty then [] else credentials ++ ['@']) ++
    (match authority.host with
      | some host => host.text
      | none => []) ++
    (match authority.port with
      | some port => ':' :: Nat.toDigits 10 port
      | none => [])

/-- The path as it stands in the URL, without a dot segment before it. -/
def pathText (url : Url) : List Char :=
  match url.path with
  | .segments path => Path.text path
  | .opaquePath text => text

def chars (url : Url) : List Char :=
  url.scheme.toList ++ ':' ::
    ((match url.authority with
      | some authority => '/' :: '/' :: authority.text
      | none => []) ++
      (if url.dotted then ['/', '.'] else []) ++ url.pathText ++
      (match url.query with
      | some query => '?' :: query
      | none => []) ++
      (match url.fragment with
      | some fragment => '#' :: fragment
      | none => []))

def text (url : Url) : String := String.ofList url.chars

def isOpaque (url : Url) : Bool :=
  match url.path with
  | .segments _ => false
  | .opaquePath _ => true

def special (url : Url) : Bool := isSpecial url.scheme

def file (url : Url) : Bool := isFile url.scheme

def host? (url : Url) : Option Host := url.authority.bind Authority.host

def hostText? (url : Url) : Option (List Char) := url.host?.map Host.text

def port? (url : Url) : Option Nat := url.authority.bind Authority.port

/-! ## Changes -/

/-- Changes the list of segments; an opaque path stays as it is. -/
def mapSegments (url : Url) (change : List Segment → List Segment) : Url :=
  match url.path with
  | .segments path => { url with path := .segments (change path) }
  | .opaquePath _ => url

def popIfEmpty (url : Url) : Url := url.mapSegments Path.popIfEmpty

def pushAll (url : Url) (segments : List (List Char)) : Url :=
  url.mapSegments fun path => Path.pushAll url.special url.file path segments

def withPath (url : Url) (text : List Char) : Url :=
  { url with path := .segments (Path.read url.special url.file (text.drop 1)) }

/-- Replaces the query by a text that is escaped first; nothing removes the query. -/
def withQuery (url : Url) (query : Option (List Char)) : Url :=
  { url with query := query.map fun text => Percent.encode (isPlainInQuery url.special) text }

/-- Adds a name and a value to the query, which is there afterwards even if it was not before. -/
def appendPair (url : Url) (name value : String) : Url :=
  { url with query := some (Form.appendPair (url.query.getD []) name value) }

/-- Replaces the host of a URL that has one. A port after the host is dropped, not set. -/
def withHost (url : Url) (host : List Char) : Except Fault Url := do
  let name := host.takeWhile (· ≠ ':')
  let cut := ¬ (host.head? = some '[' ∧ host.getLast? = some ']') ∧ name.length < host.length
  if host.isEmpty ∧ url.special ∧ ¬ url.file then throw .emptyHost
  if cut ∧ name.isEmpty then throw .domainCharacter
  let wanted := if cut then name else host
  let found ← if url.special then readHost wanted else readOpaqueHost wanted
  match url.authority with
  | some authority => return { url with authority := some { authority with host := some found } }
  | none => return { url with authority := some ⟨[], none, some found, none⟩ }

def isReadable (escaped : List Char) : Bool :=
  (Utf8.decode? (Percent.decode (Utf8.encodeChars escaped))).isSome

/-- Whether somebody can log in with an authority: its name can be read, and so can its password if
the name is empty. -/
def Authority.hasLogin (authority : Authority) : Bool :=
  isReadable authority.username &&
    (!authority.username.isEmpty || authority.password.any isReadable)

def withoutLogin (url : Url) : Url :=
  { url with
    authority := url.authority.map fun authority =>
      if authority.hasLogin then { authority with username := [], password := none }
      else authority }

end Url

end ObjectTransfer
