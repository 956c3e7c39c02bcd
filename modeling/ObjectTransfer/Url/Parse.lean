import ObjectTransfer.Text.Blank
import ObjectTransfer.Url.Basic

/-!
# Reading URLs

Spaces and controls around the text and tabs and line breaks anywhere in it are dropped, those in
the path of a file only when it is divided into segments. Then the scheme decides: a special scheme
has an authority, however many slashes follow; a file has a host only after two slashes; any other
scheme has an authority after two slashes, segments after one and an opaque path after none.
-/

set_option autoImplicit false

namespace ObjectTransfer.Url

def isAroundText (c : Char) : Bool := c.toNat ≤ 32

def isSlash (special : Bool) (c : Char) : Bool := c == '/' || (special && c == '\\')

def endsAuthority (special : Bool) (c : Char) : Bool := isSlash special c || c == '?' || c == '#'

def endsPath (c : Char) : Bool := c == '?' || c == '#'

structure Credentials where
  username : List Char
  password : Option (List Char)

def credentials (text : List Char) : Credentials :=
  match Text.cut? ':' text with
  | none => ⟨Percent.encode isPlainInUserInfo text, none⟩
  | some (name, password) =>
    ⟨Percent.encode isPlainInUserInfo name,
      if password.isEmpty then none else some (Percent.encode isPlainInUserInfo password)⟩

def cutCredentials? (authority : List Char) : Option (List Char × List Char) :=
  (Text.cut? '@' authority.reverse).map fun (after, before) => (before.reverse, after.reverse)

/-- The host at the front of an authority: up to the first colon outside brackets. -/
def hostLength : Bool → List Char → Nat
  | _, [] => 0
  | inside, c :: rest =>
    if c = ':' ∧ inside = false then 0
    else if c = '[' then hostLength true rest + 1
    else if c = ']' then hostLength false rest + 1
    else hostLength inside rest + 1

/-- The port after the colon. A backslash ends it under every scheme. -/
def readPort (scheme : String) (text : List Char) : Except Fault (Option Nat × List Char) :=
  let digits := text.takeWhile Char.isDigit
  let rest := text.drop digits.length
  let value := digits.foldl (fun sum c => sum * 10 + (c.toNat - 48)) 0
  if 65535 < value then .error .port
  else
    match rest with
    | [] => .ok (if digits.isEmpty ∨ defaultPort? scheme = some value then none else some value, [])
    | c :: _ =>
      if c = '/' ∨ c = '\\' ∨ c = '?' ∨ c = '#' then
        .ok (if digits.isEmpty ∨ defaultPort? scheme = some value then none else some value, rest)
      else .error .port

def readAuthority (scheme : String) (text : List Char) : Except Fault (Authority × List Char) := do
  let special := isSpecial scheme
  let whole := text.takeWhile fun c => !endsAuthority special c
  let tail := text.drop whole.length
  let (user, hostAndPort) := match cutCredentials? whole with
    | some (before, after) => (some before, after)
    | none => (none, whole)
  if user = some [] ∧ hostAndPort.isEmpty ∧ ¬ tail.isEmpty then throw .emptyHost
  let login := credentials (user.getD [])
  let hasLogin := !login.username.isEmpty || login.password.isSome
  let hostText := hostAndPort.take (hostLength false hostAndPort)
  let afterHost := hostAndPort.drop hostText.length ++ tail
  if special ∧ hostText.isEmpty then throw .emptyHost
  let host ← if special then readHost hostText else readOpaqueHost hostText
  let host := if host = .domain [] then none else some host
  let (port, rest) ← match afterHost with
    | ':' :: portText =>
      if host.isNone then throw .emptyHost else readPort scheme portText
    | rest => pure (none, rest)
  if host.isNone ∧ hasLogin then throw .emptyHost
  return (⟨login.username, login.password, host, port⟩, rest)

/-- The host of a file URL after two slashes, and its path. A drive letter is no host. A path
without a host follows a slash of its own, even where it begins with one. -/
def readFileHost (text : List Char) : Except Fault (Option Host × List Char) :=
  let whole := text.takeWhile fun c => !endsAuthority true c
  let hostText := withoutIgnored whole
  let rest := text.drop whole.length
  if Path.isDrive hostText then .ok (none, '/' :: text)
  else if hostText.isEmpty then .ok (none, '/' :: rest)
  else do
    let host ← readHost hostText
    return if host = .domain "localhost".toList then (none, '/' :: rest) else (some host, rest)

def readTail (special : Bool) (text : List Char) : Option (List Char) × Option (List Char) :=
  let fragment := match Text.cut? '#' text with
    | some (_, fragment) => some (Percent.encode isPlainInFragment fragment)
    | none => none
  match text.takeWhile (· ≠ '#') with
  | '?' :: query => (some (Percent.encode (isPlainInQuery special) query), fragment)
  | _ => (none, fragment)

/-- The path, up to the query or the fragment, and what follows. The first slash of a special URL
may be missing; a path of any other URL may be missing altogether. -/
def readPath (special file : Bool) (text : List Char) : List Segment × List Char :=
  let whole := text.takeWhile fun c => !endsPath c
  let rest := text.drop whole.length
  match whole with
  | [] => (if special then Path.segments special file [] else [], rest)
  | c :: later =>
    (Path.segments special file (if isSlash special c then later else whole), rest)

def finish (scheme : String) (authority : Option Authority) (path : PathKind) (rest : List Char) :
    Url :=
  let (query, fragment) := readTail (isSpecial scheme) rest
  let dotted := match authority, path with
    | none, .segments ([] :: _ :: _) => true
    | _, _ => false
  ⟨scheme, authority, dotted, path, query, fragment⟩

def withAuthority (scheme : String) (text : List Char) : Except Fault Url := do
  let (authority, rest) ← readAuthority scheme text
  let (path, rest) := readPath (isSpecial scheme) false rest
  return finish scheme (some authority) (.segments path) rest

def afterSlash? (text : List Char) : Option (List Char) :=
  match text.dropWhile isIgnored with
  | c :: rest => if isSlash true c then some rest else none
  | [] => none

/-- Reads a file URL from what follows its scheme, with tabs and line breaks. A path that begins
with a drive letter leaves no room for a host, unless the letter is one only because of them. -/
def readFile (scheme : String) (text : List Char) : Except Fault Url := do
  let (host, rest) ← match (afterSlash? text).bind afterSlash? with
    | some more => readFileHost more
    | none => pure (none, text)
  let (path, tail) := readPath true true (rest.dropWhile isIgnored)
  let (bare, _) := readPath true true (withoutIgnored rest)
  let host := if bare.head?.any Path.isDrive then none else host
  return finish scheme (some ⟨[], none, host, none⟩) (.segments (Path.settle true path))
    (withoutIgnored tail)

def readOther (scheme : String) (text : List Char) : Except Fault Url :=
  match text with
  | '/' :: '/' :: rest => withAuthority scheme rest
  | '/' :: rest =>
    let (path, rest) := readPath false false ('/' :: rest)
    .ok (finish scheme none (.segments path) rest)
  | _ =>
    let whole := text.takeWhile fun c => !endsPath c
    .ok (finish scheme none (.opaquePath (Percent.encode isPrintable whole))
      (text.drop whole.length))

def parseChars (text : List Char) : Except Fault Url :=
  let trimmed := Text.trimBy isAroundText text
  match cutScheme? (withoutIgnored trimmed) with
  | none => .error .relative
  | some (scheme, rest) =>
    if isFile scheme then readFile scheme ((trimmed.dropWhile (· ≠ ':')).drop 1)
    else if isSpecial scheme then withAuthority scheme (rest.dropWhile (isSlash true))
    else readOther scheme rest

def parse (text : String) : Except Fault Url := parseChars text.toList

end ObjectTransfer.Url
