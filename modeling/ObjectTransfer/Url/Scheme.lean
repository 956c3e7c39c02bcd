/-!
# Schemes

A scheme is written in lower case. Six schemes are special: their URLs always have an authority and
a path, and a backslash is a slash to them. Five of those have a default port, which is not written.
-/

set_option autoImplicit false

namespace ObjectTransfer.Url

def isSchemeCharacter (c : Char) : Bool :=
  c.isAlpha || c.isDigit || c == '+' || c == '-' || c == '.'

def isFile (scheme : String) : Bool := scheme == "file"

def isSpecial (scheme : String) : Bool :=
  scheme == "http" || scheme == "https" || scheme == "ws" || scheme == "wss" || scheme == "ftp" ||
    isFile scheme

def defaultPort? (scheme : String) : Option Nat :=
  if scheme == "http" || scheme == "ws" then some 80
  else if scheme == "https" || scheme == "wss" then some 443
  else if scheme == "ftp" then some 21
  else none

/-- The scheme in front of the first colon, in lower case, and the characters after the colon. -/
def cutScheme? (text : List Char) : Option (String × List Char) :=
  let name := text.takeWhile isSchemeCharacter
  match name, text.drop name.length with
  | first :: _, ':' :: rest =>
    if first.isAlpha then some (String.ofList (name.map Char.toLower), rest) else none
  | _, _ => none

end ObjectTransfer.Url
