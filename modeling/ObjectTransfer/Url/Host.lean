import ObjectTransfer.Encoding.Percent
import ObjectTransfer.Url.Address
import ObjectTransfer.Url.Domain

/-!
# Hosts

The host of a special scheme is a domain name in ASCII or a numeric address, whatever form it was
written in. Of any other scheme it is kept as it was written, with escapes for what is no printable
ASCII; only an address in brackets is read.
-/

set_option autoImplicit false

namespace ObjectTransfer.Url

inductive Host where
  | domain (name : List Char)
  | ipv4 (address : Nat)
  | ipv6 (words : List Nat)
  deriving DecidableEq, Repr

def Host.text : Host → List Char
  | .domain name => name
  | .ipv4 address => ipv4Text address
  | .ipv6 words => '[' :: (ipv6Text words ++ [']'])

def isPrintable (octet : UInt8) : Bool := 32 ≤ octet && octet < 127

def isForbiddenInHost (c : Char) : Bool :=
  ['\x00', '\t', '\n', '\r', ' ', '#', '/', ':', '<', '>', '?', '@', '[', '\\', ']', '^',
    '|'].contains c

def bracketed? (text : List Char) : Option (Except Fault Host) :=
  match text with
  | '[' :: rest =>
    if rest.getLast? = some ']' then
      match ipv6? rest.dropLast with
      | some words => some (.ok (.ipv6 words))
      | none => some (.error .ipv6)
    else some (.error .ipv6)
  | _ => none

def readHost (text : List Char) : Except Fault Host :=
  match bracketed? text with
  | some result => result
  | none =>
    let octets := Percent.decode (Utf8.encodeChars text)
    match (Utf8.decode? octets).bind fun decoded => domainToAscii? decoded.toList with
    | none => .error .internationalName
    | some [] => .error .emptyHost
    | some name =>
      if endsInNumber name then
        match ipv4? name with
        | some address => .ok (.ipv4 address)
        | none => .error .ipv4
      else .ok (.domain name)

def readOpaqueHost (text : List Char) : Except Fault Host :=
  match bracketed? text with
  | some result => result
  | none =>
    if text.any isForbiddenInHost then .error .domainCharacter
    else .ok (.domain (Percent.encode isPrintable text))

end ObjectTransfer.Url
