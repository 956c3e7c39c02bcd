import ObjectTransfer.Encoding.Percent
import ObjectTransfer.Text.Pieces

/-!
# Form encoded pairs

Names and values of a query keep letters, digits and `*-._`; a space becomes a plus sign and every
other octet an escape. Pairs are joined by ampersands and a name stands before the first equals
sign, so `decodePairs` reads a query back pair by pair.
-/

set_option autoImplicit false

namespace ObjectTransfer.Form

def isPlain (octet : UInt8) : Bool :=
  (65 ≤ octet && octet ≤ 90) || (97 ≤ octet && octet ≤ 122) || (48 ≤ octet && octet ≤ 57) ||
    octet == 42 || octet == 45 || octet == 46 || octet == 95

def encodeOctet (octet : UInt8) : List Char :=
  if octet = 32 then ['+'] else Percent.encodeOctet isPlain octet

def encode (text : String) : List Char := (Utf8.encode text).flatMap encodeOctet

def encodePair (name value : String) : List Char := encode name ++ '=' :: encode value

def appendPair (query : List Char) (name value : String) : List Char :=
  if query.isEmpty then encodePair name value else query ++ '&' :: encodePair name value

def decodeOctets (octets : Octets) : Octets :=
  Percent.decode (octets.map fun octet => if octet = 43 then 32 else octet)

/-- The pairs of a query, as octets; an empty item is no pair. -/
def decodePairs (query : List Char) : List (Octets × Octets) :=
  ((Text.split '&' query).filter fun item => !item.isEmpty).map fun item =>
    match Text.cut? '=' item with
    | some (name, value) =>
      (decodeOctets (Utf8.encodeChars name), decodeOctets (Utf8.encodeChars value))
    | none => (decodeOctets (Utf8.encodeChars item), [])

end ObjectTransfer.Form
