import ObjectTransfer.Encoding.Hex

/-!
# Percent escapes

An octet that may not stand for itself is written `%` and two upper case digits. `encode` takes the
octets that may stand for themselves as a parameter; `decode` reads escapes of either case and
leaves a percent sign that begins no escape as it is. The two undo each other for every such
parameter that lets only octets of ASCII, and not the percent sign, stand for themselves.
-/

set_option autoImplicit false

namespace ObjectTransfer.Percent

def percent : UInt8 := 37

def escape (octet : UInt8) : List Char := '%' :: Hex.upperOctet octet

def encodeOctet (plain : UInt8 → Bool) (octet : UInt8) : List Char :=
  if plain octet then [Char.ofNat octet.toNat] else escape octet

def encodeOctets (plain : UInt8 → Bool) (octets : Octets) : List Char :=
  octets.flatMap (encodeOctet plain)

def encode (plain : UInt8 → Bool) (text : List Char) : List Char :=
  encodeOctets plain (Utf8.encodeChars text)

def pairValue? (high low : UInt8) : Option UInt8 :=
  match Hex.value? (Char.ofNat high.toNat), Hex.value? (Char.ofNat low.toNat) with
  | some h, some l => some (UInt8.ofNat (16 * h + l))
  | _, _ => none

def decode : Octets → Octets
  | [] => []
  | octet :: high :: low :: rest =>
    if octet = percent then
      match pairValue? high low with
      | some value => value :: decode rest
      | none => octet :: decode (high :: low :: rest)
    else octet :: decode (high :: low :: rest)
  | octet :: rest => octet :: decode rest

/-- Letters, digits and the four marks that never need an escape. -/
def isUnreserved (octet : UInt8) : Bool :=
  (65 ≤ octet && octet ≤ 90) || (97 ≤ octet && octet ≤ 122) || (48 ≤ octet && octet ≤ 57) ||
    octet == 45 || octet == 95 || octet == 46 || octet == 126

end ObjectTransfer.Percent
