/-!
# Text as octets

Every octet sequence in this library is a list, so that proofs can follow it octet by octet.
`Utf8.encode` writes a text, `Utf8.decode?` reads it back and refuses octets that are no text;
`decode_encode` says that nothing is lost on the way.
-/

set_option autoImplicit false

namespace ObjectTransfer

abbrev Octets := List UInt8

namespace Utf8

def encodeChars (text : List Char) : Octets := text.flatMap String.utf8EncodeChar

def encode (text : String) : Octets := encodeChars text.toList

def decode? (octets : Octets) : Option String := String.fromUTF8? octets.toByteArray

/-- How many octets a character has that begins with this one. -/
def charLength (first : UInt8) : Nat :=
  if first < 128 then 1 else if first < 224 then 2 else if first < 240 then 3 else 4

/-- How many octets at the front make up whole characters. -/
def soundLength : Octets → Nat
  | [] => 0
  | first :: rest =>
    let count := charLength first
    if (decode? ((first :: rest).take count)).isSome then count + soundLength (rest.drop (count - 1))
    else 0
termination_by octets => octets.length
decreasing_by
  simp only [List.length_drop, List.length_cons]
  omega

theorem encodeChars_append (left right : List Char) :
    encodeChars (left ++ right) = encodeChars left ++ encodeChars right := by
  simp [encodeChars]

theorem encodeChars_cons (first : Char) (rest : List Char) :
    encodeChars (first :: rest) = String.utf8EncodeChar first ++ encodeChars rest := by
  simp [encodeChars]

theorem toByteArray_encode (text : String) : (encode text).toByteArray = text.toByteArray := by
  have written : (String.ofList text.toList).toByteArray = text.toList.utf8Encode :=
    String.toByteArray_ofList
  rw [String.ofList_toList] at written
  exact written.symm

theorem decode_encode (text : String) : decode? (encode text) = some text := by
  have valid : text.toByteArray.IsValidUTF8 := text.isValidUTF8
  simp only [decode?, toByteArray_encode, String.fromUTF8?, dif_pos valid]
  rfl

end Utf8

end ObjectTransfer
