import ObjectTransfer.Encoding.Hex
import ObjectTransfer.Json.Value

/-!
# Written JSON

`Json.written` writes a value without any blanks. In a text the quote, the backslash and the
control characters are escaped, those with a letter of their own by that letter; every other
character stands for itself.
-/

set_option autoImplicit false

namespace ObjectTransfer.Json

def escaped (c : Char) : List Char :=
  if c = '"' then ['\\', '"']
  else if c = '\\' then ['\\', '\\']
  else if c = '\x08' then ['\\', 'b']
  else if c = '\x0c' then ['\\', 'f']
  else if c = '\n' then ['\\', 'n']
  else if c = '\r' then ['\\', 'r']
  else if c = '\t' then ['\\', 't']
  else if c.toNat < 32 then
    ['\\', 'u', '0', '0', Hex.digit (c.toNat / 16), Hex.digit (c.toNat % 16)]
  else [c]

def writtenText (text : String) : List Char :=
  '"' :: (text.toList.flatMap escaped ++ ['"'])

def writtenInteger (value : Int) : List Char :=
  if value < 0 then '-' :: Nat.toDigits 10 value.natAbs else Nat.toDigits 10 value.natAbs

mutual

def written : Json → List Char
  | .null => "null".toList
  | .boolean true => "true".toList
  | .boolean false => "false".toList
  | .integer value => writtenInteger value
  | .float value => value.text
  | .text value => writtenText value
  | .array elements => '[' :: writtenElements elements
  | .object members => '\x7b' :: writtenMembers members

def writtenElements : List Json → List Char
  | [] => [']']
  | element :: rest => written element ++ writtenMoreElements rest

def writtenMoreElements : List Json → List Char
  | [] => [']']
  | element :: rest => ',' :: (written element ++ writtenMoreElements rest)

def writtenMembers : List (String × Json) → List Char
  | [] => ['\x7d']
  | (key, value) :: rest =>
    writtenText key ++ ':' :: (written value ++ writtenMoreMembers rest)

def writtenMoreMembers : List (String × Json) → List Char
  | [] => ['\x7d']
  | (key, value) :: rest =>
    ',' :: (writtenText key ++ ':' :: (written value ++ writtenMoreMembers rest))

end

def toText (value : Json) : String := String.ofList value.written

end ObjectTransfer.Json
