import ObjectTransfer.Text.Visible

/-!
# Quoted text

A text inside a message is set in double quotes. A quote, a backslash and the usual controls get a
backslash; any other character that does not show is written as its code point in braces. So the
quoted form of a text is one line of characters that show.
-/

set_option autoImplicit false

namespace ObjectTransfer.Text

def quotedChar (c : Char) : List Char :=
  if c = '"' then ['\\', '"']
  else if c = '\\' then ['\\', '\\']
  else if c = '\n' then ['\\', 'n']
  else if c = '\r' then ['\\', 'r']
  else if c = '\t' then ['\\', 't']
  else if c.toNat = 0 then ['\\', '0']
  else if shows c then [c]
  else ['\\', 'u', '\x7b'] ++ Nat.toDigits 16 c.toNat ++ ['\x7d']

def quoted (text : String) : String :=
  String.ofList (['"'] ++ text.toList.flatMap quotedChar ++ ['"'])

end ObjectTransfer.Text
