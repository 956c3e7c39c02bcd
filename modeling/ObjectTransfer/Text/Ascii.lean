/-!
# ASCII

The classes of letters and digits and the lower case that this library uses are those of ASCII.
A character is in ASCII if its code point is below 128; its UTF-8 form is then one octet.
-/

set_option autoImplicit false

namespace ObjectTransfer.Text

def isAscii (c : Char) : Bool := c.toNat < 128

theorem utf8EncodeChar_of_isAscii (c : Char) (ascii : isAscii c = true) :
    String.utf8EncodeChar c = [UInt8.ofNat c.toNat] := by
  have below : c.toNat < 128 := by simpa [isAscii] using ascii
  have small : c.toNat ≤ 127 := Nat.le_of_lt_succ below
  simp [String.utf8EncodeChar, small]

end ObjectTransfer.Text
