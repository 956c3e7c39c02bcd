import ObjectTransfer.Collections.Dictionary

/-!
# Headers

Headers are texts under names, in the order of the names. A name is looked for without regard to
the case of ASCII letters, and the first that fits counts.
-/

set_option autoImplicit false

namespace ObjectTransfer

abbrev Headers := Dictionary String

namespace Headers

def sameName (first second : String) : Bool :=
  first.toList.map Char.toLower == second.toList.map Char.toLower

def find? (headers : Headers) (name : String) : Option String :=
  (headers.toList.find? fun entry => sameName entry.1 name).map Prod.snd

end Headers

end ObjectTransfer
