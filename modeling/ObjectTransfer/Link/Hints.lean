import ObjectTransfer.Wire.Shape

/-!
# Download hints

A client may say under which name a download should be saved and how it should be presented. With
both hints the answer is an attachment under the safe part of the name; a name with no safe part
counts as none, and a presentation without a name is passed on as it is.
-/

set_option autoImplicit false

namespace ObjectTransfer

structure Hints where
  filename : Option String
  disposition : Option String
  deriving DecidableEq, Repr

namespace Hints

def empty : Hints := ⟨none, none⟩

instance : Inhabited Hints := ⟨empty⟩

/-- ASCII letters and digits, the point, the underscore, the hyphen and the space. -/
def isSafe (c : Char) : Bool :=
  c.isAlphanum || c == '.' || c == '_' || c == '-' || c == ' '

def safePart (filename : String) : String := String.ofList (filename.toList.filter isSafe)

/-- The value of a header that presents the download, if the hints imply one. -/
def presentation (hints : Hints) : Option String :=
  let name := (hints.filename.map safePart).filter fun name => !name.isEmpty
  match name, hints.disposition with
  | some name, some _ => some ("attachment; filename=\"" ++ name ++ "\"")
  | none, some disposition => some disposition
  | _, none => none

def wire : Wire.Format Hints where
  shape := .record "ObjectExtra" <|
    .cons "filename" .omittable (.text "a string") <|
    .cons "disposition" .omittable (.text "a string") .nil
  pack hints := (hints.filename, hints.disposition, ())
  unpack := fun (filename, disposition, _) => ⟨filename, disposition⟩
  unpack_pack _ := rfl

end Hints

end ObjectTransfer
