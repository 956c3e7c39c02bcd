import ObjectTransfer.Collections.Headers
import ObjectTransfer.Wire.Shape

/-!
# Actions

An action tells a client where to send a request, with which headers, and for how many seconds.
-/

set_option autoImplicit false

namespace ObjectTransfer

structure Action where
  href : String
  header : Headers
  lifetime : UInt64
  deriving DecidableEq

namespace Action

def wire : Wire.Format Action where
  shape := .record "ActionDescriptor" <|
    .cons "href" .required (.text "a string") <|
    .cons "header" (.defaulted (.object [])) .texts <|
    .cons "expires_in" .required .word64 .nil
  pack action := (action.href, action.header.toList, action.lifetime, ())
  unpack := fun (href, header, lifetime, _) => ⟨href, Dictionary.ofList header, lifetime⟩
  unpack_pack action := by
    obtain ⟨href, header, lifetime⟩ := action
    exact congrArg (fun header => Action.mk href header lifetime) (Dictionary.ofList_toList header)

end Action

end ObjectTransfer
