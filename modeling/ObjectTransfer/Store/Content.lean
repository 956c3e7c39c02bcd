import ObjectTransfer.Encoding.Utf8
import ObjectTransfer.Store.Failure

/-!
# Content

Content comes in chunks, any of which may be an error instead. Collecting it joins the chunks up to
the first error, which is then the result.
-/

set_option autoImplicit false

namespace ObjectTransfer

abbrev Content := List (Except StoreFailure Octets)

namespace Content

def ofOctets (octets : Octets) : Content := [.ok octets]

def joined : Content → Except StoreFailure Octets
  | [] => .ok []
  | .error error :: _ => .error error
  | .ok chunk :: rest => do
    let more ← joined rest
    .ok (chunk ++ more)

theorem joined_ofOctets (octets : Octets) : (ofOctets octets).joined = .ok octets := by
  simp [ofOctets, joined, bind, Except.bind]

theorem joined_map_ok (chunks : List Octets) :
    joined (chunks.map Except.ok) = .ok chunks.flatten := by
  induction chunks with
  | nil => rfl
  | cons chunk rest ih => simp [joined, ih, bind, Except.bind]

theorem joined_broken (chunks : List Octets) (error : StoreFailure) (rest : Content) :
    joined (chunks.map Except.ok ++ .error error :: rest) = .error error := by
  induction chunks with
  | nil => rfl
  | cons chunk more ih => simp [joined, ih, bind, Except.bind]

end Content

end ObjectTransfer
