import ObjectTransfer.Digest.Sha256

/-!
# Keyed digests

`Hmac.tag` authenticates a message under a key of any length with SHA-256: a key longer than a
block is first replaced by its digest, and the message is digested between two masks of the key.
A tag has thirty-two octets (`length_tag`).
-/

set_option autoImplicit false

namespace ObjectTransfer.Hmac

def blockKey (key : Octets) : Octets :=
  let short := if key.length > 64 then Sha256.digest key else key
  short ++ List.replicate (64 - short.length) 0

def mask (octet : UInt8) (key : Octets) : Octets := (blockKey key).map (· ^^^ octet)

def tag (key message : Octets) : Octets :=
  Sha256.digest (mask 0x5c key ++ Sha256.digest (mask 0x36 key ++ message))

theorem length_tag (key message : Octets) : (tag key message).length = 32 :=
  Sha256.length_digest _

end ObjectTransfer.Hmac
