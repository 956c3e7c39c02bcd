import ObjectTransfer.Link.Endpoints

/-!
# Settings of an exchange

The base of all endpoints, and for how many seconds uploads and verifications are authorized.
-/

set_option autoImplicit false

namespace ObjectTransfer

structure ExchangeSettings where
  base : Url
  transferLifetime : UInt64
  verificationLifetime : UInt64
  deriving DecidableEq

namespace ExchangeSettings

def usualTransferLifetime : UInt64 := 900

def usualVerificationLifetime : UInt64 := 43200

def localBase : Url :=
  { scheme := "http"
    authority := some ⟨[], none, some (.domain "localhost".toList), some 5000⟩
    dotted := false
    path := .segments [[]]
    query := none
    fragment := none }

def localEndpoints : Endpoints := ⟨localBase, rfl⟩

def ofBase (base : Url) : ExchangeSettings :=
  ⟨base, usualTransferLifetime, usualVerificationLifetime⟩

def standard : ExchangeSettings := ofBase localBase

def endpoints (settings : ExchangeSettings) : Except StoreFailure Endpoints :=
  Endpoints.ofBase settings.base

def wire : Wire.Format ExchangeSettings where
  shape := .record "TransferSettings" <|
    .cons "base_url" .required .url <|
    .cons "action_lifetime" (.defaulted (.integer usualTransferLifetime.toNat)) .word64 <|
    .cons "verify_lifetime" (.defaulted (.integer usualVerificationLifetime.toNat)) .word64 .nil
  pack settings := (settings.base, settings.transferLifetime, settings.verificationLifetime, ())
  unpack := fun (base, transferLifetime, verificationLifetime, _) =>
    ⟨base, transferLifetime, verificationLifetime⟩
  unpack_pack _ := rfl

end ExchangeSettings

end ObjectTransfer
