/-!
# Why a text is no URL
-/

set_option autoImplicit false

namespace ObjectTransfer.Url

inductive Fault where
  | relative
  | emptyHost
  | port
  | ipv4
  | ipv6
  | internationalName
  | domainCharacter
  deriving DecidableEq, Repr

def Fault.message : Fault → String
  | .relative => "relative URL without a base"
  | .emptyHost => "empty host"
  | .port => "invalid port number"
  | .ipv4 => "invalid IPv4 address"
  | .ipv6 => "invalid IPv6 address"
  | .internationalName => "invalid international domain name"
  | .domainCharacter => "invalid domain character"

end ObjectTransfer.Url
