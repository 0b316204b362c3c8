/-
**Why an address is refused.**

Main definitions:

* `Url.Failure` — the reasons, and `Url.Failure.message`, their wording.
-/

set_option autoImplicit false

namespace WebDriverClient.Url

/-- Why an address is refused. -/
inductive Failure where
  | emptyHost
  | invalidDomain
  | invalidPort
  | invalidIpv4
  | invalidIpv6
  | invalidDomainCharacter
  | relativeWithoutBase
deriving DecidableEq, Repr

/-- The wording of a reason. -/
def Failure.message : Failure → String
  | .emptyHost => "empty host"
  | .invalidDomain => "invalid international domain name"
  | .invalidPort => "invalid port number"
  | .invalidIpv4 => "invalid IPv4 address"
  | .invalidIpv6 => "invalid IPv6 address"
  | .invalidDomainCharacter => "invalid domain character"
  | .relativeWithoutBase => "relative URL without a base"

end WebDriverClient.Url
