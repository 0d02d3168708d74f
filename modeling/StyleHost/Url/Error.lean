/-!
# Errors of URLs

* `UrlError` : why a text is no URL.
-/

namespace StyleHost

/-- Why a text is no URL. -/
inductive UrlError where
  | emptyHost
  /-- The host is no domain name, under a scheme that demands one. -/
  | invalidDomain
  /-- The host holds a character that no host may hold. -/
  | forbiddenHostCharacter
  | invalidPort
  | invalidIpv4
  | invalidIpv6
  /-- A reference without a scheme, and nothing to resolve it against. -/
  | relativeWithoutBase
  /-- A reference without a scheme, and a base that nothing can be resolved against. -/
  | relativeWithFlatBase
deriving DecidableEq

/-- The wording of a URL error. -/
def UrlError.message : UrlError → String
  | .emptyHost => "empty host"
  | .invalidDomain => "invalid international domain name"
  | .forbiddenHostCharacter => "invalid domain character"
  | .invalidPort => "invalid port number"
  | .invalidIpv4 => "invalid IPv4 address"
  | .invalidIpv6 => "invalid IPv6 address"
  | .relativeWithoutBase => "relative URL without a base"
  | .relativeWithFlatBase => "relative URL with a cannot-be-a-base base"

end StyleHost
