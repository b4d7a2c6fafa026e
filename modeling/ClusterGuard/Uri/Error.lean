/-!
# Why a text is not the address of a cluster
-/

namespace ClusterGuard.Uri

/-- Why a text is not the address of a cluster. -/
inductive Error where
  | noScheme
  | emptyHost
  | badPort
  | badIpv4
  | badIpv6
  /-- The host of a scheme with domain names is not a domain name. -/
  | badDomain
  /-- The host of any other scheme holds a character it must not hold. -/
  | badHostCharacter
  | unsupportedScheme (scheme : String)
  | noHost
deriving DecidableEq

/-- The text of an error. -/
def Error.message : Error → String
  | noScheme => "relative URL without a base"
  | emptyHost => "empty host"
  | badPort => "invalid port number"
  | badIpv4 => "invalid IPv4 address"
  | badIpv6 => "invalid IPv6 address"
  | badDomain => "invalid international domain name"
  | badHostCharacter => "invalid domain character"
  | unsupportedScheme s => "unsupported scheme '" ++ s ++ "', expected redis or rediss"
  | noHost => "missing host"

end ClusterGuard.Uri
