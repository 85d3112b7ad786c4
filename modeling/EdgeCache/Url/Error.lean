/-!
# What is wrong with a URL
-/

namespace EdgeCache.Url

/-- Why a text is no URL. -/
inductive Error where
  /-- There is no scheme. -/
  | relative
  | emptyHost
  | invalidDomain
  | invalidPort
  | invalidIpv4
  | invalidIpv6
  /-- The host of a scheme without rules of its own holds a character that no host may have. -/
  | invalidHostCharacter
  deriving DecidableEq, Repr

/-- What is wrong, in words. -/
def Error.message : Error → String
  | relative => "relative URL without a base"
  | emptyHost => "empty host"
  | invalidDomain => "invalid international domain name"
  | invalidPort => "invalid port number"
  | invalidIpv4 => "invalid IPv4 address"
  | invalidIpv6 => "invalid IPv6 address"
  | invalidHostCharacter => "invalid domain character"

end EdgeCache.Url
