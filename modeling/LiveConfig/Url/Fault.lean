/-!
What can be wrong with a URL.
-/

namespace LiveConfig.Url

/-- Why a text is no URL. -/
inductive Fault where
  /-- There is no scheme. -/
  | noScheme
  | emptyHost
  /-- The host is no domain name. -/
  | domain
  /-- The host has a character that a host must not have. -/
  | symbol
  | ipv4
  | ipv6
  | port
deriving DecidableEq

/-- The message of a fault. -/
def Fault.message : Fault → String
  | noScheme => "relative URL without a base"
  | emptyHost => "empty host"
  | domain => "invalid international domain name"
  | symbol => "invalid domain character"
  | ipv4 => "invalid IPv4 address"
  | ipv6 => "invalid IPv6 address"
  | port => "invalid port number"

end LiveConfig.Url
