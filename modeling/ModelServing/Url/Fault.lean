/-! Why a text is no URL. -/
namespace ModelServing.Url

inductive Fault where
  | emptyHost
  | internationalDomain
  | port
  | ipv4
  | ipv6
  | hostCharacter
  | relativeWithoutBase
  | hostOnRootlessPath
  deriving DecidableEq, Repr

def Fault.message : Fault → String
  | .emptyHost => "empty host"
  | .internationalDomain => "invalid international domain name"
  | .port => "invalid port number"
  | .ipv4 => "invalid IPv4 address"
  | .ipv6 => "invalid IPv6 address"
  | .hostCharacter => "invalid domain character"
  | .relativeWithoutBase => "relative URL without a base"
  | .hostOnRootlessPath => "a cannot-be-a-base URL doesn’t have a host to set"

end ModelServing.Url
