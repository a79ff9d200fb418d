/-!
# Faults of connection URLs

What can be wrong with a text that should be a URL.  The wording of each fault is in
`Fault.message`.
-/

namespace TableQuery.Url

/-- What is wrong with a text that should be a URL. -/
inductive Fault where
  | relativeWithoutBase
  | emptyHost
  | invalidPort
  | domainCharacter
  | domainName
  | dottedAddress
  | colonAddress
  deriving DecidableEq

/-- The wording of a fault. -/
def Fault.message : Fault → String
  | .relativeWithoutBase => "relative URL without a base"
  | .emptyHost => "empty host"
  | .invalidPort => "invalid port number"
  | .domainCharacter => "invalid domain character"
  | .domainName => "invalid international domain name"
  | .dottedAddress => "invalid IPv4 address"
  | .colonAddress => "invalid IPv6 address"

end TableQuery.Url
