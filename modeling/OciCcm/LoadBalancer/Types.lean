import Mathlib.Data.Finset.Insert
import OciCcm.Kubernetes

/-! # Load balancer resources

The records exchanged with the load balancer and network load balancer
services. A pointer field that the code may leave nil is an `Option`; a field
that every constructor of the record fills is stored directly. A slice that may be
nil is an `Option` where the difference to an empty one is sent.
-/

namespace OciCcm.LoadBalancer

open Go Kubernetes

/-- The two products behind a service of type LoadBalancer. -/
inductive LBType where
  | lb
  | nlb
deriving DecidableEq, Repr

/-- `GenericIpVersion`, and the strings `IPv4`, `IPv6` and `IPv4_AND_IPv6` that stand for it. -/
inductive IpVersion where
  | ipv4
  | ipv6
  | ipv4AndIPv6
deriving DecidableEq, Repr

/-- The string of an IP family, read as an IP version. -/
def IpVersion.ofFamily : IPFamily → IpVersion
  | .ipv4 => .ipv4
  | .ipv6 => .ipv6

structure SslConfigurationDetails where
  verifyDepth : Option Int := none
  verifyPeerCertificate : Option Bool := none
  hasSessionResumption : Option Bool := none
  trustedCertificateAuthorityIds : Option (List String) := none
  certificateIds : Option (List String) := none
  certificateName : Option String := none
  protocols : Option (List String) := none
  cipherSuiteName : Option String := none
  serverOrderPreference : String := ""
deriving DecidableEq, Repr

structure ConnectionConfiguration where
  idleTimeout : Option Int
  backendTcpProxyProtocolVersion : Option Int
deriving DecidableEq, Repr

structure Listener where
  name : String
  defaultBackendSetName : String
  port : Nat
  protocol : String
  hostnameNames : Option (List String) := none
  pathRouteSetName : Option String := none
  sslConfiguration : Option SslConfigurationDetails := none
  connectionConfiguration : Option ConnectionConfiguration := none
  routingPolicyName : Option String := none
  ruleSetNames : Option (List String) := none
  ipVersion : Option IpVersion := none
  isPpv2Enabled : Option Bool := none
deriving DecidableEq, Repr

/-- The rule sets that a listener names, none if its list is nil. -/
def Listener.namedRuleSets (l : Listener) : List String := l.ruleSetNames.getD []

structure HealthChecker where
  protocol : String
  isForcePlainText : Option Bool
  port : Option Nat
  urlPath : Option String
  retries : Option Int
  timeoutInMillis : Option Int
  intervalInMillis : Option Int
  responseBodyRegex : Option String := none
  returnCode : Option Int
deriving DecidableEq, Repr

structure Backend where
  port : Nat
  ipAddress : String
  targetId : Option String
  weight : Option Int
  name : Option String := none
  backup : Option Bool := none
  drain : Option Bool := none
  offline : Option Bool := none
  maxConnections : Option Int := none
deriving DecidableEq, Repr

structure SessionPersistenceConfiguration where
  cookieName : Option String
  disableFallback : Option Bool
deriving DecidableEq, Repr

structure BackendSetDetails where
  name : String
  healthChecker : Option HealthChecker
  policy : Option String
  backends : List Backend
  sessionPersistenceConfiguration : Option SessionPersistenceConfiguration := none
  sslConfiguration : Option SslConfigurationDetails
  isPreserveSource : Option Bool
  ipVersion : Option IpVersion
deriving DecidableEq, Repr

/-- The ports that the security rules of one backend set concern. -/
structure PortSpec where
  listenerPort : Nat := 0
  backendPort : Nat := 0
  healthCheckerPort : Nat := 0
deriving DecidableEq, Repr

/-- The description of an SSL certificate. The reader of the secrets is left out:
only the certificate upload uses it. -/
structure SSLConfig where
  ports : Finset Int
  listenerSSLSecretName : String := ""
  backendSetSSLSecretName : String := ""
deriving DecidableEq

/-- The IP versions chosen for the endpoint and for listeners and backend sets. -/
structure IpVersions where
  ipFamilies : List IpVersion
  ipFamilyPolicy : IPFamilyPolicy
  lbEndpointIpVersion : IpVersion
  listenerBackendIpVersion : List IpVersion
deriving DecidableEq, Repr

/-- A virtual-network subnet. The list of IPv6 blocks may be absent or empty. -/
structure Subnet where
  id : String
  cidrBlock : Option String := none
  ipv6CidrBlock : Option String := none
  ipv6CidrBlocks : Option (List String) := none
deriving DecidableEq, Repr

/-- What the controller calls and the model does not define: address parsing and
the decoding of the JSON annotations. `RuleSet` is the type of a decoded rule set.
A failed decoding may still have filled its target. Parsed networks are given as
strings again, in the order in which their set is visited. -/
structure Library (RuleSet : Type) where
  ipFamilyOfString : String → Option IPFamily
  parseIPNets : List String → Except String (List String)
  unmarshalSslConfiguration : String → Except String (Option SslConfigurationDetails)
  decodeRuleSets : String → Option (GoMap RuleSet) × Option String

namespace Library

variable {RuleSet : Type}

def isIPv4String (lib : Library RuleSet) (s : String) : Bool :=
  lib.ipFamilyOfString s == some .ipv4

def isIPv6String (lib : Library RuleSet) (s : String) : Bool :=
  lib.ipFamilyOfString s == some .ipv6

/-- A library for worked cases: it tells addresses apart by their separators, takes every
network as it is and decodes no JSON but the empty object and null. -/
def simple : Library Unit where
  ipFamilyOfString s :=
    if s.toList.contains ':' then some .ipv6
    else if s.toList.contains '.' then some .ipv4
    else none
  parseIPNets specs := .ok specs
  unmarshalSslConfiguration s := if s = "null" then .ok none else .error "unexpected value"
  decodeRuleSets s :=
    if s = "\x7b\x7d" then (some ∅, none)
    else if s = "null" then (none, none)
    else (none, some "unexpected value")

end Library

end OciCcm.LoadBalancer
