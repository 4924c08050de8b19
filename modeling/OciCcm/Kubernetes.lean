import OciCcm.Go.Map
import OciCcm.Go.Strings

/-! # Kubernetes objects

The parts of services and nodes that the controller reads, and the helper of
the cloud-provider library that names a service's health check.
-/

namespace OciCcm.Kubernetes

open Go

/-- The transport protocol of a service port. -/
inductive Protocol where
  | tcp
  | udp
  | sctp
deriving DecidableEq, Repr

/-- The string value of a protocol. -/
def Protocol.str : Protocol → String
  | .tcp => "TCP"
  | .udp => "UDP"
  | .sctp => "SCTP"

/-- The IP family of a service. -/
inductive IPFamily where
  | ipv4
  | ipv6
deriving DecidableEq, Repr

inductive IPFamilyPolicy where
  | singleStack
  | preferDualStack
  | requireDualStack
deriving DecidableEq, Repr

inductive ServiceType where
  | clusterIP
  | nodePort
  | loadBalancer
  | externalName
deriving DecidableEq, Repr

inductive ExternalTrafficPolicy where
  | cluster
  | local
deriving DecidableEq, Repr

inductive SessionAffinity where
  | none
  | clientIP
deriving DecidableEq, Repr

structure ServicePort where
  protocol : Protocol
  port : Nat
  nodePort : Nat
deriving DecidableEq, Repr

/-- A service: its metadata and the fields of its specification. An unset
traffic policy is `none`, as is an unset IP family policy. -/
structure Service where
  ns : String := "default"
  name : String := ""
  uid : String := ""
  annotations : GoMap String := ∅
  deletionTimestamp : Option String := none
  type : ServiceType := .loadBalancer
  ports : List ServicePort := []
  sessionAffinity : SessionAffinity := .none
  externalTrafficPolicy : Option ExternalTrafficPolicy := some .cluster
  healthCheckNodePort : Nat := 0
  loadBalancerIP : String := ""
  loadBalancerSourceRanges : List String := []
  ipFamilies : List IPFamily := [.ipv4]
  ipFamilyPolicy : Option IPFamilyPolicy := some .singleStack
deriving DecidableEq

inductive NodeAddressType where
  | hostName
  | internalIP
  | externalIP
deriving DecidableEq, Repr

structure NodeAddress where
  type : NodeAddressType
  address : String
deriving DecidableEq, Repr

structure Node where
  name : String
  annotations : GoMap String := ∅
  labels : GoMap String := ∅
  providerID : String
  addresses : List NodeAddress
deriving DecidableEq

namespace Service

/-- `svc.Annotations[key]`, the empty string when the key is absent. -/
def annotation (svc : Service) (key : String) : String := (svc.annotations.lookup key).getD ""

/-- Does the service request that traffic stays on the node it arrives at? -/
def requestsOnlyLocalTraffic (svc : Service) : Bool :=
  if svc.type ≠ .loadBalancer ∧ svc.type ≠ .nodePort then false
  else svc.externalTrafficPolicy == some .local

def needsHealthCheck (svc : Service) : Bool :=
  if svc.type ≠ .loadBalancer then false else svc.requestsOnlyLocalTraffic

/-- The path and node port of the service's own health check; `("", 0)` when it has none. -/
def getServiceHealthCheckPathPort (svc : Service) : String × Nat :=
  if !svc.needsHealthCheck then ("", 0)
  else if svc.healthCheckNodePort = 0 then ("", 0)
  else ("/healthz", svc.healthCheckNodePort)

end Service

end OciCcm.Kubernetes
