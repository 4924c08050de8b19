import OciCcm.LoadBalancer.Listeners

/-! # Specifications of load balancers

`newLBSpec` collects what the annotations and the ports of a service say about
its load balancer. The settings that no other part of the model reads (shape,
visibility, addresses, tags, network security groups) are left out.
-/

namespace OciCcm.LoadBalancer

open Go Kubernetes

variable {RuleSet : Type}

/-! ## Source ranges -/

def annotationLoadBalancerSourceRangesKey :=
  "service.beta.kubernetes.io/load-balancer-source-ranges"
def defaultLoadBalancerSourceRangesIPv4 := "0.0.0.0/0"
def defaultLoadBalancerSourceRangesIPv6 := "::/0"

/-- The ranges that the service asks for, in its specification or else in its annotation. -/
def serviceSourceRanges (lib : Library RuleSet) (svc : Service) : Except String (List String) :=
  if svc.loadBalancerSourceRanges ≠ [] then
    (lib.parseIPNets svc.loadBalancerSourceRanges).mapError fun err =>
      "service.Spec.LoadBalancerSourceRanges: [" ++ join svc.loadBalancerSourceRanges " " ++
        "] is not valid. Expecting a list of IP ranges. For example, 10.0.0.0/24. Error msg: " ++ err
  else
    let val := trimSpace (svc.annotation annotationLoadBalancerSourceRangesKey)
    let val := if val = "" then defaultLoadBalancerSourceRangesIPv4 else val
    (lib.parseIPNets (split val ',')).mapError fun _ =>
      annotationLoadBalancerSourceRangesKey ++ ": " ++ val ++
        " is not valid. Expecting a comma-separated list of source IP ranges. For example, " ++
        "10.0.0.0/24,192.168.2.0/24"

def getLoadBalancerSourceRanges (lib : Library RuleSet) (service : Service) :
    Except String (List String) := do
  let sourceCIDRs ← serviceSourceRanges lib service
  let requireIPv6 := (getIpFamilies service).contains .ipv6
  if sourceCIDRs.length > 1 ∨
      (sourceCIDRs.length = 1 ∧ sourceCIDRs ≠ [defaultLoadBalancerSourceRangesIPv4]) then
    .ok sourceCIDRs
  else if requireIPv6 then
    .ok ((if !isServiceDualStack service ∧ sourceCIDRs = [defaultLoadBalancerSourceRangesIPv4]
        then [] else sourceCIDRs) ++ [defaultLoadBalancerSourceRangesIPv6])
  else .ok sourceCIDRs

/-! ## The specification -/

structure LBSpec (RuleSet : Type) where
  type : LBType
  subnets : List String
  listeners : GoMap Listener
  backendSets : GoMap BackendSetDetails
  ports : GoMap PortSpec
  isPreserveSource : Bool
  sourceCIDRs : List String
  ruleSets : Option (GoMap RuleSet)
  ipVersions : IpVersions
  /-- The mode of the security list manager. -/
  securityListManager : ManagementMode
  service : Service
  nodes : List Node

/-- The rule sets of a service, or the error of reading them. -/
def checkedRuleSets (lib : Library RuleSet) (svc : Service) :
    Except String (Option (GoMap RuleSet)) :=
  match getRuleSets lib svc with
  | (ruleSets, none) => .ok ruleSets
  | (_, some err) => .error err

/-- The two orders are those of the loops of `getBackendSets` and `getPorts`. -/
def newLBSpec (lib : Library RuleSet) (o o' : RangeOrder.{0}) (svc : Service)
    (provisionedNodes : List Node) (subnets : List String) (sslConfig : Option SSLConfig)
    (versions : IpVersions) : Except String (LBSpec RuleSet) := do
  (validateService svc).mapError (wrap "invalid service")
  let sourceCIDRs ← getLoadBalancerSourceRanges lib svc
  let ruleSets ← checkedRuleSets lib svc
  let ipFamilies := convertOciIpVersionsToOciIpFamilies versions.listenerBackendIpVersion
  let listeners ← getListeners lib svc sslConfig ipFamilies
  let isPreserveSource ← getPreserveSource svc
  let backendSets ← getBackendSets lib o svc provisionedNodes sslConfig isPreserveSource ipFamilies
  let ports ← getPorts o' svc ipFamilies
  let ruleManagementMode ← getRuleManagementMode svc
  .ok { type := getLoadBalancerType svc
        subnets := subnets
        listeners := listeners
        backendSets := backendSets
        ports := ports
        isPreserveSource := isPreserveSource
        sourceCIDRs := sourceCIDRs
        ruleSets := ruleSets
        ipVersions := versions
        securityListManager := ruleManagementMode
        service := svc
        nodes := provisionedNodes }

/-- The steps of `newLBSpec` have succeeded, and the specification has their results. -/
structure BuiltFrom (lib : Library RuleSet) (o o' : RangeOrder.{0}) (svc : Service)
    (nodes : List Node) (sslConfig : Option SSLConfig) (versions : IpVersions)
    (spec : LBSpec RuleSet) : Prop where
  valid : validateService svc = .ok ()
  sourceCIDRs : getLoadBalancerSourceRanges lib svc = .ok spec.sourceCIDRs
  ruleSets : checkedRuleSets lib svc = .ok spec.ruleSets
  listeners : getListeners lib svc sslConfig
    (convertOciIpVersionsToOciIpFamilies versions.listenerBackendIpVersion) = .ok spec.listeners
  isPreserveSource : getPreserveSource svc = .ok spec.isPreserveSource
  backendSets : getBackendSets lib o svc nodes sslConfig spec.isPreserveSource
    (convertOciIpVersionsToOciIpFamilies versions.listenerBackendIpVersion) = .ok spec.backendSets
  ports : getPorts o' svc
    (convertOciIpVersionsToOciIpFamilies versions.listenerBackendIpVersion) = .ok spec.ports
  securityListManager : getRuleManagementMode svc = .ok spec.securityListManager
  type : spec.type = getLoadBalancerType svc
  service : spec.service = svc

theorem newLBSpec_ok {lib : Library RuleSet} {o o' : RangeOrder.{0}} {svc : Service}
    {nodes : List Node} {subnets : List String} {sslConfig : Option SSLConfig}
    {versions : IpVersions} {spec : LBSpec RuleSet}
    (h : newLBSpec lib o o' svc nodes subnets sslConfig versions = .ok spec) :
    BuiltFrom lib o o' svc nodes sslConfig versions spec := by
  simp only [newLBSpec, bind_eq_ok, Except.ok.injEq] at h
  obtain ⟨⟨⟩, hvalid, _, hsourceCIDRs, _, hruleSets, _, hlisteners, _, hpreserve, _, hbackendSets, _,
    hports, _, hmode, rfl⟩ := h
  exact ⟨mapError_ok.mp hvalid, hsourceCIDRs, hruleSets, hlisteners, hpreserve, hbackendSets,
    hports, hmode, rfl, rfl⟩

end OciCcm.LoadBalancer
