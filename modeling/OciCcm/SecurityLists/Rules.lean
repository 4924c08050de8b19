import OciCcm.Go.Scan
import OciCcm.LoadBalancer.IpVersions

/-! # Security list rules

The rules of a security list and the three functions that compute the rules a
load balancer needs: ingress to the nodes, ingress to the load balancer and
egress from the load balancer. Each scans the rules that exist, keeps or drops
every one of them, and then adds a rule for every wanted address block that no
kept rule covers.
-/

namespace OciCcm.SecurityLists

open Go Kubernetes LoadBalancer

@[ext] structure PortRange where
  min : Nat
  max : Nat
deriving DecidableEq, Repr

structure TcpOptions where
  destinationPortRange : Option PortRange
  sourcePortRange : Option PortRange := none
deriving DecidableEq, Repr

structure UdpOptions where
  destinationPortRange : Option PortRange := none
  sourcePortRange : Option PortRange := none
deriving DecidableEq, Repr

structure IcmpOptions where
  type : Int
  code : Option Int := none
deriving DecidableEq, Repr

/-- An ingress or egress rule. `cidr` is the source of the one and the destination of the
other, and `cidrType` says what kind of address block it is. Of the options only those of TCP
are looked at, but rules are compared with all of them. -/
structure SecurityRule where
  cidr : String
  protocol : String
  tcpOptions : Option TcpOptions
  isStateless : Option Bool := some false
  description : Option String := none
  cidrType : String := ""
  udpOptions : Option UdpOptions := none
  icmpOptions : Option IcmpOptions := none
deriving DecidableEq, Repr

/-- A subnet with the ids of its security lists. -/
structure SubnetWithLists extends Subnet where
  securityListIds : List String
deriving DecidableEq, Repr

/-- The answer of the service informer's lister. -/
abbrev ServiceLister := Except String (List Service)

namespace SecurityRule

/-- The destination port range of a TCP rule. -/
def destination (rule : SecurityRule) : Option PortRange :=
  rule.tcpOptions.bind (·.destinationPortRange)

/-- The destination port range of a TCP rule without a source port range. -/
def plainDestination (rule : SecurityRule) : Option PortRange :=
  match rule.tcpOptions with
  | none => none
  | some tcp => if tcp.sourcePortRange.isSome then none else tcp.destinationPortRange

/-- A rule for a single destination port, whatever its source ports. -/
def OnPort (rule : SecurityRule) (port : Nat) : Prop := rule.destination = some ⟨port, port⟩

/-- A rule for a single destination port and any source port. -/
def PlainOnPort (rule : SecurityRule) (port : Nat) : Prop :=
  rule.plainDestination = some ⟨port, port⟩

instance (rule : SecurityRule) (port : Nat) : Decidable (rule.OnPort port) :=
  inferInstanceAs (Decidable (_ = _))

instance (rule : SecurityRule) (port : Nat) : Decidable (rule.PlainOnPort port) :=
  inferInstanceAs (Decidable (_ = _))

end SecurityRule

def protocolTCP : Nat := 6

/-- A stateful TCP rule for one port. -/
def makeSecurityRule (cidrBlock : String) (port : Nat) : SecurityRule where
  cidr := cidrBlock
  protocol := toString protocolTCP
  tcpOptions := some { destinationPortRange := some ⟨port, port⟩ }
  isStateless := some false

def makeEgressSecurityRule : String → Nat → SecurityRule := makeSecurityRule

def makeIngressSecurityRule : String → Nat → SecurityRule := makeSecurityRule

/-! ## Ports in use -/

def portInUse (serviceLister : ServiceLister) (port : Nat) : Except String Bool := do
  let serviceList ← serviceLister
  .ok (serviceList.any fun service =>
    service.deletionTimestamp.isNone && service.type = .loadBalancer &&
      service.ports.any fun p => p.port = port)

/-- Does this service check the health of its nodes on the port? -/
def checksHealthOn (service : Service) (port : Nat) : Bool :=
  if service.deletionTimestamp.isSome ∨ service.type ≠ .loadBalancer then false
  else match service.externalTrafficPolicy with
    | some .cluster => port = lbNodesHealthCheckPort
    | some .local => port = service.healthCheckNodePort
    | none => false

def healthCheckPortInUse (serviceLister : ServiceLister) (port : Nat) : Except String Bool := do
  let serviceList ← serviceLister
  .ok (serviceList.any fun service => checksHealthOn service port)

/-- Rules that are not wanted are kept when the port is in use, or when this is unknown. -/
def keepsRules : Except String Bool → Bool
  | .ok inUse => inUse
  | .error _ => true

/-! ## Address blocks -/

/-- The address blocks of a subnet in the given IP families. -/
def subnetCidrs (ipFamilies : List IpVersion) (subnet : Subnet) : Finset String :=
  (if .ipv4 ∈ ipFamilies then subnet.cidrBlock.toList else []).toFinset ∪
  (if .ipv6 ∈ ipFamilies then subnet.ipv6CidrBlocks.getD [] else []).toFinset

def subnetsCidrs (ipFamilies : List IpVersion) (subnets : List SubnetWithLists) :
    Finset String :=
  subnets.foldl (fun cidrs subnet => cidrs ∪ subnetCidrs ipFamilies subnet.toSubnet) ∅

/-! ## Load balancer rules -/

/-- One rule in `getLoadBalancerIngressRules`. -/
def lbIngressStep (port : Nat) (serviceLister : ServiceLister)
    (st : List SecurityRule × Finset String) (rule : SecurityRule) :
    List SecurityRule × Finset String :=
  if ¬rule.PlainOnPort port then (st.1 ++ [rule], st.2)
  else if rule.cidr ∈ st.2 then (st.1 ++ [rule], st.2.erase rule.cidr)
  else if keepsRules (portInUse serviceLister port) then (st.1 ++ [rule], st.2)
  else st

def getLoadBalancerIngressRules (rules : List SecurityRule) (sourceCIDRs : List String)
    (port : Nat) (serviceLister : ServiceLister) : List SecurityRule :=
  let st := rules.foldl (lbIngressStep port serviceLister) ([], sourceCIDRs.toFinset)
  if st.2 = ∅ then st.1
  else st.1 ++ (sortedList st.2).map (makeIngressSecurityRule · port)

/-- One rule in `getLoadBalancerEgressRules`. A rule of the old port is dropped without
asking whether the port is in use. -/
def lbEgressStep (actualPort desiredPort : Nat) (serviceLister : ServiceLister)
    (st : List SecurityRule × Finset String) (rule : SecurityRule) :
    List SecurityRule × Finset String :=
  if desiredPort ≠ actualPort ∧ rule.OnPort actualPort then st
  else if ¬rule.PlainOnPort desiredPort then (st.1 ++ [rule], st.2)
  else if rule.cidr ∈ st.2 then (st.1 ++ [rule], st.2.erase rule.cidr)
  else if keepsRules (healthCheckPortInUse serviceLister desiredPort) then (st.1 ++ [rule], st.2)
  else st

def getLoadBalancerEgressRules (rules : List SecurityRule) (nodeSubnets : List SubnetWithLists)
    (actualPort desiredPort : Nat) (serviceLister : ServiceLister)
    (ipFamilies : List IpVersion) : List SecurityRule :=
  let st := rules.foldl (lbEgressStep actualPort desiredPort serviceLister)
    ([], subnetsCidrs ipFamilies nodeSubnets)
  if st.2 = ∅ then st.1
  else st.1 ++ (sortedList st.2).map (makeEgressSecurityRule · desiredPort)

/-! ## Node rules -/

def portRangeMatchesSpec (r : PortRange) (ports : Option PortSpec) : Bool :=
  match ports with
  | none => false
  | some ports =>
    (r.min = ports.backendPort && r.max = ports.backendPort) ||
      (r.min = ports.healthCheckerPort && r.max = ports.healthCheckerPort)

/-- The kept rules and the address blocks still wanted for backends and health checks. -/
structure NodeIngressState where
  ingressRules : List SecurityRule
  desiredBackend : Finset String
  desiredHealthChecker : Finset String

/-- Is this a rule for a single port that the old ports had and the new ones lack? -/
def isOldPortRule (actualPorts : Option PortSpec) (desiredPorts : PortSpec)
    (rule : SecurityRule) : Bool :=
  -- 0 denotes nil ports
  let currentBackEndPort := (actualPorts.map (·.backendPort)).getD 0
  let currentHealthCheckPort := (actualPorts.map (·.healthCheckerPort)).getD 0
  match rule.destination with
  | none => false
  | some r =>
    r.min = r.max && r.min ≠ desiredPorts.backendPort && r.min ≠ desiredPorts.healthCheckerPort &&
      (r.min = currentBackEndPort || r.min = currentHealthCheckPort)

/-- One rule in `getNodeIngressRules`. -/
def nodeIngressStep (actualPorts : Option PortSpec) (desiredPorts : PortSpec)
    (serviceLister : ServiceLister) (st : NodeIngressState) (rule : SecurityRule) :
    NodeIngressState :=
  let keep := { st with ingressRules := st.ingressRules ++ [rule] }
  if isOldPortRule actualPorts desiredPorts rule then st
  else match rule.plainDestination with
    | none => keep
    | some r =>
      if !(portRangeMatchesSpec r (some desiredPorts) || portRangeMatchesSpec r actualPorts) then
        keep
      else if r.max = desiredPorts.backendPort ∧ rule.cidr ∈ st.desiredBackend then
        { keep with desiredBackend := st.desiredBackend.erase rule.cidr }
      else if r.max = desiredPorts.healthCheckerPort ∧ rule.cidr ∈ st.desiredHealthChecker then
        { keep with desiredHealthChecker := st.desiredHealthChecker.erase rule.cidr }
      else if r.max = desiredPorts.healthCheckerPort ∧
          keepsRules (healthCheckPortInUse serviceLister desiredPorts.healthCheckerPort) then keep
      else st

/-- The sources that may reach the backends: the load balancer, and the clients themselves
when their addresses are preserved. -/
def backendCidrs (lbSubnets : List SubnetWithLists) (sourceCIDRs : List String)
    (isPreserveSource : Bool) (ipFamilies : List IpVersion) : Finset String :=
  if isPreserveSource then subnetsCidrs ipFamilies lbSubnets ∪ sourceCIDRs.toFinset
  else subnetsCidrs ipFamilies lbSubnets

def getNodeIngressRules (rules : List SecurityRule) (lbSubnets : List SubnetWithLists)
    (actualPorts : Option PortSpec) (desiredPorts : PortSpec) (serviceLister : ServiceLister)
    (sourceCIDRs : List String) (isPreserveSource : Bool) (ipFamilies : List IpVersion) :
    List SecurityRule :=
  let st := rules.foldl (nodeIngressStep actualPorts desiredPorts serviceLister)
    { ingressRules := []
      desiredBackend := backendCidrs lbSubnets sourceCIDRs isPreserveSource ipFamilies
      desiredHealthChecker := subnetsCidrs ipFamilies lbSubnets }
  if st.desiredBackend = ∅ ∧ st.desiredHealthChecker = ∅ then st.ingressRules
  else st.ingressRules ++
    -- the backend port is 0 when there are no backends
    (if desiredPorts.backendPort ≠ 0 then
      (sortedList st.desiredBackend).map (makeIngressSecurityRule · desiredPorts.backendPort)
      else []) ++
    (if desiredPorts.healthCheckerPort ≠ 0 then
      (sortedList st.desiredHealthChecker).map
        (makeIngressSecurityRule · desiredPorts.healthCheckerPort)
      else [])

end OciCcm.SecurityLists
