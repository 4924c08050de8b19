import OciCcm.LoadBalancer.Annotations

/-! # Choosing IP versions

From the IP families and the family policy of a service and from the address
blocks of the subnets the controller chooses the IP version of the endpoint and
the IP versions of listeners and backend sets. A panic of the code is an error.
-/

namespace OciCcm.LoadBalancer

open Go Kubernetes

def getIpFamilies (svc : Service) : List IpVersion := svc.ipFamilies.map IpVersion.ofFamily

def getIpFamilyPolicy (svc : Service) : IPFamilyPolicy := svc.ipFamilyPolicy.getD .singleStack

/-- `(requireIPv4, requireIPv6)`. -/
def getRequireIpVersions (listenerBackendSetIpVersion : List IpVersion) : Bool × Bool :=
  (listenerBackendSetIpVersion.contains .ipv4, listenerBackendSetIpVersion.contains .ipv6)

def isServiceDualStack (svc : Service) : Bool :=
  match svc.ipFamilyPolicy with
  | some .requireDualStack | some .preferDualStack => true
  | _ => false

/-- One subnet's answer to the search: it is compatible, it is not and the error
is remembered, or reading it dereferences a nil pointer. -/
def subnetSupports (subnet : Subnet) (ipVersion : IpVersion) : Except String Bool :=
  if ipVersion = .ipv6 then
    if subnet.ipv6CidrBlock.isSome ∨ subnet.ipv6CidrBlocks.isSome then
      if subnet.ipv6CidrBlocks.getD [] ≠ [] then .ok true
      else match subnet.ipv6CidrBlock with
        | some block => .ok (block ≠ "")
        | none => .error "runtime error: invalid memory address or nil pointer dereference"
    else .ok false
  else match subnet.cidrBlock with
    | some block => .ok (!contains block "null")
    | none => .ok false

/-- The error of the last subnet when no subnet has a block of the IP version;
no error when some subnet has one, or when there is no subnet at all. -/
def checkSubnetIpFamilyCompatibility (subnets : List (Option Subnet)) (ipVersion : IpVersion) :
    Except String (Option String) :=
  go subnets none
where
  go : List (Option Subnet) → Option String → Except String (Option String)
    | [], err => .ok err
    | none :: rest, err => go rest err
    | some subnet :: rest, _ => do
      if ← subnetSupports subnet ipVersion then .ok none
      else go rest (some ("subnet with id " ++ subnet.id ++ " does not have an "
        ++ (if ipVersion = .ipv6 then "ipv6" else "ipv4") ++ " cidr block"))

/-- `ipFamilies[0]`. -/
def firstFamily (ipFamilies : List IpVersion) : Except String IpVersion :=
  match ipFamilies with
  | [] => .error "runtime error: index out of range [0] with length 0"
  | f :: _ => .ok f

/-- Fail with the wrapped error of a subnet check, if there is one. -/
def requireCidrBlocks (name : String) : Option String → Except String Unit
  | none => .ok ()
  | some err => .error (wrap ("subnet does not have " ++ name ++ " CIDR blocks") err)

def getLbEndpointIpVersion (ipFamilies : List IpVersion) (ipFamilyPolicy : IPFamilyPolicy)
    (lbSubnets : List (Option Subnet)) : Except String IpVersion := do
  let errIPv6Subnet ← checkSubnetIpFamilyCompatibility lbSubnets .ipv6
  let errIPv4Subnet ← checkSubnetIpFamilyCompatibility lbSubnets .ipv4
  match ipFamilyPolicy with
  | .singleStack =>
    let family ← firstFamily ipFamilies
    if family = .ipv6 then
      requireCidrBlocks "IPv6" errIPv6Subnet
      .ok .ipv6
    else
      requireCidrBlocks "IPv4" errIPv4Subnet
      .ok .ipv4
  | .requireDualStack =>
    requireCidrBlocks "IPv6" errIPv6Subnet
    requireCidrBlocks "IPv4" errIPv4Subnet
    .ok .ipv4AndIPv6
  | .preferDualStack =>
    if errIPv4Subnet.isSome ∧ errIPv6Subnet.isSome then
      .error "subnet does not have IPv4 or IPv6 cidr, can't create loadbalancer"
    else if errIPv4Subnet.isSome then .ok .ipv6
    else if errIPv6Subnet.isSome then .ok .ipv4
    else .ok .ipv4AndIPv6

def getLbListenerBackendSetIpVersion (ipFamilies : List IpVersion)
    (ipFamilyPolicy : IPFamilyPolicy) (nodeSubnets : List (Option Subnet)) :
    Except String (List IpVersion) := do
  let errIPv6Subnet ← checkSubnetIpFamilyCompatibility nodeSubnets .ipv6
  let errIPv4Subnet ← checkSubnetIpFamilyCompatibility nodeSubnets .ipv4
  match ipFamilyPolicy with
  | .singleStack =>
    let family ← firstFamily ipFamilies
    if family = .ipv6 then
      requireCidrBlocks "IPv6" errIPv6Subnet
      .ok [.ipv6]
    else
      requireCidrBlocks "IPv4" errIPv4Subnet
      .ok [.ipv4]
  | .requireDualStack =>
    requireCidrBlocks "IPv6" errIPv6Subnet
    requireCidrBlocks "IPv4" errIPv4Subnet
    .ok [.ipv4, .ipv6]
  | .preferDualStack =>
    if errIPv6Subnet.isSome ∧ errIPv4Subnet.isSome then
      .error "subnet does not have IPv4 or IPv6 cidr, can't create loadbalancer"
    else if errIPv6Subnet.isSome then .ok [.ipv4]
    else if errIPv4Subnet.isSome then .ok [.ipv6]
    else .ok [.ipv4, .ipv6]

/-- A load balancer serves IPv4 backends only, and never an IPv6 endpoint alone. -/
def lbaasIpVersion (service : Service) (lbEndpointVersion : IpVersion)
    (listenerBackendIpVersion : List IpVersion) : Except String (List IpVersion) :=
  if getLoadBalancerType service = .lb then
    if lbEndpointVersion = .ipv6 then .error "SingleStack IPv6 is not supported for OCI LBaaS"
    else .ok [.ipv4]
  else .ok listenerBackendIpVersion

def getOciIpVersions (lbSubnets nodeSubnets : List (Option Subnet)) (service : Service) :
    Except String IpVersions := do
  let ipFamilies := getIpFamilies service
  let ipFamilyPolicy := getIpFamilyPolicy service
  let lbEndpointVersion ← getLbEndpointIpVersion ipFamilies ipFamilyPolicy lbSubnets
  let listenerBackendIpVersion ←
    getLbListenerBackendSetIpVersion ipFamilies ipFamilyPolicy nodeSubnets
  let listenerBackendIpVersion ←
    lbaasIpVersion service lbEndpointVersion listenerBackendIpVersion
  .ok { ipFamilies, ipFamilyPolicy, lbEndpointIpVersion := lbEndpointVersion,
        listenerBackendIpVersion }

/-- The IP versions of listeners and backend sets as a list of IP families. -/
def convertOciIpVersionsToOciIpFamilies (ipVersions : List IpVersion) : List IpVersion :=
  if ipVersions = [] then [.ipv4] else ipVersions

/-! ## The chosen versions -/

theorem getLbListenerBackendSetIpVersion_ok {ipFamilies : List IpVersion}
    {ipFamilyPolicy : IPFamilyPolicy} {nodeSubnets : List (Option Subnet)} {vs : List IpVersion}
    (h : getLbListenerBackendSetIpVersion ipFamilies ipFamilyPolicy nodeSubnets = .ok vs) :
    vs = [.ipv4] ∨ vs = [.ipv6] ∨ vs = [.ipv4, .ipv6] := by
  obtain ⟨err6, -, h⟩ := bind_ok h
  obtain ⟨err4, -, h⟩ := bind_ok h
  cases ipFamilyPolicy with
  | singleStack =>
    obtain ⟨family, -, h⟩ := bind_ok h
    split at h
    · obtain ⟨-, -, h⟩ := bind_ok h
      exact .inr (.inl (Except.ok.inj h).symm)
    · obtain ⟨-, -, h⟩ := bind_ok h
      exact .inl (Except.ok.inj h).symm
  | requireDualStack =>
    obtain ⟨-, -, h⟩ := bind_ok h
    obtain ⟨-, -, h⟩ := bind_ok h
    exact .inr (.inr (Except.ok.inj h).symm)
  | preferDualStack =>
    simp only at h
    split at h
    · cases h
    · split at h
      · exact .inl (Except.ok.inj h).symm
      · split at h
        · exact .inr (.inl (Except.ok.inj h).symm)
        · exact .inr (.inr (Except.ok.inj h).symm)

/-- Listeners and backend sets get one of both IP versions or both, and IPv4 alone on a
load balancer. -/
theorem getOciIpVersions_ok {lbSubnets nodeSubnets : List (Option Subnet)} {svc : Service}
    {v : IpVersions} (h : getOciIpVersions lbSubnets nodeSubnets svc = .ok v) :
    (v.listenerBackendIpVersion = [.ipv4] ∨ v.listenerBackendIpVersion = [.ipv6] ∨
      v.listenerBackendIpVersion = [.ipv4, .ipv6]) ∧
    (getLoadBalancerType svc = .lb → v.listenerBackendIpVersion = [.ipv4]) := by
  obtain ⟨endpoint, -, h⟩ := bind_ok h
  obtain ⟨chosen, hchosen, h⟩ := bind_ok h
  obtain ⟨vs, hvs, h⟩ := bind_ok h
  cases h
  unfold lbaasIpVersion at hvs
  split at hvs
  · split at hvs
    · cases hvs
    · cases hvs
      exact ⟨.inl rfl, fun _ => rfl⟩
  · next hnlb =>
      cases hvs
      exact ⟨getLbListenerBackendSetIpVersion_ok hchosen, fun hlb => absurd hlb hnlb⟩

end OciCcm.LoadBalancer
