import OciCcm.LoadBalancer.Provisioning
import OciCcm.NetworkSecurityGroups.Service

/-! # Whole specifications of load balancers

`NewLBSpec` with all of its steps, in their order. What it returns extends the
specifications of the other modules, which are built from some of the steps.
-/

namespace OciCcm.LoadBalancer

open Go Kubernetes Tags NetworkSecurityGroups

variable {RuleSet : Type}

/-- The settings of the controller that a specification depends on. -/
structure SpecConfig extends ProviderConfig where
  enableOkeSystemTags : Bool := false
  initialLBTags : Option InitialTags := none

structure FullSpec (RuleSet : Type) extends NsgSpec RuleSet where
  shape : Shape
  internal : Bool
  loadBalancerIP : String
  sslConfig : Option SSLConfig
  /-- The fields `FreeformTags` and `DefinedTags`. -/
  tags : TagConfig
  systemTags : Option DefinedTags
  ingressIpMode : Option LoadBalancerIPMode
  assignedPrivateIpv4 : Option String
  assignedIpv6 : Option String

def newFullSpec (lib : ProvisioningLibrary RuleSet) (cfg : SpecConfig)
    (existingLB : Option ExistingShape) (r : Request) : Except String (FullSpec RuleSet) := do
  let svc := r.service
  (validateService svc).mapError (wrap "invalid service")
  let internal ← isInternalLB svc
  let shape ← getLBShape svc existingLB
  let sourceCIDRs ← getLoadBalancerSourceRanges lib.toLibrary svc
  let ruleSets ← checkedRuleSets lib.toLibrary svc
  let ipFamilies := convertOciIpVersionsToOciIpFamilies r.ipVersions.listenerBackendIpVersion
  let listeners ← getListeners lib.toLibrary svc r.sslConfig ipFamilies
  let isPreserveSource ← getPreserveSource svc
  let backendSets ← getBackendSets lib.toLibrary r.backendSetsOrder svc r.nodes r.sslConfig
    isPreserveSource ipFamilies
  let ports ← getPorts r.portsOrder svc ipFamilies
  let networkSecurityGroupIds ← getNetworkSecurityGroupIds svc
  let loadBalancerIP ← getLoadBalancerIP lib svc
  let lbTags ← getLoadBalancerTags lib svc cfg.initialLBTags
  let ruleManagementMode ← getRuleManagementMode svc
  let backendNsgOcids ← getManagedBackendNSG svc
  let ingressIpMode ← getIngressIpMode svc
  let (assignedPrivateIpv4, assignedIpv6) ← getAssignedPrivateIP svc
  .ok { type := getLoadBalancerType svc
        name := getLoadBalancerName cfg.lbNamePrefix svc
        shape
        internal
        subnets := r.lbSubnetIds
        listeners
        backendSets
        loadBalancerIP
        isPreserveSource
        ports
        sslConfig := r.sslConfig
        sourceCIDRs
        networkSecurityGroupIds
        backendNsgId := if ruleManagementMode = .nsg then backendNsgOcids else []
        service := svc
        nodes := r.nodes
        securityListManager := ruleManagementMode
        ipVersions := r.ipVersions
        tags := withCommonTags cfg.enableOkeSystemTags cfg.initialLBTags lbTags
        systemTags := getResourceTrackingSystemTagsFromConfig cfg.initialLBTags
        ingressIpMode
        compartment := getLoadBalancerCompartment svc cfg.compartmentID
        ruleSets
        assignedPrivateIpv4
        assignedIpv6 }

/-! ## The steps of a specification -/

variable {lib : ProvisioningLibrary RuleSet} {cfg : SpecConfig} {existingLB : Option ExistingShape}
  {r : Request} {spec : FullSpec RuleSet}

theorem newNsgSpec_of_newFullSpec (h : newFullSpec lib cfg existingLB r = .ok spec) :
    newNsgSpec lib.toLibrary cfg.toProviderConfig r = .ok spec.toNsgSpec := by
  simp only [newFullSpec, bind_eq_ok] at h
  obtain ⟨⟨⟩, hvalid, _, -, _, -, _, hsourceCIDRs, _, hruleSets, _, hlisteners, _, hpreserve, _,
    hbackendSets, _, hports, _, hnsgs, _, -, _, -, _, hmode, _, hbackendNsgs, _, -, ⟨_, _⟩, -, h⟩ := h
  cases h
  simp only [newNsgSpec, newLBSpec, hvalid, hsourceCIDRs, hruleSets, hlisteners, hpreserve,
    hbackendSets, hports, hmode, hnsgs, hbackendNsgs, bind, Except.bind]

theorem builtFrom_of_newFullSpec (h : newFullSpec lib cfg existingLB r = .ok spec) :
    BuiltFrom lib.toLibrary r.backendSetsOrder r.portsOrder r.service r.nodes r.sslConfig
      r.ipVersions spec.toLBSpec := by
  obtain ⟨_, hspec, h⟩ := bind_ok (newNsgSpec_of_newFullSpec h)
  obtain ⟨_, -, h⟩ := bind_ok h
  obtain ⟨_, -, h⟩ := bind_ok h
  have heq := congrArg NsgSpec.toLBSpec (Except.ok.inj h)
  exact heq ▸ newLBSpec_ok hspec

/-! ## UDP

The check of the protocols knows only the mode of the security lists.
-/

theorem none_of_validateProtocols {servicePorts : List ServicePort} {lbType : LBType}
    {mode : ManagementMode} (h : validateProtocols servicePorts lbType mode = .ok ())
    {p : ServicePort} (hp : p ∈ servicePorts) (hudp : p.protocol = .udp) : mode = .none := by
  induction servicePorts with
  | nil => cases hp
  | cons q servicePorts ih =>
    obtain ⟨⟨⟩, hq, h⟩ := bind_ok h
    rcases List.mem_cons.mp hp with rfl | hp
    · by_contra hmode
      cases lbType with
      | lb => simp [hudp] at hq
      | nlb => simp [hudp, hmode] at hq
    · exact ih h hp

theorem getSecurityListManagementMode_of_udp {svc : Service} (h : validateService svc = .ok ())
    {p : ServicePort} (hp : p ∈ svc.ports) (hudp : p.protocol = .udp) :
    getSecurityListManagementMode svc = .ok .none := by
  obtain ⟨mode, hmode, h⟩ := bind_ok h
  obtain ⟨⟨⟩, hprotocols, -⟩ := bind_ok h
  rw [hmode, none_of_validateProtocols hprotocols hp hudp]

/-- The annotation of the rule management mode, if there is one, names no mode with rules. -/
def NoRulesByAnnotation (svc : Service) : Prop :=
  ∀ v, svc.annotations.lookup serviceAnnotationLoadBalancerSecurityRuleManagementMode = some v →
    toLower v ∉ [toLower "SL-All", toLower "SL-Frontend", toLower "NSG"]

/-- Of a service with a UDP port no rules are managed exactly if the annotation of the rule
management mode does not ask for them. -/
theorem securityListManager_eq_none_iff (h : newFullSpec lib cfg existingLB r = .ok spec)
    (hudp : ∃ p ∈ r.service.ports, p.protocol = .udp) :
    spec.securityListManager = .none ↔ NoRulesByAnnotation r.service := by
  obtain ⟨p, hp, hudp⟩ := hudp
  have hbuilt := builtFrom_of_newFullSpec h
  have hlists := getSecurityListManagementMode_of_udp hbuilt.valid hp hudp
  have hmode := hbuilt.securityListManager
  unfold getRuleManagementMode at hmode
  unfold NoRulesByAnnotation
  split at hmode
  · next hnone =>
    rw [hnone]
    exact iff_of_true (Except.ok.inj (hmode.symm.trans hlists)) (fun v hv => nomatch hv)
  · next v hv =>
    simp only [hv, Option.some.injEq, forall_eq', List.mem_cons, List.not_mem_nil, or_false, not_or]
    split_ifs at hmode with hall hfrontend hnsg hknown
    · simp [← Except.ok.inj hmode, hall]
    · simp [← Except.ok.inj hmode, hfrontend]
    · simp [← Except.ok.inj hmode, hnsg]
    · simp [← Except.ok.inj hmode, hall, hfrontend, hnsg]

def udpService (annotations : List (String × String)) : Service where
  annotations := .ofPairs ((serviceAnnotationLoadBalancerType, "nlb") :: annotations)
  ports := [⟨.udp, 53, 30053⟩]

/-- What is looked up for a service over IPv4 without nodes. -/
def ipv4Request (service : Service) : Request where
  service
  ipVersions := ⟨[.ipv4], .singleStack, .ipv4, [.ipv4]⟩

/-- Without annotations no rules are managed. -/
theorem securityListManager_udpService : ∃ spec,
    newFullSpec .simple { compartmentID := "c" } none (ipv4Request (udpService [])) = .ok spec ∧
      spec.securityListManager = .none := by
  have h : newFullSpec .simple { compartmentID := "c" } none (ipv4Request (udpService [])) =
    .ok _ := rfl
  refine ⟨_, h, (securityListManager_eq_none_iff h ⟨_, List.mem_cons_self, rfl⟩).mpr ?_⟩
  intro v hv
  exact nomatch hv

/-- With the annotation the rules of the service are kept in a network security group. -/
theorem securityListManager_udpService_nsg : ∃ spec,
    newFullSpec .simple { compartmentID := "c" } none (ipv4Request (udpService
      [(serviceAnnotationLoadBalancerSecurityRuleManagementMode, "NSG")])) = .ok spec ∧
      (∃ p ∈ spec.service.ports, p.protocol = .udp) ∧ spec.securityListManager ≠ .none :=
  ⟨_, rfl, ⟨_, List.mem_cons_self, rfl⟩, by decide +kernel⟩

end OciCcm.LoadBalancer
