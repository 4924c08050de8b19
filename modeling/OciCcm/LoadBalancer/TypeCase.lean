import OciCcm.LoadBalancer.FullSpec

/-! # The letter case of the type

The functions that read a service take the value of its type annotation in lower
case, but for the one that decides on source preservation. We follow two services
that differ in the letter case of the value through all steps of a specification.
-/

namespace OciCcm.LoadBalancer

open Go Kubernetes Tags NetworkSecurityGroups

variable {RuleSet : Type} {svc : Service}

/-- Services that differ in the value of the type annotation only, where both values are `nlb` in
some letter case, or none is. -/
structure SameButType (svc svc' : Service) : Prop where
  fields : svc' = { svc with annotations := svc'.annotations }
  lookup : ∀ key, key ≠ serviceAnnotationLoadBalancerType →
    svc'.annotations.lookup key = svc.annotations.lookup key
  nlb : toLower (svc'.annotation serviceAnnotationLoadBalancerType) = "nlb" ↔
    toLower (svc.annotation serviceAnnotationLoadBalancerType) = "nlb"

theorem sameButType_insert {v : String}
    (hcase : toLower v = toLower (svc.annotation serviceAnnotationLoadBalancerType)) :
    SameButType svc { svc with
      annotations := svc.annotations.insert serviceAnnotationLoadBalancerType v } where
  fields := rfl
  lookup key hkey := AList.lookup_insert_ne hkey
  nlb := by
    rw [Service.annotation, AList.lookup_insert, Option.getD_some, hcase]

namespace SameButType

variable {svc svc' : Service} (h : SameButType svc svc')
include h

/-! ## Steps that read the type in lower case -/

theorem getLoadBalancerType_eq : getLoadBalancerType svc' = getLoadBalancerType svc := by
  simp only [getLoadBalancerType, h.nlb]

theorem annotation_eq {key : String} (hkey : key ≠ serviceAnnotationLoadBalancerType) :
    svc'.annotation key = svc.annotation key := by
  rw [Service.annotation, h.lookup key hkey, Service.annotation]

theorem byType_eq {α : Type} (nlb lb : α) : byType svc' nlb lb = byType svc nlb lb := by
  rw [byType, h.getLoadBalancerType_eq, byType]

theorem lookup_byType_eq {nlb lb : String} (hnlb : nlb ≠ serviceAnnotationLoadBalancerType)
    (hlb : lb ≠ serviceAnnotationLoadBalancerType) :
    svc'.annotations.lookup (byType svc nlb lb) = svc.annotations.lookup (byType svc nlb lb) := by
  refine h.lookup _ ?_
  unfold byType
  split
  · exact hnlb
  · exact hlb

theorem getSecurityListManagementMode_eq :
    getSecurityListManagementMode svc' = getSecurityListManagementMode svc := by
  unfold getSecurityListManagementMode
  rw [h.getLoadBalancerType_eq, h.lookup _ (by decide), h.lookup _ (by decide)]

theorem getRuleManagementMode_eq : getRuleManagementMode svc' = getRuleManagementMode svc := by
  unfold getRuleManagementMode
  rw [h.getSecurityListManagementMode_eq, h.lookup _ (by decide)]

theorem validateService_eq : validateService svc' = validateService svc := by
  unfold validateService
  rw [h.getSecurityListManagementMode_eq, h.getLoadBalancerType_eq, h.fields]

theorem isInternalLB_eq : isInternalLB svc' = isInternalLB svc := by
  unfold isInternalLB
  rw [h.byType_eq]
  dsimp only
  rw [h.lookup_byType_eq (by decide) (by decide)]

theorem getLBShape_eq (existingLB : Option ExistingShape) :
    getLBShape svc' existingLB = getLBShape svc existingLB := by
  unfold getLBShape flexibleShape
  rw [h.getLoadBalancerType_eq, h.lookup _ (by decide), h.lookup _ (by decide),
    h.lookup _ (by decide)]

theorem getLoadBalancerSourceRanges_eq (lib : Library RuleSet) :
    getLoadBalancerSourceRanges lib svc' = getLoadBalancerSourceRanges lib svc := by
  unfold getLoadBalancerSourceRanges serviceSourceRanges
  rw [h.annotation_eq (by decide), h.fields]
  rfl

theorem getRuleSets_eq (lib : Library RuleSet) : getRuleSets lib svc' = getRuleSets lib svc := by
  unfold getRuleSets
  rw [h.getLoadBalancerType_eq, h.lookup _ (by decide)]

theorem checkedRuleSets_eq (lib : Library RuleSet) :
    checkedRuleSets lib svc' = checkedRuleSets lib svc := by
  unfold checkedRuleSets
  rw [h.getRuleSets_eq]

theorem connectionSetting_eq {key : String} (hkey : key ≠ serviceAnnotationLoadBalancerType) :
    connectionSetting svc' key = connectionSetting svc key := by
  unfold connectionSetting
  rw [h.annotation_eq hkey]

theorem ociListener_eq (lib : Library RuleSet) : ociListener lib svc' = ociListener lib svc := by
  funext sslCfg connectionIdleTimeout proxyProtocolVersion rs servicePort
  unfold ociListener listenerProtocol listenerSSL
  rw [h.lookup _ (by decide), h.annotation_eq (by decide)]

theorem getListeners_eq (lib : Library RuleSet) (sslCfg : Option SSLConfig)
    (listenerBackendIpVersion : List IpVersion) :
    getListeners lib svc' sslCfg listenerBackendIpVersion =
      getListeners lib svc sslCfg listenerBackendIpVersion := by
  unfold getListeners
  rw [h.getLoadBalancerType_eq]
  cases getLoadBalancerType svc with
  | nlb =>
    dsimp only
    unfold getListenersNetworkLoadBalancer enablePpv2
    rw [h.lookup _ (by decide), h.fields]
    rfl
  | lb =>
    dsimp only
    unfold getListenersOciLoadBalancer ruleSetNames
    rw [h.connectionSetting_eq (by decide), h.connectionSetting_eq (by decide), h.getRuleSets_eq,
      h.ociListener_eq, h.fields]

theorem getLoadBalancerPolicy_eq : getLoadBalancerPolicy svc' = getLoadBalancerPolicy svc := by
  unfold getLoadBalancerPolicy
  rw [h.getLoadBalancerType_eq, h.lookup _ (by decide), h.lookup _ (by decide)]

theorem intSetting_eq {nlb lb : String} (hnlb : nlb ≠ serviceAnnotationLoadBalancerType)
    (hlb : lb ≠ serviceAnnotationLoadBalancerType) (dflt : Int) :
    intSetting svc' (byType svc nlb lb) dflt = intSetting svc (byType svc nlb lb) dflt := by
  unfold intSetting
  rw [h.lookup_byType_eq hnlb hlb]

theorem getHealthChecker_eq : getHealthChecker svc' = getHealthChecker svc := by
  have hretries : getHealthCheckRetries svc' = getHealthCheckRetries svc := by
    unfold getHealthCheckRetries
    rw [h.byType_eq, h.intSetting_eq (by decide) (by decide)]
  have htimeout : getHealthCheckTimeout svc' = getHealthCheckTimeout svc := by
    unfold getHealthCheckTimeout
    rw [h.byType_eq, h.intSetting_eq (by decide) (by decide)]
  have hinterval : getHealthCheckInterval svc' = getHealthCheckInterval svc := by
    unfold getHealthCheckInterval
    rw [h.byType_eq, h.byType_eq, h.byType_eq]
    dsimp only
    rw [h.intSetting_eq (by decide) (by decide), h.lookup_byType_eq (by decide) (by decide)]
  unfold getHealthChecker
  rw [hretries, htimeout, hinterval, h.lookup _ (by decide), h.fields]
  rfl

theorem backendSetEntry_eq (lib : Library RuleSet) :
    backendSetEntry lib svc' = backendSetEntry lib svc := by
  funext nodes sslCfg isPreserveSource versions policy entry
  unfold backendSetEntry backendSetSSL
  rw [h.getLoadBalancerType_eq, h.annotation_eq (by decide), h.getHealthChecker_eq]

theorem getBackendSets_eq (lib : Library RuleSet) (o : RangeOrder.{0}) (nodes : List Node)
    (sslCfg : Option SSLConfig) (isPreserveSource : Bool) (versions : List IpVersion) :
    getBackendSets lib o svc' nodes sslCfg isPreserveSource versions =
      getBackendSets lib o svc nodes sslCfg isPreserveSource versions := by
  unfold getBackendSets
  rw [h.getLoadBalancerPolicy_eq, h.backendSetEntry_eq, h.fields]
  rfl

theorem getPorts_eq (o : RangeOrder.{0}) (versions : List IpVersion) :
    getPorts o svc' versions = getPorts o svc versions := by
  unfold getPorts portsEntry
  rw [h.getHealthChecker_eq, h.fields]
  rfl

theorem getNetworkSecurityGroupIds_eq :
    getNetworkSecurityGroupIds svc' = getNetworkSecurityGroupIds svc := by
  unfold getNetworkSecurityGroupIds nsgIdsOf
  rw [h.getLoadBalancerType_eq]
  cases getLoadBalancerType svc with
  | nlb => rw [h.annotation_eq (by decide)]
  | lb => rw [h.annotation_eq (by decide)]

theorem getManagedBackendNSG_eq : getManagedBackendNSG svc' = getManagedBackendNSG svc := by
  unfold getManagedBackendNSG nsgIdsOf
  rw [h.annotation_eq (by decide)]

theorem getLoadBalancerIP_eq (lib : ProvisioningLibrary RuleSet) :
    getLoadBalancerIP lib svc' = getLoadBalancerIP lib svc := by
  unfold getLoadBalancerIP
  rw [h.isInternalLB_eq, h.fields]

theorem getLoadBalancerTags_eq (lib : ProvisioningLibrary RuleSet)
    (initialTags : Option InitialTags) :
    getLoadBalancerTags lib svc' initialTags = getLoadBalancerTags lib svc initialTags := by
  unfold getLoadBalancerTags
  rw [h.byType_eq, h.byType_eq]
  iterate 6 rw [h.lookup _ (by decide)]

theorem getIngressIpMode_eq : getIngressIpMode svc' = getIngressIpMode svc := by
  unfold getIngressIpMode
  rw [h.lookup _ (by decide)]

theorem getAssignedPrivateIP_eq : getAssignedPrivateIP svc' = getAssignedPrivateIP svc := by
  unfold getAssignedPrivateIP
  rw [h.getLoadBalancerType_eq, h.lookup _ (by decide), h.lookup _ (by decide)]

end SameButType

/-! ## Source preservation -/

/-- A network load balancer for the service does not preserve sources, and this is no error. -/
def PreservesNoSource (svc : Service) : Prop :=
  match svc.externalTrafficPolicy with
  | some .cluster =>
    svc.annotations.lookup serviceAnnotationNetworkLoadBalancerIsPreserveSource = none
  | some .local => getPreserveSourceAnnotation svc = .ok false
  | none => ∃ enable, getPreserveSourceAnnotation svc = .ok enable

/-- The type as `getPreserveSource` reads it. -/
def IsWrittenNlb (svc : Service) : Prop :=
  svc.annotation serviceAnnotationLoadBalancerType = "nlb"

theorem getPreserveSource_of_not_isWrittenNlb (h : ¬IsWrittenNlb svc) :
    getPreserveSource svc = .ok false := by
  exact if_pos h

theorem isWrittenNlb_of_error {err : String} (h : getPreserveSource svc = .error err) :
    IsWrittenNlb svc := by
  by_contra hnlb
  rw [getPreserveSource_of_not_isWrittenNlb hnlb] at h
  cases h

theorem getPreserveSource_eq_ok_false_iff (h : IsWrittenNlb svc) :
    getPreserveSource svc = .ok false ↔ PreservesNoSource svc := by
  unfold IsWrittenNlb at h
  rw [getPreserveSource, if_neg (not_not_intro h)]
  unfold PreservesNoSource
  cases htraffic : svc.externalTrafficPolicy with
  | none =>
    cases getPreserveSourceAnnotation svc with
    | error err => simp [bind, Except.bind]
    | ok enable => simp [bind, Except.bind]
  | some policy =>
    cases policy with
    | cluster =>
      cases hsource : svc.annotations.lookup serviceAnnotationNetworkLoadBalancerIsPreserveSource with
      | none => simp [hsource, getPreserveSourceAnnotation, bind, Except.bind]
      | some v => simp
    | «local» =>
      cases getPreserveSourceAnnotation svc with
      | error err => simp [bind, Except.bind]
      | ok enable => simp [bind, Except.bind]

section

variable {svc svc' : Service} (h : SameButType svc svc')
include h

theorem SameButType.getPreserveSourceAnnotation_eq :
    getPreserveSourceAnnotation svc' = getPreserveSourceAnnotation svc := by
  unfold getPreserveSourceAnnotation
  rw [h.lookup _ (by decide)]

theorem SameButType.preservesNoSource_iff : PreservesNoSource svc' ↔ PreservesNoSource svc := by
  unfold PreservesNoSource
  rw [h.getPreserveSourceAnnotation_eq, h.lookup _ (by decide), h.fields]

/-- The two services are treated alike exactly if their types are written alike, or if there is
nothing to preserve. -/
theorem SameButType.getPreserveSource_eq_iff : getPreserveSource svc' = getPreserveSource svc ↔
    (IsWrittenNlb svc ↔ IsWrittenNlb svc') ∨ PreservesNoSource svc := by
  by_cases hnlb : IsWrittenNlb svc
  · by_cases hnlb' : IsWrittenNlb svc'
    · refine iff_of_true ?_ (.inl (iff_of_true hnlb hnlb'))
      unfold IsWrittenNlb at hnlb hnlb'
      rw [getPreserveSource, getPreserveSource, if_neg (not_not_intro hnlb),
        if_neg (not_not_intro hnlb'), h.getPreserveSourceAnnotation_eq, h.lookup _ (by decide),
        h.fields]
    · rw [getPreserveSource_of_not_isWrittenNlb hnlb', eq_comm,
        getPreserveSource_eq_ok_false_iff hnlb]
      simp [hnlb, hnlb']
  · by_cases hnlb' : IsWrittenNlb svc'
    · rw [getPreserveSource_of_not_isWrittenNlb hnlb, getPreserveSource_eq_ok_false_iff hnlb',
        h.preservesNoSource_iff]
      simp [hnlb, hnlb']
    · rw [getPreserveSource_of_not_isWrittenNlb hnlb, getPreserveSource_of_not_isWrittenNlb hnlb']
      simp [hnlb, hnlb']

end

/-! ## Two runs -/

/-- The steps of `newFullSpec` succeed, but for the one that decides on source preservation. -/
@[mk_iff otherStepsSucceed_iff_and]
structure OtherStepsSucceed (lib : ProvisioningLibrary RuleSet) (cfg : SpecConfig)
    (existingLB : Option ExistingShape) (r : Request) : Prop where
  valid : validateService r.service = .ok ()
  internal : ∃ internal, isInternalLB r.service = .ok internal
  shape : ∃ shape, getLBShape r.service existingLB = .ok shape
  sourceCIDRs : ∃ cidrs, getLoadBalancerSourceRanges lib.toLibrary r.service = .ok cidrs
  ruleSets : ∃ ruleSets, checkedRuleSets lib.toLibrary r.service = .ok ruleSets
  listeners : ∃ listeners, getListeners lib.toLibrary r.service r.sslConfig
    (convertOciIpVersionsToOciIpFamilies r.ipVersions.listenerBackendIpVersion) = .ok listeners
  backendSets : ∃ backendSets, getBackendSets lib.toLibrary r.backendSetsOrder r.service r.nodes
    r.sslConfig false
    (convertOciIpVersionsToOciIpFamilies r.ipVersions.listenerBackendIpVersion) = .ok backendSets
  ports : ∃ ports, getPorts r.portsOrder r.service
    (convertOciIpVersionsToOciIpFamilies r.ipVersions.listenerBackendIpVersion) = .ok ports
  networkSecurityGroupIds : ∃ ids, getNetworkSecurityGroupIds r.service = .ok ids
  loadBalancerIP : ∃ ip, getLoadBalancerIP lib r.service = .ok ip
  tags : ∃ tags, getLoadBalancerTags lib r.service cfg.initialLBTags = .ok tags
  ruleManagementMode : ∃ mode, getRuleManagementMode r.service = .ok mode
  backendNsgs : ∃ ids, getManagedBackendNSG r.service = .ok ids
  ingressIpMode : ∃ mode, getIngressIpMode r.service = .ok mode
  assigned : ∃ ips, getAssignedPrivateIP r.service = .ok ips

section

variable {lib : ProvisioningLibrary RuleSet} {cfg : SpecConfig} {existingLB : Option ExistingShape}
  {r : Request} {spec : FullSpec RuleSet}

theorem newFullSpec_succeeds_iff : (∃ spec, newFullSpec lib cfg existingLB r = .ok spec) ↔
    OtherStepsSucceed lib cfg existingLB r ∧ ∃ isPreserveSource,
      getPreserveSource r.service = .ok isPreserveSource := by
  constructor
  · rintro ⟨spec, h⟩
    simp only [newFullSpec, bind_eq_ok] at h
    obtain ⟨⟨⟩, hvalid, _, hinternal, _, hshape, _, hsourceCIDRs, _, hruleSets, _, hlisteners, _,
      hpreserve, _, hbackendSets, _, hports, _, hnsgs, _, hip, _, htags, _, hmode, _, hbackendNsgs, _,
      hingress, _, hassigned, -⟩ := h
    obtain ⟨_, hbackendSets', -⟩ := getBackendSets_congr hbackendSets r.backendSetsOrder false
    exact ⟨⟨mapError_ok.mp hvalid, ⟨_, hinternal⟩, ⟨_, hshape⟩, ⟨_, hsourceCIDRs⟩, ⟨_, hruleSets⟩,
      ⟨_, hlisteners⟩, ⟨_, hbackendSets'⟩, ⟨_, hports⟩, ⟨_, hnsgs⟩, ⟨_, hip⟩, ⟨_, htags⟩, ⟨_, hmode⟩,
      ⟨_, hbackendNsgs⟩, ⟨_, hingress⟩, ⟨_, hassigned⟩⟩, _, hpreserve⟩
  · rintro ⟨⟨hvalid, ⟨_, hinternal⟩, ⟨_, hshape⟩, ⟨_, hsourceCIDRs⟩, ⟨_, hruleSets⟩,
      ⟨_, hlisteners⟩, ⟨_, hbackendSets⟩, ⟨_, hports⟩, ⟨_, hnsgs⟩, ⟨_, hip⟩, ⟨_, htags⟩, ⟨_, hmode⟩,
      ⟨_, hbackendNsgs⟩, ⟨_, hingress⟩, ⟨_, hassigned⟩⟩, isPreserveSource, hpreserve⟩
    obtain ⟨_, hbackendSets', -⟩ :=
      getBackendSets_congr hbackendSets r.backendSetsOrder isPreserveSource
    simp only [newFullSpec, mapError_ok.mpr hvalid, hinternal, hshape, hsourceCIDRs, hruleSets,
      hlisteners, hpreserve, hbackendSets', hports, hnsgs, hip, htags, hmode, hbackendNsgs,
      hingress, hassigned, bind, Except.bind]
    exact ⟨_, rfl⟩

/-- The other steps do not tell the two services apart. -/
theorem SameButType.otherStepsSucceed_iff {svc' : Service} (h : SameButType r.service svc')
    (o o' : RangeOrder.{0}) :
    OtherStepsSucceed lib cfg existingLB
        { r with service := svc', backendSetsOrder := o, portsOrder := o' } ↔
      OtherStepsSucceed lib cfg existingLB r := by
  have hbackendSets : ∀ b versions,
      (∃ m, getBackendSets lib.toLibrary o svc' r.nodes r.sslConfig b versions = .ok m) ↔
      ∃ m, getBackendSets lib.toLibrary r.backendSetsOrder r.service r.nodes r.sslConfig b versions =
        .ok m := by
    intro b versions
    rw [h.getBackendSets_eq]
    constructor
    · rintro ⟨m, hm⟩
      obtain ⟨m', hm', -⟩ := getBackendSets_congr hm r.backendSetsOrder b
      exact ⟨m', hm'⟩
    · rintro ⟨m, hm⟩
      obtain ⟨m', hm', -⟩ := getBackendSets_congr hm o b
      exact ⟨m', hm'⟩
  have hports : ∀ versions, (∃ m, getPorts o' svc' versions = .ok m) ↔
      ∃ m, getPorts r.portsOrder r.service versions = .ok m := by
    intro versions
    rw [h.getPorts_eq]
    constructor
    · rintro ⟨m, hm⟩
      obtain ⟨m', hm', -⟩ := getPorts_congr hm r.portsOrder
      exact ⟨m', hm'⟩
    · rintro ⟨m, hm⟩
      obtain ⟨m', hm', -⟩ := getPorts_congr hm o'
      exact ⟨m', hm'⟩
  simp only [otherStepsSucceed_iff_and, h.validateService_eq, h.isInternalLB_eq, h.getLBShape_eq,
    h.getLoadBalancerSourceRanges_eq, h.checkedRuleSets_eq, h.getListeners_eq, hbackendSets, hports,
    h.getNetworkSecurityGroupIds_eq, h.getLoadBalancerIP_eq, h.getLoadBalancerTags_eq,
    h.getRuleManagementMode_eq, h.getManagedBackendNSG_eq, h.getIngressIpMode_eq,
    h.getAssignedPrivateIP_eq]

end

/-- What two specifications have to agree in. -/
structure SpecsAgree (spec spec' : FullSpec RuleSet) : Prop where
  type : spec'.type = spec.type
  listeners : ∀ name, spec'.listeners.lookup name = spec.listeners.lookup name
  backendSets : ∀ name, spec'.backendSets.lookup name = spec.backendSets.lookup name
  isPreserveSource : spec'.isPreserveSource = spec.isPreserveSource
  ports : ∀ name, spec'.ports.lookup name = spec.ports.lookup name
  sourceCIDRs : spec'.sourceCIDRs = spec.sourceCIDRs
  securityListManager : spec'.securityListManager = spec.securityListManager

/-- Two runs both fail, or both return specifications that agree. -/
def SameOutcome : Except String (FullSpec RuleSet) → Except String (FullSpec RuleSet) → Prop
  | .error _, .error _ => True
  | .ok spec, .ok spec' => SpecsAgree spec spec'
  | _, _ => False

theorem sameOutcome_iff_forall {x y : Except String (FullSpec RuleSet)} :
    SameOutcome x y ↔ ((∃ spec, x = .ok spec) ↔ ∃ spec', y = .ok spec') ∧
      ∀ spec spec', x = .ok spec → y = .ok spec' → SpecsAgree spec spec' := by
  cases x with
  | error err =>
    cases y with
    | error err' => simp [SameOutcome]
    | ok spec' => simp [SameOutcome]
  | ok spec =>
    cases y with
    | error err' => simp [SameOutcome]
    | ok spec' => simp [SameOutcome]

section

variable {lib : ProvisioningLibrary RuleSet} {cfg : SpecConfig} {existingLB : Option ExistingShape}
  {r : Request} {svc' : Service} {o o' : RangeOrder.{0}} {spec spec' : FullSpec RuleSet}

theorem SameButType.specsAgree_iff (h : SameButType r.service svc')
    (hspec : newFullSpec lib cfg existingLB r = .ok spec)
    (hspec' : newFullSpec lib cfg existingLB
      { r with service := svc', backendSetsOrder := o, portsOrder := o' } = .ok spec') :
    SpecsAgree spec spec' ↔ spec'.isPreserveSource = spec.isPreserveSource := by
  refine ⟨SpecsAgree.isPreserveSource, fun hpreserve => ?_⟩
  have hbuilt := builtFrom_of_newFullSpec hspec
  obtain ⟨-, hsourceCIDRs, -, hlisteners, -, hbackendSets, hports, hmode, htype, -⟩ :=
    builtFrom_of_newFullSpec hspec'
  rw [h.getLoadBalancerSourceRanges_eq, hbuilt.sourceCIDRs] at hsourceCIDRs
  rw [h.getListeners_eq, hbuilt.listeners] at hlisteners
  rw [h.getBackendSets_eq, hpreserve] at hbackendSets
  rw [h.getPorts_eq] at hports
  rw [h.getRuleManagementMode_eq, hbuilt.securityListManager] at hmode
  obtain ⟨ports, hports₁, hlookup⟩ := getPorts_congr hbuilt.ports o'
  obtain rfl := Except.ok.inj (hports.symm.trans hports₁)
  refine ⟨?_, fun name => ?_, lookup_getBackendSets_congr hbuilt.backendSets hbackendSets, hpreserve,
    hlookup, (Except.ok.inj hsourceCIDRs).symm, (Except.ok.inj hmode).symm⟩
  · rw [htype, h.getLoadBalancerType_eq, hbuilt.type]
  · rw [Except.ok.inj hlisteners]

/-- The letter case of the type does not matter exactly if it is the same as far as source
preservation is concerned, or there is nothing to preserve, or another step fails. -/
theorem sameOutcome_iff (h : SameButType r.service svc') :
    SameOutcome (newFullSpec lib cfg existingLB r) (newFullSpec lib cfg existingLB
      { r with service := svc', backendSetsOrder := o, portsOrder := o' }) ↔
    (OtherStepsSucceed lib cfg existingLB r →
      (IsWrittenNlb r.service ↔ IsWrittenNlb svc') ∨ PreservesNoSource r.service) := by
  rw [sameOutcome_iff_forall, newFullSpec_succeeds_iff, newFullSpec_succeeds_iff,
    h.otherStepsSucceed_iff, ← h.getPreserveSource_eq_iff]
  constructor
  · rintro ⟨hsucceeds, hagree⟩ hother
    simp only [hother, true_and] at hsucceeds
    cases hpreserve : getPreserveSource r.service with
    | error err =>
      -- both are errors, which come from types that are written `nlb`
      cases hpreserve' : getPreserveSource svc' with
      | error err' =>
        rw [← hpreserve, ← hpreserve', h.getPreserveSource_eq_iff]
        exact .inl (iff_of_true (isWrittenNlb_of_error hpreserve) (isWrittenNlb_of_error hpreserve'))
      | ok b => simp [hpreserve, hpreserve'] at hsucceeds
    | ok b =>
      obtain ⟨b', hb'⟩ := hsucceeds.mp ⟨b, hpreserve⟩
      obtain ⟨spec, hspec⟩ := newFullSpec_succeeds_iff.mpr ⟨hother, b, hpreserve⟩
      obtain ⟨spec', hspec'⟩ := newFullSpec_succeeds_iff.mpr
        ⟨(h.otherStepsSucceed_iff o o').mpr hother, b', hb'⟩
      have heq := (hagree spec spec' hspec hspec').isPreserveSource
      have hb := (builtFrom_of_newFullSpec hspec).isPreserveSource
      have hb' := (builtFrom_of_newFullSpec hspec').isPreserveSource
      rw [← hpreserve, hb, ← heq, hb']
  · intro hsame
    refine ⟨and_congr_right fun hother => ?_, fun spec spec' hspec hspec' => ?_⟩
    · rw [← hsame hother]
    · rw [h.specsAgree_iff hspec hspec']
      have hother := (newFullSpec_succeeds_iff.mp ⟨spec, hspec⟩).1
      have hb := (builtFrom_of_newFullSpec hspec).isPreserveSource
      have hb' := (builtFrom_of_newFullSpec hspec').isPreserveSource
      exact Except.ok.inj (hb'.symm.trans ((hsame hother).trans hb))

end

/-- A service with a type and a traffic policy. -/
def typedService (type : String) (policy : ExternalTrafficPolicy) : Service where
  annotations := .ofPairs [(serviceAnnotationLoadBalancerType, type)]
  ports := [⟨.tcp, 80, 30080⟩]
  externalTrafficPolicy := some policy

theorem sameButType_typedService (policy : ExternalTrafficPolicy) :
    SameButType (typedService "nlb" policy) (typedService "NLB" policy) := by
  have hcase : toLower "NLB" = toLower "nlb" := by decide +kernel
  have h : SameButType (typedService "nlb" policy) { typedService "nlb" policy with
      annotations := (typedService "nlb" policy).annotations.insert
        serviceAnnotationLoadBalancerType "NLB" } := sameButType_insert hcase
  exact h

/-- When traffic is not kept local the letter case does not matter. -/
theorem sameOutcome_typedService : SameOutcome
    (newFullSpec .simple { compartmentID := "c" } none (ipv4Request (typedService "nlb" .cluster)))
    (newFullSpec .simple { compartmentID := "c" } none
      (ipv4Request (typedService "NLB" .cluster))) :=
  (sameOutcome_iff (r := ipv4Request (typedService "nlb" .cluster)) (o := .stored)
    (sameButType_typedService .cluster)).mpr fun _ => .inr rfl

/-- Else sources are preserved for the type in lower case only. -/
theorem not_sameOutcome_typedService : ¬SameOutcome
    (newFullSpec .simple { compartmentID := "c" } none (ipv4Request (typedService "nlb" .local)))
    (newFullSpec .simple { compartmentID := "c" } none
      (ipv4Request (typedService "NLB" .local))) := by
  intro h
  have hpreserve := SpecsAgree.isPreserveSource h
  exact absurd hpreserve (by decide +kernel)

end OciCcm.LoadBalancer
