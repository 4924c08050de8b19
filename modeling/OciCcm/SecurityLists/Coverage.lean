import OciCcm.Go.Latch
import OciCcm.SecurityLists.Passes

/-! # The rules that a change leaves

Whether a list has a rule for a port and an address block is a latch: each of
the functions that compute rules anew sets it, resets it or leaves it alone,
whatever the other rules of the list. This file says which, first for the
functions and then for a whole change of the rules by a manager.
-/

namespace OciCcm.SecurityLists

open Go Kubernetes LoadBalancer BaseSecurityListManager
open Latch (Event)

theorem not_rulesChanged_iff {existingRules rules : List SecurityRule} :
    ¬rulesChanged existingRules rules ↔
      rules.length = existingRules.length ∧ ∀ rule ∈ rules, rule ∈ existingRules := by
  simp [rulesChanged]

theorem rulesChanged_self (rules : List SecurityRule) : rulesChanged rules rules = false := by
  simp [rulesChanged]

theorem eq_of_not_rulesChanged {rules kept new : List SecurityRule} (hkept : kept.Sublist rules)
    (hnew : ∀ rule ∈ new, rule ∉ rules) (h : ¬rulesChanged rules (kept ++ new)) :
    kept ++ new = rules := by
  obtain ⟨hlength, hmem⟩ := not_rulesChanged_iff.mp h
  have hnil : new = [] := by
    rw [List.eq_nil_iff_forall_not_mem]
    exact fun rule hrule => hnew rule hrule (hmem rule (List.mem_append_right _ hrule))
  rw [hnil, List.append_nil] at hlength ⊢
  exact hkept.eq_of_length hlength

theorem covered_perm {rules rules' : List SecurityRule} (h : rules.Perm rules') {port : Nat}
    {cidr : String} : Covered rules port cidr ↔ Covered rules' port cidr := by
  unfold Covered
  simp only [h.mem_iff]

/-! ## Load balancer rules -/

section LbIngress

variable {rules : List SecurityRule} {sourceCIDRs : List String} {p port : Nat}
  {lister : ServiceLister} {cidr : String}

/-- What `getLoadBalancerIngressRules` for the port `p` does. -/
def lbIngressEvent (lister : ServiceLister) (sourceCIDRs : List String) (p port : Nat)
    (cidr : String) : Event :=
  if port ≠ p then .hold
  else if cidr ∈ sourceCIDRs then .set
  else if keepsRules (portInUse lister p) then .hold
  else .reset

theorem covered_lbIngress :
    Covered (getLoadBalancerIngressRules rules sourceCIDRs p lister) port cidr ↔
      (lbIngressEvent lister sourceCIDRs p port cidr).apply (Covered rules port cidr) := by
  have hkeep : ∀ rule : SecurityRule, rule.PlainOnPort port → (lbIngressFallback p lister rule ↔
      (port = p → keepsRules (portInUse lister p))) := by
    intro rule hplain
    have hport : rule.PlainOnPort p ↔ port = p := ⟨hplain.inj, fun h => h ▸ hplain⟩
    simp [lbIngressFallback, hport, imp_iff_not_or]
  rw [lbIngress_eq_rebuild, covered_rebuildPort hkeep, List.mem_toFinset, lbIngressEvent]
  by_cases hport : port = p
  · by_cases hsource : cidr ∈ sourceCIDRs
    · simp [hport, hsource, Event.apply]
    · by_cases hused : keepsRules (portInUse lister p)
      · simp [hport, hsource, hused, Event.apply]
      · simp [hport, hsource, hused, Event.apply]
  · simp [hport, Event.apply]

theorem lbIngress_eq_of_not_rulesChanged
    (h : ¬rulesChanged rules (getLoadBalancerIngressRules rules sourceCIDRs port lister)) :
    getLoadBalancerIngressRules rules sourceCIDRs port lister = rules := by
  rw [lbIngress_eq_rebuild] at h ⊢
  exact eq_of_not_rulesChanged Scan.scans.kept_sublist (fun _ => notMem_of_mem_newRules) h

end LbIngress

section LbEgress

variable {rules : List SecurityRule} {nodeSubnets : List SubnetWithLists}
  {actualPort desiredPort port : Nat} {lister : ServiceLister} {ipFamilies : List IpVersion}
  {cidr : String}

/-- What `getLoadBalancerEgressRules` does, for the address blocks `cidrs` of the nodes. -/
def lbEgressEvent (lister : ServiceLister) (cidrs : Finset String) (actualPort desiredPort : Nat)
    (port : Nat) (cidr : String) : Event :=
  if port = desiredPort then
    if cidr ∈ cidrs then .set
    else if keepsRules (healthCheckPortInUse lister desiredPort) then .hold
    else .reset
  else if port = actualPort then .reset
  else .hold

theorem covered_lbEgress :
    Covered (getLoadBalancerEgressRules rules nodeSubnets actualPort desiredPort lister
        ipFamilies) port cidr ↔
      (lbEgressEvent lister (subnetsCidrs ipFamilies nodeSubnets) actualPort desiredPort port
        cidr).apply (Covered rules port cidr) := by
  have hkeep : ∀ rule : SecurityRule, rule.PlainOnPort port →
      (lbEgressFallback actualPort desiredPort lister rule ↔
        (port = actualPort → port = desiredPort) ∧
          (port = desiredPort → keepsRules (healthCheckPortInUse lister desiredPort))) := by
    intro rule hplain
    have hport : rule.PlainOnPort desiredPort ↔ port = desiredPort :=
      ⟨hplain.inj, fun h => h ▸ hplain⟩
    have hold : rule.OnPort actualPort ↔ port = actualPort :=
      ⟨hplain.onPort.inj, fun h => h ▸ hplain.onPort⟩
    simp only [lbEgressFallback, isOldEgressRule, hport, hold]
    grind
  rw [lbEgress_eq_rebuild, covered_rebuildPort hkeep, lbEgressEvent]
  by_cases hport : port = desiredPort
  · by_cases hwanted : cidr ∈ subnetsCidrs ipFamilies nodeSubnets
    · simp [hport, hwanted, Event.apply]
    · by_cases hused : keepsRules (healthCheckPortInUse lister desiredPort)
      · simp [hport, hwanted, hused, Event.apply]
      · simp [hport, hwanted, hused, Event.apply]
  · by_cases hold : port = actualPort
    · simp [hold ▸ hport, hold, Event.apply]
    · simp [hport, hold, Event.apply]

theorem makeSecurityRule_injective (p : Nat) :
    Function.Injective fun cidr => makeSecurityRule cidr p :=
  fun _ _ h => congrArg SecurityRule.cidr h

theorem rebuilt_lbEgress :
    Scan.Rebuilt rules (getLoadBalancerEgressRules rules nodeSubnets actualPort desiredPort lister
      ipFamilies) := by
  rw [lbEgress_eq_rebuild]
  exact Scan.rebuilt_append Scan.scans.kept_sublist
    (List.Nodup.map (makeSecurityRule_injective desiredPort) (nodup_sortedList _))
    fun rule hkept hadded => notMem_of_mem_newRules hadded (Scan.scans.kept_sublist.subset hkept)

end LbEgress

/-! ## Node rules -/

section NodeIngress

variable {s : BaseSecurityListManager} {sc : SecurityRuleComponents} {rules : List SecurityRule}
  {port : Nat} {cidr : String}

/-- The ingress rules that an update computes for a list of a node subnet. -/
def newNodeIngress (s : BaseSecurityListManager) (sc : SecurityRuleComponents)
    (rules : List SecurityRule) : List SecurityRule :=
  getNodeIngressRules rules sc.lbSubnets sc.actualPorts sc.desiredPorts s.serviceLister
    sc.sourceCIDRs sc.isPreserveSource sc.ipFamilies

/-- The address blocks that get a rule on the backend port. -/
abbrev SecurityRuleComponents.backends (sc : SecurityRuleComponents) : Finset String :=
  backendCidrs sc.lbSubnets sc.sourceCIDRs sc.isPreserveSource sc.ipFamilies

/-- The address blocks that get a rule on the health check port. -/
abbrev SecurityRuleComponents.subnets (sc : SecurityRuleComponents) : Finset String :=
  subnetsCidrs sc.ipFamilies sc.lbSubnets

/-- The address blocks that get a rule on the port. -/
def wantedOn (sc : SecurityRuleComponents) (port : Nat) : Finset String :=
  if port = sc.desiredPorts.backendPort then sc.backends
  else if port = sc.desiredPorts.healthCheckerPort then sc.subnets
  else ∅

/-- Are rules on the port dropped when their address block is not wanted? -/
abbrev DropsRules (sc : SecurityRuleComponents) (lister : ServiceLister) (port : Nat) : Prop :=
  (port = sc.desiredPorts.backendPort ∨ port = sc.desiredPorts.healthCheckerPort ∨
    GivesUpPort sc.actualPorts sc.desiredPorts port) ∧
  ¬(port = sc.desiredPorts.healthCheckerPort ∧ keepsRules (healthCheckPortInUse lister port))

theorem subnetsCidrs_subset_backendCidrs {lbSubnets : List SubnetWithLists}
    {sourceCIDRs : List String} {isPreserveSource : Bool} {ipFamilies : List IpVersion} :
    subnetsCidrs ipFamilies lbSubnets ⊆
      backendCidrs lbSubnets sourceCIDRs isPreserveSource ipFamilies := by
  unfold backendCidrs
  split
  · exact Finset.subset_union_left
  · exact Finset.Subset.refl _

theorem mem_wantedOn : cidr ∈ wantedOn sc port ↔
    ∃ k ∈ wantedKeys sc.lbSubnets sc.sourceCIDRs sc.isPreserveSource sc.ipFamilies,
      cidr = keyCidr k ∧ port = keyPort sc.desiredPorts k := by
  constructor
  · intro hc
    unfold wantedOn at hc
    split at hc
    · next hport => exact ⟨.inl cidr, Finset.inl_mem_disjSum.mpr hc, rfl, hport⟩
    split at hc
    · next hport => exact ⟨.inr cidr, Finset.inr_mem_disjSum.mpr hc, rfl, hport⟩
    · exact absurd hc (Finset.notMem_empty cidr)
  · rintro ⟨cidr | cidr, hk, rfl, rfl⟩
    · rw [wantedOn, keyPort, if_pos rfl]
      exact Finset.inl_mem_disjSum.mp hk
    · unfold wantedOn
      split
      · exact subnetsCidrs_subset_backendCidrs (Finset.inr_mem_disjSum.mp hk)
      · rw [keyPort, if_pos rfl]
        exact Finset.inr_mem_disjSum.mp hk

/-- What `getNodeIngressRules` does. No rule is made for port 0. -/
def nodeIngressEvent (sc : SecurityRuleComponents) (lister : ServiceLister) (port : Nat)
    (cidr : String) : Event :=
  if cidr ∈ wantedOn sc port then if port ≠ 0 then .set else .hold
  else if DropsRules sc lister port then .reset
  else .hold

/-- A rule on the port is kept in any case, or dropped if its address block is not wanted. -/
theorem nodeIngressFallback_iff {rule : SecurityRule} (hplain : rule.PlainOnPort port) :
    nodeIngressFallback sc.actualPorts sc.desiredPorts s.serviceLister rule ↔
      ¬DropsRules sc s.serviceLister port := by
  by_cases hnew : port = sc.desiredPorts.backendPort ∨ port = sc.desiredPorts.healthCheckerPort
  · rw [nodeIngressFallback_of_plain hplain hnew, DropsRules, ← or_assoc, not_and, not_not]
    constructor
    · rintro ⟨rfl, hkeep⟩ -
      exact ⟨rfl, hkeep⟩
    · intro h
      obtain ⟨rfl, hkeep⟩ := h (.inl hnew)
      exact ⟨rfl, hkeep⟩
  by_cases hold : GivesUpPort sc.actualPorts sc.desiredPorts port
  · refine iff_of_false ?_ (not_not.mpr ⟨.inr (.inr hold), fun h => hnew (.inr h.1)⟩)
    simp [nodeIngressFallback, (isOldPortRule_iff hplain.onPort).mpr hold]
  · rw [not_or] at hnew
    refine iff_of_true (nodeIngressFallback_of_not_plain ?_ (fun h => hnew.1 (hplain.inj h))
      fun h => hnew.2 (hplain.inj h)) fun h => ?_
    · rwa [isOldPortRule_iff hplain.onPort]
    · exact (h.1.resolve_left hnew.1).elim hnew.2 hold

/-- A wanted address block that had a rule has one, also on port 0. -/
theorem covered_nodeIngress_of_wanted (hwanted : cidr ∈ wantedOn sc port)
    (h : Covered rules port cidr ∨ port ≠ 0) : Covered (newNodeIngress s sc rules) port cidr := by
  obtain ⟨k, hk, rfl, rfl⟩ := mem_wantedOn.mp hwanted
  rcases h with ⟨rule, hrule, hclaim⟩ | hport
  · have hscan : k ∈ (nodeIngressScan rules sc.lbSubnets sc.actualPorts sc.desiredPorts
        s.serviceLister _ _ _).2 ∨ _ := Scan.scans.left_or_kept hk
    rcases hscan with hleft | ⟨rule', hkept, hclaim'⟩
    · have hkept := (Scan.scans.mem_kept_of_left hrule (mem_nodeIngressClaims.mpr hclaim) hleft).1
      exact ⟨rule, mem_nodeIngress_iff.mpr (.inl hkept), hclaim⟩
    · exact ⟨rule', mem_nodeIngress_iff.mpr (.inl hkept), mem_nodeIngressClaims.mp hclaim'⟩
  · exact exists_nodeIngress hport hk

theorem covered_nodeIngress_iff :
    Covered (newNodeIngress s sc rules) port cidr ↔
      (cidr ∈ wantedOn sc port ∧ (Covered rules port cidr ∨ port ≠ 0)) ∨
      (Covered rules port cidr ∧ ¬DropsRules sc s.serviceLister port) := by
  constructor
  · rintro ⟨rule, hrule, rfl, hplain⟩
    rcases mem_nodeIngress_cases hrule with ⟨hold, hf⟩ | ⟨k, hk, ⟨hcidr, hport⟩, hmem⟩
    · exact .inr ⟨⟨rule, hold, rfl, hplain⟩, (nodeIngressFallback_iff hplain).mp hf⟩
    · obtain rfl := hplain.inj hport
      exact .inl ⟨mem_wantedOn.mpr ⟨k, hk, hcidr, rfl⟩,
        hmem.imp_left fun hold => ⟨rule, hold, rfl, hplain⟩⟩
  · rintro (⟨hwanted, h⟩ | ⟨⟨rule, hrule, hcidr, hplain⟩, hkeep⟩)
    · exact covered_nodeIngress_of_wanted hwanted h
    · exact ⟨rule, mem_nodeIngress_of_fallback hrule ((nodeIngressFallback_iff hplain).mpr hkeep),
        hcidr, hplain⟩

theorem covered_nodeIngress :
    Covered (newNodeIngress s sc rules) port cidr ↔
      (nodeIngressEvent sc s.serviceLister port cidr).apply (Covered rules port cidr) := by
  rw [covered_nodeIngress_iff, nodeIngressEvent]
  by_cases hwanted : cidr ∈ wantedOn sc port
  · rw [if_pos hwanted]
    by_cases hport : port ≠ 0
    · rw [if_pos hport]
      exact iff_of_true (.inl ⟨hwanted, .inr hport⟩) trivial
    · rw [if_neg hport]
      exact ⟨fun h => h.elim (fun h => h.2.resolve_right hport) And.left,
        fun h => .inl ⟨hwanted, .inl h⟩⟩
  rw [if_neg hwanted]
  by_cases hdrops : DropsRules sc s.serviceLister port
  · rw [if_pos hdrops]
    exact iff_of_false (fun h => h.elim (fun h => hwanted h.1) fun h => h.2 hdrops) id
  · rw [if_neg hdrops]
    exact ⟨fun h => (h.resolve_left fun h => hwanted h.1).1, fun h => .inr ⟨h, hdrops⟩⟩

/-- A comparison misses no change of the nodes' rules, unless a port gets the rules of backends and
of health checks. -/
theorem nodeIngress_eq_of_not_rulesChanged {lbSubnets : List SubnetWithLists}
    {actualPorts : Option PortSpec} {desiredPorts : PortSpec} {lister : ServiceLister}
    {sourceCIDRs : List String} {isPreserveSource : Bool} {ipFamilies : List IpVersion}
    (hne : desiredPorts.backendPort = desiredPorts.healthCheckerPort →
      desiredPorts.backendPort = 0)
    (h : ¬rulesChanged rules (getNodeIngressRules rules lbSubnets actualPorts desiredPorts lister
      sourceCIDRs isPreserveSource ipFamilies)) :
    getNodeIngressRules rules lbSubnets actualPorts desiredPorts lister sourceCIDRs
      isPreserveSource ipFamilies = rules := by
  rw [nodeIngress_eq_rebuild] at h ⊢
  refine eq_of_not_rulesChanged Scan.scans.kept_sublist (fun rule hrule hold => ?_) h
  obtain ⟨k, hk, hport, rfl⟩ := mem_newNodeRules.mp hrule
  have hclaim := @mem_nodeIngressClaims_makeSecurityRule actualPorts desiredPorts k
  refine (Scan.scans.mem_kept_of_left hold hclaim hk).2 (nodeIngressClaims_eq_singleton ?_ hclaim)
  intro heq
  rcases keyPort_cases desiredPorts k with hk | hk
  · exact hport (hk.trans (hne heq))
  · exact hport (hk.trans (heq ▸ hne heq))

end NodeIngress

/-! ## Passes over a list -/

/-- The three kinds of rules: ingress to and egress from the load balancer's subnets, and
ingress to the nodes' subnets. -/
inductive RuleKind where
  | lbIngress
  | lbEgress
  | nodeIngress
deriving DecidableEq, Repr

/-- A port and an address block that a list may have a rule for. -/
structure Slot where
  kind : RuleKind
  port : Nat
  cidr : String
deriving DecidableEq, Repr

namespace Slot

def rules (slot : Slot) (secList : SecurityList) : List SecurityRule :=
  match slot.kind with
  | .lbEgress => secList.egressSecurityRules
  | .lbIngress | .nodeIngress => secList.ingressSecurityRules

/-- Does the list have a rule? -/
abbrev CoveredBy (slot : Slot) (secList : SecurityList) : Prop :=
  Covered (slot.rules secList) slot.port slot.cidr

end Slot

namespace SecurityRuleComponents

/-- The egress rules are computed for the backend port and then for the health check port. -/
def lbEgressEvent (w : SecurityRuleComponents) (lister : ServiceLister) (port : Nat)
    (cidr : String) : Event :=
  (SecurityLists.lbEgressEvent lister (subnetsCidrs w.ipFamilies w.backendSubnets)
      ((w.actualPorts.map (·.backendPort)).getD 0) w.desiredPorts.backendPort port cidr).andThen
    (SecurityLists.lbEgressEvent lister (subnetsCidrs w.ipFamilies w.backendSubnets)
      ((w.actualPorts.map (·.healthCheckerPort)).getD 0) w.desiredPorts.healthCheckerPort port cidr)

/-- What a change of the rules does to a slot. The ingress rules of the load balancer are left
alone by changes without a listener. -/
def event (w : SecurityRuleComponents) (lister : ServiceLister) (slot : Slot) : Event :=
  match slot.kind with
  | .lbIngress =>
    if w.desiredPorts.listenerPort ≠ 0 then
      lbIngressEvent lister w.sourceCIDRs w.desiredPorts.listenerPort slot.port slot.cidr
    else .hold
  | .lbEgress => w.lbEgressEvent lister slot.port slot.cidr
  | .nodeIngress => nodeIngressEvent w lister slot.port slot.cidr

end SecurityRuleComponents

section Passes

variable {s : BaseSecurityListManager} {w : SecurityRuleComponents} {secList : SecurityList}
  {slot : Slot} {sc : SecurityRuleComponents} {nodeSubnets : List SubnetWithLists}

/-- The passes of an update over a list of a load balancer subnet. -/
def lbPass (s : BaseSecurityListManager) (sc : SecurityRuleComponents)
    (nodeSubnets : List SubnetWithLists) : SecurityList → SecurityList :=
  pass (s.loadBalancerRules nodeSubnets sc.sourceCIDRs sc.actualPorts sc.desiredPorts sc.ipFamilies)

/-- The passes of an update over a list of a node subnet. -/
def nodePass (s : BaseSecurityListManager) (sc : SecurityRuleComponents) :
    SecurityList → SecurityList :=
  pass (s.backendRules sc.lbSubnets sc.actualPorts sc.desiredPorts sc.sourceCIDRs
    sc.isPreserveSource sc.ipFamilies)

/-- The ingress rules that an update computes for a list of a load balancer subnet. -/
def newLbIngress (s : BaseSecurityListManager) (sc : SecurityRuleComponents)
    (rules : List SecurityRule) : List SecurityRule :=
  getLoadBalancerIngressRules rules sc.sourceCIDRs sc.desiredPorts.listenerPort s.serviceLister

theorem ingress_lbPass (hlistener : sc.desiredPorts.listenerPort ≠ 0) :
    (lbPass s sc nodeSubnets secList).ingressSecurityRules =
      newLbIngress s sc secList.ingressSecurityRules := by
  have hnew : (s.loadBalancerRules nodeSubnets sc.sourceCIDRs sc.actualPorts sc.desiredPorts
      sc.ipFamilies secList).1 = newLbIngress s sc secList.ingressSecurityRules := if_pos hlistener
  unfold lbPass pass
  split
  · exact hnew
  · next hchanged =>
      rw [securityListRulesChanged, Bool.or_eq_true, not_or, hnew] at hchanged
      exact (lbIngress_eq_of_not_rulesChanged hchanged.1).symm

theorem ingress_nodePass :
    (nodePass s sc secList).ingressSecurityRules =
      if rulesChanged secList.ingressSecurityRules
          (newNodeIngress s sc secList.ingressSecurityRules) then
        newNodeIngress s sc secList.ingressSecurityRules
      else secList.ingressSecurityRules := by
  have hchanged : securityListRulesChanged secList
      (newNodeIngress s sc secList.ingressSecurityRules) secList.egressSecurityRules =
      rulesChanged secList.ingressSecurityRules
        (newNodeIngress s sc secList.ingressSecurityRules) := by
    rw [securityListRulesChanged, rulesChanged_self, Bool.or_false]
  unfold nodePass pass backendRules
  rw [← newNodeIngress, hchanged]
  split <;> rfl

theorem coveredBy_lbPass (hkind : slot.kind ≠ .nodeIngress) :
    slot.CoveredBy (lbPass s w w.backendSubnets secList) ↔
      (w.event s.serviceLister slot).apply (slot.CoveredBy secList) := by
  obtain ⟨kind, port, cidr⟩ := slot
  cases kind with
  | nodeIngress => exact absurd rfl hkind
  | lbIngress =>
    change Covered (lbPass s w w.backendSubnets secList).ingressSecurityRules port cidr ↔
      (if _ then _ else _ : Event).apply (Covered secList.ingressSecurityRules port cidr)
    by_cases hlistener : w.desiredPorts.listenerPort ≠ 0
    · rw [if_pos hlistener, ingress_lbPass hlistener]
      exact covered_lbIngress
    · rw [if_neg hlistener]
      have hsame : (lbPass s w w.backendSubnets secList).ingressSecurityRules =
          secList.ingressSecurityRules := by
        unfold lbPass pass
        split
        · exact if_neg hlistener
        · rfl
      rw [hsame]
      exact Iff.rfl
  | lbEgress =>
    change Covered (lbPass s w w.backendSubnets secList).egressSecurityRules port cidr ↔
      (w.lbEgressEvent s.serviceLister port cidr).apply
        (Covered secList.egressSecurityRules port cidr)
    have hnew : Covered (s.loadBalancerRules w.backendSubnets w.sourceCIDRs w.actualPorts
          w.desiredPorts w.ipFamilies secList).2 port cidr ↔
        (w.lbEgressEvent s.serviceLister port cidr).apply
          (Covered secList.egressSecurityRules port cidr) := by
      rw [SecurityRuleComponents.lbEgressEvent, Event.apply_andThen]
      exact covered_lbEgress.trans (Event.apply_congr covered_lbEgress)
    rw [← hnew]
    unfold lbPass pass
    split
    · exact Iff.rfl
    · next hchanged =>
        rw [securityListRulesChanged, Bool.or_eq_true, not_or] at hchanged
        obtain ⟨hlength, hsub⟩ := not_rulesChanged_iff.mp hchanged.2
        have hrebuilt : Scan.Rebuilt secList.egressSecurityRules
            (s.loadBalancerRules w.backendSubnets w.sourceCIDRs w.actualPorts w.desiredPorts
              w.ipFamilies secList).2 := rebuilt_lbEgress.trans rebuilt_lbEgress
        exact covered_perm (hrebuilt.perm hlength hsub).symm

/-- A pass over the rules of the nodes misses no change, unless a port gets the rules of backends
and of health checks. -/
theorem coveredBy_nodePass (hkind : slot.kind = .nodeIngress)
    (hports : w.desiredPorts.backendPort = w.desiredPorts.healthCheckerPort →
      w.desiredPorts.backendPort = 0) :
    slot.CoveredBy (nodePass s w secList) ↔
      (w.event s.serviceLister slot).apply (slot.CoveredBy secList) := by
  obtain ⟨kind, port, cidr⟩ := slot
  obtain rfl : kind = .nodeIngress := hkind
  have hnew : Covered (newNodeIngress s w secList.ingressSecurityRules) port cidr ↔
      (w.event s.serviceLister ⟨.nodeIngress, port, cidr⟩).apply
        (Covered secList.ingressSecurityRules port cidr) := covered_nodeIngress
  refine Iff.trans ?_ hnew
  change Covered (nodePass s w secList).ingressSecurityRules port cidr ↔ _
  rw [ingress_nodePass]
  by_cases hchanged : rulesChanged secList.ingressSecurityRules
      (newNodeIngress s w secList.ingressSecurityRules)
  · rw [if_pos hchanged]
  · rw [if_neg hchanged, newNodeIngress, nodeIngress_eq_of_not_rulesChanged hports hchanged]

end Passes

/-! ## Changes of the stored lists -/

namespace BaseSecurityListManager

/-- The two loops of the manager of all rules, over the given subnets and with the wanted
address blocks and ports of `w`. -/
def applyChange (s : BaseSecurityListManager) (lbSubnets nodeSubnets : List SubnetWithLists)
    (w : SecurityRuleComponents) (store : Store) : Except String Store := do
  let store ← s.updateLoadBalancerRules lbSubnets w.backendSubnets w.sourceCIDRs w.actualPorts
    w.desiredPorts w.ipFamilies store
  s.updateBackendRules w.lbSubnets nodeSubnets w.actualPorts w.desiredPorts w.sourceCIDRs
    w.isPreserveSource w.ipFamilies store

/-- Does the list in charge of the subnet have a rule? -/
abbrev Covers (s : BaseSecurityListManager) (store : Store) (subnet : SubnetWithLists)
    (slot : Slot) : Prop :=
  ∃ secList ∈ ((s.getSecurityList store subnet).toOption.map (·.2)).toList,
    slot.CoveredBy secList

/-- Load balancer subnets and node subnets have different lists. -/
abbrev SeparateLists (s : BaseSecurityListManager) (store : Store)
    (lbSubnets nodeSubnets : List SubnetWithLists) : Prop :=
  ∀ subnet ∈ lbSubnets, ∀ subnet' ∈ nodeSubnets,
    s.listInCharge store subnet ≠ s.listInCharge store subnet'

variable {s : BaseSecurityListManager} {store store' : Store} {subnet : SubnetWithLists}
  {slot : Slot} {id : String} {lbSubnets nodeSubnets : List SubnetWithLists}
  {w : SecurityRuleComponents}

theorem covers_iff (h : s.listInCharge store subnet = some id) :
    s.Covers store subnet slot ↔ ∃ secList, store.lookup id = some secList ∧
      slot.CoveredBy secList := by
  obtain ⟨secList, hget⟩ := listInCharge_eq_some.mp h
  have hlookup := lookup_of_getSecurityList hget
  simp only [Covers, hget, Except.toOption, Option.map_some, Option.toList_some,
    List.mem_singleton, exists_eq_left, hlookup, Option.some.injEq, exists_eq_left']

theorem SeparateLists.congr (hsame : SameLists store store')
    (h : s.SeparateLists store lbSubnets nodeSubnets) :
    s.SeparateLists store' lbSubnets nodeSubnets := by
  intro subnet hsubnet subnet' hsubnet'
  rw [listInCharge_congr hsame, listInCharge_congr hsame]
  exact h subnet hsubnet subnet' hsubnet'

theorem subnetsInCharge_eq_zero {subnets : List SubnetWithLists}
    (h : ∀ subnet ∈ subnets, s.listInCharge store subnet ≠ some id) :
    s.subnetsInCharge store subnets id = 0 := by
  unfold subnetsInCharge
  rw [List.countP_eq_zero]
  intro subnet hsubnet
  simpa using h subnet hsubnet

/-- The subnets whose lists have rules of a kind. -/
def subnetsOf (kind : RuleKind) (lbSubnets nodeSubnets : List SubnetWithLists) :
    List SubnetWithLists :=
  match kind with
  | .nodeIngress => nodeSubnets
  | .lbIngress | .lbEgress => lbSubnets

/-- After a change the list in charge of a subnet has gone through passes of its kind only. -/
theorem lookup_applyChange (h : s.applyChange lbSubnets nodeSubnets w store = .ok store')
    (hseparate : s.SeparateLists store lbSubnets nodeSubnets)
    (hsubnet : subnet ∈ subnetsOf slot.kind lbSubnets nodeSubnets) :
    ∃ id n, s.listInCharge store subnet = some id ∧ store'.lookup id =
      (store.lookup id).map (if slot.kind = .nodeIngress then (nodePass s w)^[n + 1]
        else (lbPass s w w.backendSubnets)^[n + 1]) := by
  obtain ⟨-, hlookup⟩ := two_loops_ok h
  obtain ⟨store₁, h₁, h₂⟩ := bind_ok h
  obtain ⟨hsame₁, hlb, -⟩ := foldlM_rewriteStep_ok h₁
  obtain ⟨-, hnode, -⟩ := foldlM_rewriteStep_ok h₂
  by_cases hkind : slot.kind = .nodeIngress
  · replace hsubnet : subnet ∈ nodeSubnets := by
      rw [hkind] at hsubnet
      exact hsubnet
    obtain ⟨id, hid⟩ := hnode subnet hsubnet
    rw [listInCharge_congr hsame₁] at hid
    obtain ⟨n, hn⟩ := Nat.exists_eq_add_of_lt (subnetsInCharge_pos hsubnet hid)
    have hzero : s.subnetsInCharge store lbSubnets id = 0 :=
      subnetsInCharge_eq_zero fun subnet' hsubnet' heq =>
        hseparate subnet' hsubnet' subnet hsubnet (heq.trans hid.symm)
    refine ⟨id, n, hid, ?_⟩
    rw [hlookup, if_pos hkind, hzero, hn, Nat.zero_add]
    rfl
  · have hsubnet : subnet ∈ lbSubnets := by
      unfold subnetsOf at hsubnet
      split at hsubnet
      · next heq => exact absurd heq hkind
      · exact hsubnet
      · exact hsubnet
    obtain ⟨id, hid⟩ := hlb subnet hsubnet
    obtain ⟨n, hn⟩ := Nat.exists_eq_add_of_lt (subnetsInCharge_pos hsubnet hid)
    have hzero : s.subnetsInCharge store nodeSubnets id = 0 :=
      subnetsInCharge_eq_zero fun subnet' hsubnet' heq =>
        hseparate subnet hsubnet subnet' hsubnet' (hid.trans heq.symm)
    refine ⟨id, n, hid, ?_⟩
    rw [hlookup, if_neg hkind, hzero, hn, Nat.zero_add]
    rfl

/-- A change of the rules does to a slot what its event says, in every list of the slot. -/
theorem covers_applyChange (h : s.applyChange lbSubnets nodeSubnets w store = .ok store')
    (hseparate : s.SeparateLists store lbSubnets nodeSubnets)
    (hsubnet : subnet ∈ subnetsOf slot.kind lbSubnets nodeSubnets)
    (hports : w.desiredPorts.backendPort = w.desiredPorts.healthCheckerPort →
      w.desiredPorts.backendPort = 0) :
    s.Covers store' subnet slot ↔
      (w.event s.serviceLister slot).apply (s.Covers store subnet slot) := by
  obtain ⟨id, n, hid, hlookup⟩ := lookup_applyChange h hseparate hsubnet
  obtain ⟨secList, hget⟩ := listInCharge_eq_some.mp hid
  have hstored := lookup_of_getSecurityList hget
  have hsame : SameLists store store' := (two_loops_ok h).1
  rw [covers_iff hid, covers_iff ((listInCharge_congr hsame subnet).trans hid), hlookup, hstored]
  simp only [Option.map_some, Option.some.injEq, exists_eq_left']
  by_cases hkind : slot.kind = .nodeIngress
  · rw [if_pos hkind]
    exact Event.iterate_iff (P := slot.CoveredBy) (fun _ => coveredBy_nodePass hkind hports) n
  · rw [if_neg hkind]
    exact Event.iterate_iff (P := slot.CoveredBy) (fun _ => coveredBy_lbPass hkind) n

end BaseSecurityListManager

end OciCcm.SecurityLists
