import OciCcm.SecurityLists.Coverage

/-! # The three functions as rewritings of a list

Each of the functions that compute rules anew keeps some of the rules that
exist and appends new ones. This file collects what holds for all three of
them: which rules they leave alone, that they find their own rules again, and
that a result that compares as unchanged has the same rules.
-/

namespace OciCcm.SecurityLists

open Go Kubernetes LoadBalancer List

/-- A call of one of the three functions, but for the rules. -/
inductive Rewriting where
  | nodeIngress (lbSubnets : List SubnetWithLists) (actualPorts : Option PortSpec)
      (desiredPorts : PortSpec) (serviceLister : ServiceLister) (sourceCIDRs : List String)
      (isPreserveSource : Bool) (ipFamilies : List IpVersion)
  | lbIngress (sourceCIDRs : List String) (port : Nat) (serviceLister : ServiceLister)
  | lbEgress (nodeSubnets : List SubnetWithLists) (actualPort desiredPort : Nat)
      (serviceLister : ServiceLister) (ipFamilies : List IpVersion)

namespace Rewriting

def apply : Rewriting → List SecurityRule → List SecurityRule
  | .nodeIngress lbSubnets actualPorts desiredPorts lister sourceCIDRs isPreserveSource ipFamilies,
    rules => getNodeIngressRules rules lbSubnets actualPorts desiredPorts lister sourceCIDRs
      isPreserveSource ipFamilies
  | .lbIngress sourceCIDRs port lister, rules =>
    getLoadBalancerIngressRules rules sourceCIDRs port lister
  | .lbEgress nodeSubnets actualPort desiredPort lister ipFamilies, rules =>
    getLoadBalancerEgressRules rules nodeSubnets actualPort desiredPort lister ipFamilies

/-- The ports that the service has now. -/
def newPorts : Rewriting → List Nat
  | .nodeIngress _ _ desiredPorts _ _ _ _ =>
    [desiredPorts.backendPort, desiredPorts.healthCheckerPort]
  | .lbIngress _ port _ => [port]
  | .lbEgress _ _ desiredPort _ _ => [desiredPort]

/-- The ports that the service had before, if any. -/
def oldPorts : Rewriting → List Nat
  | .nodeIngress _ actualPorts _ _ _ _ _ =>
    actualPorts.toList.flatMap fun ports => [ports.backendPort, ports.healthCheckerPort]
  | .lbIngress _ _ _ => []
  | .lbEgress _ actualPort _ _ _ => [actualPort]

/-- Does the call take the port for one that the service no longer uses? -/
def GivesUp : Rewriting → Nat → Prop
  | .nodeIngress _ actualPorts desiredPorts _ _ _ _, port =>
    GivesUpPort actualPorts desiredPorts port
  | .lbIngress _ _ _, _ => False
  | .lbEgress _ actualPort desiredPort _ _, port => desiredPort ≠ actualPort ∧ port = actualPort

/-- Does the call remove the rule because of its port? -/
def removes : Rewriting → SecurityRule → Bool
  | .nodeIngress _ actualPorts desiredPorts _ _ _ _ => isOldPortRule actualPorts desiredPorts
  | .lbIngress _ _ _ => fun _ => false
  | .lbEgress _ actualPort desiredPort _ _ => isOldEgressRule actualPort desiredPort

variable {call : Rewriting} {rules : List SecurityRule} {rule : SecurityRule}

theorem removes_iff : call.removes rule ↔ ∃ port, rule.OnPort port ∧ call.GivesUp port := by
  cases call with
  | nodeIngress lbSubnets actualPorts desiredPorts lister sourceCIDRs isPreserveSource families =>
    exact isOldPortRule_iff_exists
  | lbIngress sourceCIDRs port lister => simp [removes, GivesUp]
  | lbEgress nodeSubnets actualPort desiredPort lister families =>
    simp only [removes, isOldEgressRule, decide_eq_true_eq, GivesUp]
    constructor
    · rintro ⟨hne, hport⟩
      exact ⟨actualPort, hport, hne, rfl⟩
    · rintro ⟨port, hport, hne, rfl⟩
      exact ⟨hne, hport⟩

end Rewriting

/-! ## The functions rebuild the list -/

section Rebuild

variable {rules : List SecurityRule} {lister : ServiceLister} {sourceCIDRs : List String}
  {port actualPort desiredPort : Nat} {nodeSubnets lbSubnets : List SubnetWithLists}
  {ipFamilies : List IpVersion} {actualPorts : Option PortSpec} {desiredPorts : PortSpec}
  {isPreserveSource : Bool} {left : Finset (String ⊕ String)} {k : String ⊕ String}
  {rule : SecurityRule}

@[simp] theorem newNodeRules_empty : newNodeRules desiredPorts ∅ = [] := by
  simp [eq_nil_iff_forall_not_mem, mem_newNodeRules]

theorem plainOnPort_of_mem_newNodeRules (h : rule ∈ newNodeRules desiredPorts left) :
    rule.PlainOnPort desiredPorts.backendPort ∨
      rule.PlainOnPort desiredPorts.healthCheckerPort := by
  obtain ⟨k, -, -, rfl⟩ := mem_newNodeRules.mp h
  simpa using keyPort_cases desiredPorts k

theorem nodeIngressClaims_eq_nil (hb : ¬rule.PlainOnPort desiredPorts.backendPort)
    (hh : ¬rule.PlainOnPort desiredPorts.healthCheckerPort) :
    nodeIngressClaims actualPorts desiredPorts rule = [] := by
  rw [eq_nil_iff_forall_not_mem]
  intro k hk
  have hplain := (mem_nodeIngressClaims.mp hk).2
  rcases keyPort_cases desiredPorts k with heq | heq
  · exact hb (heq ▸ hplain)
  · exact hh (heq ▸ hplain)

/-- Of the rules that are not on the new ports exactly those on a port that is given up are
removed. -/
theorem filter_apply {call : Rewriting} {p : SecurityRule → Bool}
    (hp : ∀ rule, p rule → ∀ port ∈ call.newPorts, ¬rule.PlainOnPort port) :
    (call.apply rules).filter p = rules.filter fun rule => p rule && !call.removes rule := by
  cases call with
  | nodeIngress lbSubnets actualPorts desiredPorts lister sourceCIDRs isPreserveSource families =>
    have hb : ∀ rule, p rule → ¬rule.PlainOnPort desiredPorts.backendPort :=
      fun rule h => hp rule h _ (by simp [Rewriting.newPorts])
    have hh : ∀ rule, p rule → ¬rule.PlainOnPort desiredPorts.healthCheckerPort :=
      fun rule h => hp rule h _ (by simp [Rewriting.newPorts])
    rw [Rewriting.apply, nodeIngress_eq_rebuild, Scan.filter_rebuild
      (fun rule _ h => nodeIngressClaims_eq_nil (hb rule h) (hh rule h))
      fun rule hrule h => (plainOnPort_of_mem_newNodeRules hrule).elim (hb rule h) (hh rule h)]
    refine filter_congr fun rule _ => ?_
    cases h : p rule with
    | false => rfl
    | true =>
      rw [Bool.true_and, Bool.true_and, Rewriting.removes]
      cases hold : isOldPortRule actualPorts desiredPorts rule with
      | false =>
        exact nodeIngressFallback_of_not_plain (by simp [hold]) (hb rule h) (hh rule h)
      | true => simp [nodeIngressFallback, hold]
  | lbIngress sourceCIDRs port lister =>
    have hplain : ∀ rule, p rule → ¬rule.PlainOnPort port :=
      fun rule h => hp rule h _ (by simp [Rewriting.newPorts])
    rw [Rewriting.apply, lbIngress_eq_rebuild, filter_rebuildPort hplain]
    refine filter_congr fun rule _ => ?_
    cases h : p rule with
    | false => rfl
    | true => simp [lbIngressFallback, Rewriting.removes, hplain rule h]
  | lbEgress nodeSubnets actualPort desiredPort lister families =>
    have hplain : ∀ rule, p rule → ¬rule.PlainOnPort desiredPort :=
      fun rule h => hp rule h _ (by simp [Rewriting.newPorts])
    rw [Rewriting.apply, lbEgress_eq_rebuild, filter_rebuildPort hplain]
    refine filter_congr fun rule _ => ?_
    cases h : p rule with
    | false => rfl
    | true => simp [lbEgressFallback, Rewriting.removes, hplain rule h]

end Rebuild

/-! ## Rules of others -/

/-- A rule without TCP options, with a source port range, without a destination port range,
or whose destination ports are not exactly one of the given ports. -/
def Foreign (ports : List Nat) (rule : SecurityRule) : Prop :=
  match rule.tcpOptions with
  | none => True
  | some tcp =>
    tcp.sourcePortRange ≠ none ∨ tcp.destinationPortRange = none ∨
      ∀ port ∈ ports, tcp.destinationPortRange ≠ some ⟨port, port⟩

theorem foreign_iff {ports : List Nat} {rule : SecurityRule} :
    Foreign ports rule ↔ ∀ port ∈ ports, ¬rule.PlainOnPort port := by
  unfold Foreign SecurityRule.PlainOnPort SecurityRule.plainDestination
  cases rule.tcpOptions with
  | none => simp
  | some tcp =>
    obtain ⟨destination, source⟩ := tcp
    cases source with
    | some range => simp
    | none =>
      cases destination with
      | none => simp
      | some range => simp

instance (ports : List Nat) : DecidablePred (Foreign ports) := fun _ =>
  decidable_of_iff _ foreign_iff.symm

/-- Does the call keep the rules of others, unmodified and in their order? -/
abbrev LeavesAlone (call : Rewriting) (rules : List SecurityRule) : Prop :=
  (rules.filter (Foreign (call.oldPorts ++ call.newPorts))).Sublist (call.apply rules)

theorem leavesAlone_iff_not_removes {call : Rewriting} {rules : List SecurityRule} :
    LeavesAlone call rules ↔
      ∀ rule ∈ rules, Foreign (call.oldPorts ++ call.newPorts) rule → ¬call.removes rule := by
  have hkept : (call.apply rules).filter (Foreign (call.oldPorts ++ call.newPorts)) = _ :=
    filter_apply fun rule h port hport =>
      foreign_iff.mp (of_decide_eq_true h) port (mem_append_right _ hport)
  constructor
  · intro h rule hrule hforeign
    have hmem : rule ∈ call.apply rules :=
      h.subset (mem_filter.mpr ⟨hrule, decide_eq_true hforeign⟩)
    have hfilter : rule ∈ (call.apply rules).filter (Foreign (call.oldPorts ++ call.newPorts)) :=
      mem_filter.mpr ⟨hmem, decide_eq_true hforeign⟩
    rw [hkept] at hfilter
    simpa [hforeign] using (mem_filter.mp hfilter).2
  · intro h
    have hsame : rules.filter (Foreign (call.oldPorts ++ call.newPorts)) =
        rules.filter fun rule =>
          decide (Foreign (call.oldPorts ++ call.newPorts) rule) && !call.removes rule := by
      refine filter_congr fun rule hrule => ?_
      by_cases hforeign : Foreign (call.oldPorts ++ call.newPorts) rule
      · simp [hforeign, h rule hrule hforeign]
      · simp [hforeign]
    rw [LeavesAlone, hsame, ← hkept]
    exact filter_sublist

/-- A call leaves the rules of others alone if the only rules on a port that it gives up are
the service's own: it looks at neither the source ports of such a rule nor, without old ports,
at whether the port is the service's at all. -/
theorem leavesAlone_iff (call : Rewriting) (rules : List SecurityRule) :
    LeavesAlone call rules ↔
      ∀ rule ∈ rules, ∀ port, rule.OnPort port → call.GivesUp port →
        rule.PlainOnPort port ∧ port ∈ call.oldPorts ++ call.newPorts := by
  rw [leavesAlone_iff_not_removes]
  refine forall₂_congr fun rule _ => ?_
  rw [foreign_iff, Rewriting.removes_iff]
  constructor
  · intro h port hport hgives
    by_contra hown
    refine h (fun port' hport' hplain => hown ?_) ⟨port, hport, hgives⟩
    obtain rfl := hplain.onPort.inj hport
    exact ⟨hplain, hport'⟩
  · rintro h hforeign ⟨port, hport, hgives⟩
    obtain ⟨hplain, hmem⟩ := h port hport hgives
    exact hforeign port hmem hplain

/-- A rule of someone else that allows traffic from some source ports only. -/
def sourcePortRule (port : Nat) : SecurityRule where
  cidr := "10.1.0.0/16"
  protocol := "6"
  tcpOptions := some
    { destinationPortRange := some ⟨port, port⟩, sourcePortRange := some ⟨1024, 65535⟩ }

/-- When the node port changes from 30080 to 30081, a rule on port 30080 for some source ports
is removed from both lists. On creation of a load balancer, so is a rule on port 0. -/
theorem not_leavesAlone_sourcePortRule :
    ¬LeavesAlone (.nodeIngress [] (some ⟨80, 30080, 10256⟩) ⟨80, 30081, 10256⟩ (.ok []) [] false
      [.ipv4]) [sourcePortRule 30080] ∧
    ¬LeavesAlone (.lbEgress [] 30080 30081 (.ok []) [.ipv4]) [sourcePortRule 30080] ∧
    ¬LeavesAlone (.nodeIngress [] none ⟨80, 30081, 10256⟩ (.ok []) [] false [.ipv4])
      [makeSecurityRule "10.1.0.0/16" 0] := by
  decide

/-! ## Rewriting again -/

section Again

variable {desiredPorts : PortSpec} {actualPorts : Option PortSpec} {cidr : String}
  {left : Finset (String ⊕ String)} {fallback : SecurityRule → Bool}

theorem find?_nodeIngressClaims_inl (h : Sum.inl cidr ∈ left) :
    (nodeIngressClaims actualPorts desiredPorts
      (makeSecurityRule cidr desiredPorts.backendPort)).find? (· ∈ left) = some (.inl cidr) := by
  rw [nodeIngressClaims_of_plain ((plainOnPort_makeSecurityRule _ _ _).mpr rfl) (.inl rfl)]
  simp [makeSecurityRule, h]

theorem find?_nodeIngressClaims_inr (h : Sum.inr cidr ∈ left)
    (hno : desiredPorts.backendPort = desiredPorts.healthCheckerPort → Sum.inl cidr ∉ left) :
    (nodeIngressClaims actualPorts desiredPorts
      (makeSecurityRule cidr desiredPorts.healthCheckerPort)).find? (· ∈ left) =
        some (.inr cidr) := by
  rw [nodeIngressClaims_of_plain ((plainOnPort_makeSecurityRule _ _ _).mpr rfl) (.inr rfl)]
  by_cases heq : desiredPorts.healthCheckerPort = desiredPorts.backendPort
  · simp [makeSecurityRule, heq, h, hno heq.symm]
  · simp [makeSecurityRule, heq, h]

/-- The new rules of the nodes are found again. With one port for both, the rules for backends
come first and take the sources of the backends, so that those for health checks are left with
their own. -/
theorem scans_newNodeRules (left : Finset (String ⊕ String)) :
    ∃ left', Scan.Scans (nodeIngressClaims actualPorts desiredPorts) fallback
      (newNodeRules desiredPorts left) left (newNodeRules desiredPorts left) left' ∧
        newNodeRules desiredPorts left' = [] := by
  refine ⟨_, (scans_newRules Sum.inl_injective (fun c hc => ?_) fun _ _ _ _ =>
    find?_nodeIngressClaims_inl).append (scans_newRules Sum.inr_injective (fun c hc => ?_)
      fun c hc left' hsub h => find?_nodeIngressClaims_inr h fun heq hinl => ?_), ?_⟩
  · exact Finset.mem_toLeft.mp (Finset.mem_filter.mp hc).1
  · simpa using (Finset.mem_filter.mp hc).1
  · have hport := (Finset.mem_filter.mp hc).2
    simpa [heq, hport] using hsub hinl
  · simp only [eq_nil_iff_forall_not_mem, mem_newNodeRules]
    rintro rule ⟨k | k, hk, hport, -⟩
    · rw [keyPort] at hport
      simp [hport] at hk
    · rw [keyPort] at hport
      simp [hport] at hk

/-- Each of the functions leaves its own result as it is. -/
theorem rewriting_idempotent (call : Rewriting) (rules : List SecurityRule) :
    call.apply (call.apply rules) = call.apply rules := by
  cases call with
  | nodeIngress lbSubnets actualPorts desiredPorts lister sourceCIDRs isPreserveSource families =>
    simp only [Rewriting.apply, nodeIngress_eq_rebuild]
    exact Scan.rebuild_rebuild fun left _ => scans_newNodeRules left
  | lbIngress sourceCIDRs port lister =>
    simp only [Rewriting.apply, lbIngress_eq_rebuild, rebuildPort_idem]
  | lbEgress nodeSubnets actualPort desiredPort lister families =>
    simp only [Rewriting.apply, lbEgress_eq_rebuild, rebuildPort_idem]

end Again

/-! ## Writes that are skipped -/

/-- The ingress rules that a manager computes for a list with the given ones. -/
inductive ComputedIngress (rules : List SecurityRule) : List SecurityRule → Prop where
  | same : ComputedIngress rules rules
  | node (lbSubnets : List SubnetWithLists) (actualPorts : Option PortSpec)
      (desiredPorts : PortSpec) (lister : ServiceLister) (sourceCIDRs : List String)
      (isPreserveSource : Bool) (ipFamilies : List IpVersion)
      (hne : desiredPorts.backendPort ≠ desiredPorts.healthCheckerPort) :
      ComputedIngress rules (getNodeIngressRules rules lbSubnets actualPorts desiredPorts lister
        sourceCIDRs isPreserveSource ipFamilies)
  | loadBalancer (sourceCIDRs : List String) (port : Nat) (lister : ServiceLister) :
      ComputedIngress rules (getLoadBalancerIngressRules rules sourceCIDRs port lister)

/-- The egress rules that a manager computes for a list with the given ones. -/
inductive ComputedEgress (rules : List SecurityRule) : List SecurityRule → Prop where
  | same : ComputedEgress rules rules
  | loadBalancer (nodeSubnets : List SubnetWithLists) (actualPort desiredPort : Nat)
      (actualPort' desiredPort' : Nat) (lister : ServiceLister) (ipFamilies : List IpVersion) :
      ComputedEgress rules (getLoadBalancerEgressRules
        (getLoadBalancerEgressRules rules nodeSubnets actualPort desiredPort lister ipFamilies)
        nodeSubnets actualPort' desiredPort' lister ipFamilies)

section Skipped

variable {rules new : List SecurityRule}

theorem ComputedIngress.eq_of_not_rulesChanged (h : ComputedIngress rules new)
    (hsame : ¬rulesChanged rules new) : new = rules := by
  cases h with
  | same => rfl
  | node lbSubnets actualPorts desiredPorts lister sourceCIDRs isPreserveSource families hne =>
    exact nodeIngress_eq_of_not_rulesChanged (absurd · hne) hsame
  | loadBalancer sourceCIDRs port lister => exact lbIngress_eq_of_not_rulesChanged hsame

/-- The two calls may remove a rule and add it again at the end, so only the order is lost. -/
theorem ComputedEgress.perm_of_not_rulesChanged (h : ComputedEgress rules new)
    (hsame : ¬rulesChanged rules new) : new.Perm rules := by
  cases h with
  | same => exact List.Perm.refl _
  | loadBalancer nodeSubnets actualPort desiredPort actualPort' desiredPort' lister families =>
    obtain ⟨hlength, hsub⟩ := not_rulesChanged_iff.mp hsame
    exact (rebuilt_lbEgress.trans rebuilt_lbEgress).perm hlength hsub

/-- If a list compares as unchanged, the computed rules are the existing ones. -/
theorem perm_of_not_securityListRulesChanged (secList : SecurityList)
    (ingressRules egressRules : List SecurityRule)
    (hingress : ComputedIngress secList.ingressSecurityRules ingressRules)
    (hegress : ComputedEgress secList.egressSecurityRules egressRules)
    (hsame : securityListRulesChanged secList ingressRules egressRules = false) :
    ingressRules.Perm secList.ingressSecurityRules ∧
      egressRules.Perm secList.egressSecurityRules := by
  rw [securityListRulesChanged, Bool.or_eq_false_iff] at hsame
  refine ⟨?_, hegress.perm_of_not_rulesChanged (by simp [hsame.2])⟩
  rw [hingress.eq_of_not_rulesChanged (by simp [hsame.1])]

/-- A list with a duplicate, which stays because the port is checked by another service. -/
theorem perm_of_unchanged_duplicate :
    let rules := [makeSecurityRule "10.0.0.0/16" 10256, makeSecurityRule "10.0.0.0/16" 10256]
    let lister : ServiceLister := .ok [{ name := "web", externalTrafficPolicy := some .cluster }]
    let ingressRules := getLoadBalancerIngressRules rules [] 80 lister
    let egressRules := getLoadBalancerEgressRules (getLoadBalancerEgressRules rules [] 30080 30080
      lister [.ipv4]) [] 10256 10256 lister [.ipv4]
    securityListRulesChanged ⟨rules, rules, 0⟩ ingressRules egressRules = false ∧
      ingressRules.Perm rules ∧ egressRules.Perm rules := by
  intro rules lister ingressRules egressRules
  have hsame : securityListRulesChanged ⟨rules, rules, 0⟩ ingressRules egressRules = false := by
    decide
  exact ⟨hsame, perm_of_not_securityListRulesChanged ⟨rules, rules, 0⟩ ingressRules egressRules
    (.loadBalancer [] 80 lister) (.loadBalancer [] 30080 30080 10256 10256 lister [.ipv4]) hsame⟩

end Skipped

end OciCcm.SecurityLists
