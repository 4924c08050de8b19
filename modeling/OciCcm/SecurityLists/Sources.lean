import OciCcm.SecurityLists.Coverage

/-! # Tightening the allowed sources

When the sources of a service are restricted, the rules for the sources that
are no longer allowed should disappear from the lists of the load balancer's
subnets. They are kept when the listener's port is in use, and the test for
this counts the reconciled service itself.
-/

namespace OciCcm.SecurityLists

open Go Kubernetes LoadBalancer BaseSecurityListManager List

/-- All plain rules on the port are for one of the sources. -/
abbrev OnlyFrom (sourceCIDRs : List String) (port : Nat) (rules : List SecurityRule) : Prop :=
  ∀ rule ∈ rules, rule.PlainOnPort port → rule.cidr ∈ sourceCIDRs

theorem onlyFrom_iff_covered {sourceCIDRs : List String} {port : Nat} {rules : List SecurityRule} :
    OnlyFrom sourceCIDRs port rules ↔ ∀ c, Covered rules port c → c ∈ sourceCIDRs := by
  constructor
  · rintro h c ⟨rule, hrule, rfl, hplain⟩
    exact h rule hrule hplain
  · exact fun h rule hrule hplain => h _ ⟨rule, hrule, rfl, hplain⟩

/-! ## The rules of the load balancer -/

section LbIngress

variable {rules : List SecurityRule} {sourceCIDRs : List String} {port : Nat}
  {lister : ServiceLister}

theorem lbIngress_idem :
    getLoadBalancerIngressRules (getLoadBalancerIngressRules rules sourceCIDRs port lister)
      sourceCIDRs port lister = getLoadBalancerIngressRules rules sourceCIDRs port lister := by
  simp only [lbIngress_eq_rebuild, rebuildPort_idem]

/-- While the port is in use nothing is dropped. -/
theorem lbIngress_of_keepsRules (hkeep : keepsRules (portInUse lister port)) :
    getLoadBalancerIngressRules rules sourceCIDRs port lister =
      rules ++ newRules port (sourceCIDRs.toFinset.filter fun c => ¬Covered rules port c) := by
  have hf : ∀ rule, lbIngressFallback port lister rule := by simp [lbIngressFallback, hkeep]
  have hkept : (Scan.scan (portClaims port) (lbIngressFallback port lister) rules
      sourceCIDRs.toFinset).1 = rules :=
    (Scan.scans.kept_eq_filter fun rule _ => .inr (hf rule)).trans
      (filter_eq_self.mpr fun rule _ => hf rule)
  rw [lbIngress_eq_rebuild, rebuildPort, Scan.rebuild, hkept]
  congr 2
  ext c
  rw [Finset.mem_filter]
  constructor
  · intro hc
    refine ⟨Scan.scans.left_subset hc, ?_⟩
    rintro ⟨rule, hrule, rfl, hplain⟩
    exact (Scan.scans.mem_kept_of_left hrule (mem_portClaims.mpr ⟨rfl, hplain⟩) hc).2
      (if_pos hplain)
  · rintro ⟨hc, hno⟩
    refine (Scan.scans.left_or_kept hc).resolve_right ?_
    rintro ⟨rule, hrule, hclaim⟩
    exact hno ⟨rule, Scan.scans.kept_sublist.subset hrule, mem_portClaims.mp hclaim⟩

theorem onlyFrom_lbIngress (hkeep : keepsRules (portInUse lister port)) :
    OnlyFrom sourceCIDRs port (getLoadBalancerIngressRules rules sourceCIDRs port lister) ↔
      OnlyFrom sourceCIDRs port rules := by
  simp only [onlyFrom_iff_covered, covered_lbIngress]
  refine forall_congr' fun c => ?_
  by_cases hc : c ∈ sourceCIDRs
  · exact iff_of_true (fun _ => hc) fun _ => hc
  · rw [lbIngressEvent, if_neg (not_not.mpr rfl), if_neg hc, if_pos hkeep]
    exact Iff.rfl

end LbIngress

/-! ## The rules of the nodes -/

section NodeIngress

variable {s : BaseSecurityListManager} {sc : SecurityRuleComponents} {rules : List SecurityRule}
  {port : Nat} {c : String}

/-- The rules on the port are for the sources if the wanted address blocks are sources, and
rules of other sources did not exist or are dropped. -/
theorem onlyFrom_nodeIngress (hport : port ≠ 0) :
    OnlyFrom sc.sourceCIDRs port (newNodeIngress s sc rules) ↔
      wantedOn sc port ⊆ sc.sourceCIDRs.toFinset ∧
        (OnlyFrom sc.sourceCIDRs port rules ∨ DropsRules sc s.serviceLister port) := by
  simp only [onlyFrom_iff_covered, covered_nodeIngress_iff]
  constructor
  · intro h
    refine ⟨fun c hc => mem_toFinset.mpr (h c (.inl ⟨hc, .inr hport⟩)), ?_⟩
    by_cases hdrops : DropsRules sc s.serviceLister port
    · exact .inr hdrops
    · exact .inl fun c hc => h c (.inr ⟨hc, hdrops⟩)
  · rintro ⟨hwanted, h⟩ c (⟨hc, -⟩ | ⟨hc, hkeep⟩)
    · exact mem_toFinset.mp (hwanted hc)
    · exact h.resolve_right hkeep c hc

/-! ### One port for backends and health checks -/

/-- How many rules does the address block have on the port? -/
def rulesFor (rules : List SecurityRule) (port : Nat) (cidr : String) : Nat :=
  rules.countP fun rule => rule.cidr = cidr ∧ rule.PlainOnPort port

theorem rulesFor_pos : 0 < rulesFor rules port c ↔ Covered rules port c := by
  simp [rulesFor, countP_pos_iff]

theorem length_newRules (cidrs : Finset String) : (newRules port cidrs).length = cidrs.card := by
  rw [newRules, length_map, ← toFinset_card_of_nodup (nodup_sortedList cidrs)]
  congr 1
  ext c
  simp

/-- Do services check the health of their nodes on the port, so that rules on it are kept? -/
abbrev KeepsPort (s : BaseSecurityListManager) (sc : SecurityRuleComponents) : Prop :=
  keepsRules (healthCheckPortInUse s.serviceLister sc.desiredPorts.healthCheckerPort)

/-- Is the rule dropped unless its address block is wanted? -/
abbrev Droppable (s : BaseSecurityListManager) (sc : SecurityRuleComponents)
    (rule : SecurityRule) : Prop :=
  isOldPortRule sc.actualPorts sc.desiredPorts rule ∨
    (rule.PlainOnPort sc.desiredPorts.backendPort ∧ ¬KeepsPort s sc)

/-- Does the comparison overlook what a pass over the rules of the nodes changes? With one port for
backends and health checks, a load balancer's address block is to have two equal rules. If every
wanted address block has a rule, those with a single one have that which is made a second time,
and as many rules are dropped as are made, then the new rules compare as the old ones. -/
def Overlooked (s : BaseSecurityListManager) (sc : SecurityRuleComponents)
    (rules : List SecurityRule) : Prop :=
  let port := sc.desiredPorts.backendPort
  (port = sc.desiredPorts.healthCheckerPort ∧ port ≠ 0) ∧
  ((∀ c ∈ sc.backends, 0 < rulesFor rules port c) ∧
    ∀ c ∈ sc.subnets, rulesFor rules port c = 1 → makeIngressSecurityRule c port ∈ rules) ∧
  rules.countP (Droppable s sc) =
    if KeepsPort s sc then (sc.subnets.filter (rulesFor rules port · = 1)).card
    else sc.backends.card + sc.subnets.card

section OnePort

variable {rule : SecurityRule} {k : String ⊕ String} {kept : List SecurityRule}
  {left : Finset (String ⊕ String)}
  (heq : sc.desiredPorts.backendPort = sc.desiredPorts.healthCheckerPort)
  (h : Scan.Scans (nodeIngressClaims sc.actualPorts sc.desiredPorts)
    (nodeIngressFallback sc.actualPorts sc.desiredPorts s.serviceLister) rules
    (wantedKeys sc.lbSubnets sc.sourceCIDRs sc.isPreserveSource sc.ipFamilies) kept left)

include heq

theorem plainOnPort_of_mem_claims (hk : k ∈ nodeIngressClaims sc.actualPorts sc.desiredPorts rule) :
    rule.PlainOnPort sc.desiredPorts.backendPort := by
  obtain ⟨-, hplain⟩ := mem_nodeIngressClaims.mp hk
  rcases keyPort_cases sc.desiredPorts k with hport | hport
  · exact hport ▸ hplain
  · exact heq.trans hport.symm ▸ hplain

theorem nodeIngressClaims_eq_pair (hplain : rule.PlainOnPort sc.desiredPorts.backendPort) :
    nodeIngressClaims sc.actualPorts sc.desiredPorts rule = [.inl rule.cidr, .inr rule.cidr] := by
  rw [nodeIngressClaims_of_plain hplain (.inl rfl), if_pos rfl, if_pos heq]
  rfl

theorem nodeIngressFallback_iff_not_droppable :
    nodeIngressFallback sc.actualPorts sc.desiredPorts s.serviceLister rule ↔
      ¬Droppable s sc rule := by
  by_cases hold : isOldPortRule sc.actualPorts sc.desiredPorts rule
  · simp [nodeIngressFallback, Droppable, hold]
  by_cases hplain : rule.PlainOnPort sc.desiredPorts.backendPort
  · rw [nodeIngressFallback_of_plain hplain (.inl rfl), and_iff_right heq]
    simp [Droppable, hold, hplain]
  · simp [nodeIngressFallback_of_not_plain hold hplain (heq ▸ hplain), Droppable, hold, hplain]

include h

/-- The first rule of an address block stands for its backend, the second for its health check. -/
theorem mem_left_nodeIngress (c : String) :
    (.inl c ∈ left ↔ c ∈ sc.backends ∧ rulesFor rules sc.desiredPorts.backendPort c = 0) ∧
    (.inr c ∈ left ↔ c ∈ sc.subnets ∧ rulesFor rules sc.desiredPorts.backendPort c ≤ 1) := by
  have hcount : rules.countP (nodeIngressClaims sc.actualPorts sc.desiredPorts · =
      [.inl c, .inr c]) = rulesFor rules sc.desiredPorts.backendPort c := by
    refine countP_congr fun rule _ => ?_
    rw [decide_eq_true_eq, decide_eq_true_eq]
    constructor
    · intro hpair
      exact mem_nodeIngressClaims (k := .inl c).mp (hpair ▸ mem_cons_self)
    · rintro ⟨rfl, hplain⟩
      exact nodeIngressClaims_eq_pair heq hplain
  have hiff := h.mem_left_iff (fun rule _ k hk =>
    ⟨_, nodeIngressClaims_eq_pair heq (plainOnPort_of_mem_claims heq hk)⟩) c
  rw [hcount] at hiff
  simp only [wantedKeys, Finset.inl_mem_disjSum, Finset.inr_mem_disjSum] at hiff
  refine ⟨hiff.1, hiff.2.trans (and_congr_right fun hc => ?_)⟩
  rw [if_pos (subnetsCidrs_subset_backendCidrs hc)]

/-- The rules that are made exist if every wanted address block has a rule, and those with a
single one have the rule that is made. -/
theorem newNodeRules_subset_iff (hport : sc.desiredPorts.backendPort ≠ 0) :
    (∀ rule ∈ newNodeRules sc.desiredPorts left, rule ∈ rules) ↔
      (∀ c ∈ sc.backends, 0 < rulesFor rules sc.desiredPorts.backendPort c) ∧
      ∀ c ∈ sc.subnets, rulesFor rules sc.desiredPorts.backendPort c = 1 →
        makeIngressSecurityRule c sc.desiredPorts.backendPort ∈ rules := by
  have hleft := mem_left_nodeIngress heq h
  simp only [mem_newNodeRules]
  constructor
  · intro hmem
    refine ⟨fun c hc => Nat.pos_of_ne_zero fun hzero => ?_, fun c hc hone => ?_⟩
    · have hrule := hmem _ ⟨.inl c, (hleft c).1.mpr ⟨hc, hzero⟩, hport, rfl⟩
      refine absurd hzero (rulesFor_pos.mpr ⟨_, hrule, rfl, ?_⟩).ne'
      exact (plainOnPort_makeSecurityRule _ _ _).mpr rfl
    · refine hmem _ ⟨.inr c, (hleft c).2.mpr ⟨hc, hone.le⟩, ?_⟩
      rw [keyPort, ← heq]
      exact ⟨hport, rfl⟩
  · rintro ⟨hpos, hone⟩ rule ⟨c | c, hk, -, rfl⟩
    · obtain ⟨hc, hzero⟩ := (hleft c).1.mp hk
      exact absurd hzero (hpos c hc).ne'
    · obtain ⟨hc, hle⟩ := (hleft c).2.mp hk
      rw [keyPort, ← heq]
      exact hone c hc (hle.antisymm (hpos c (subnetsCidrs_subset_backendCidrs hc)))

/-- As many rules are made as are dropped. -/
theorem length_eq_iff (hport : sc.desiredPorts.backendPort ≠ 0)
    (hpos : ∀ c ∈ sc.backends, 0 < rulesFor rules sc.desiredPorts.backendPort c) :
    (kept ++ newNodeRules sc.desiredPorts left).length = rules.length ↔
      rules.countP (Droppable s sc) =
        if KeepsPort s sc then
          (sc.subnets.filter (rulesFor rules sc.desiredPorts.backendPort · = 1)).card
        else sc.backends.card + sc.subnets.card := by
  have hnew : (newNodeRules sc.desiredPorts left).length = left.card := by
    simp [newNodeRules, length_newRules, hport, ← heq, Finset.card_toLeft_add_card_toRight]
  have htotal : rules.length = rules.countP (Droppable s sc) +
      rules.countP (nodeIngressFallback sc.actualPorts sc.desiredPorts s.serviceLister) := by
    rw [length_eq_countP_add_countP (Droppable s sc)]
    congr 1
    refine countP_congr fun rule _ => ?_
    rw [nodeIngressFallback_iff_not_droppable heq, decide_eq_true_eq, decide_eq_true_eq]
  rw [length_append, hnew, htotal]
  by_cases hkeep : KeepsPort s sc
  · have hkept := h.kept_eq_filter fun rule _ => or_iff_not_imp_left.mpr fun hclaims => by
      obtain ⟨k, hk⟩ := exists_mem_of_ne_nil _ hclaims
      rw [nodeIngressFallback_iff_not_droppable heq]
      rintro (hold | ⟨-, hno⟩)
      · exact not_isOldPortRule (plainOnPort_of_mem_claims heq hk).onPort (.inl rfl) hold
      · exact hno hkeep
    have hcard : left = Finset.disjSum ∅ (sc.subnets.filter
        (rulesFor rules sc.desiredPorts.backendPort · = 1)) := by
      ext k
      cases k with
      | inl c => simpa [mem_left_nodeIngress heq h] using fun hc => (hpos c hc).ne'
      | inr c =>
        simp only [mem_left_nodeIngress heq h, Finset.inr_mem_disjSum, Finset.mem_filter]
        refine and_congr_right fun hc => ?_
        have := hpos c (subnetsCidrs_subset_backendCidrs hc)
        omega
    rw [if_pos hkeep, hkept, hcard, Finset.card_disjSum, ← countP_eq_length_filter]
    simp only [Finset.card_empty]
    omega
  · have hkept := h.length_kept_add_card fun rule _ hf =>
      eq_nil_iff_forall_not_mem.mpr fun k hk => (nodeIngressFallback_iff_not_droppable heq).mp
        hf (.inr ⟨plainOnPort_of_mem_claims heq hk, hkeep⟩)
    have hcard : (wantedKeys _ _ _ _).card = sc.backends.card + sc.subnets.card :=
      Finset.card_disjSum _ _
    rw [if_neg hkeep, hkept, hcard]
    omega

end OnePort

theorem overlooked_iff :
    Overlooked s sc rules ↔
      (sc.desiredPorts.backendPort = sc.desiredPorts.healthCheckerPort ∧
        sc.desiredPorts.backendPort ≠ 0) ∧ ¬rulesChanged rules (newNodeIngress s sc rules) := by
  refine and_congr_right fun ⟨heq, hport⟩ => ?_
  rw [not_rulesChanged_iff, newNodeIngress, nodeIngress_eq_rebuild, Scan.rebuild]
  have h := @Scan.scans _ _ _ (nodeIngressClaims sc.actualPorts sc.desiredPorts)
    (nodeIngressFallback sc.actualPorts sc.desiredPorts s.serviceLister) rules
    (wantedKeys sc.lbSubnets sc.sourceCIDRs sc.isPreserveSource sc.ipFamilies)
  constructor
  · rintro ⟨hsub, hcount⟩
    refine ⟨(length_eq_iff heq h hport hsub.1).mpr hcount, fun rule hrule => ?_⟩
    rcases mem_append.mp hrule with hkept | hnew
    · exact h.kept_sublist.subset hkept
    · exact (newNodeRules_subset_iff heq h hport).mpr hsub rule hnew
  · rintro ⟨hlength, hmem⟩
    have hsub := (newNodeRules_subset_iff heq h hport).mp fun rule hrule =>
      hmem rule (mem_append_right _ hrule)
    exact ⟨hsub, (length_eq_iff heq h hport hsub.1).mp hlength⟩

end NodeIngress

/-! ## Passes over a list -/

section Passes

variable {s : BaseSecurityListManager} {secList : SecurityList} {sc : SecurityRuleComponents}
  {nodeSubnets : List SubnetWithLists} {rules : List SecurityRule}

theorem ingress_iterate_lbPass (hlistener : sc.desiredPorts.listenerPort ≠ 0) (n : Nat) :
    ((lbPass s sc nodeSubnets)^[n + 1] secList).ingressSecurityRules =
      newLbIngress s sc secList.ingressSecurityRules := by
  induction n generalizing secList with
  | zero => exact ingress_lbPass hlistener
  | succ n ih =>
    rw [Function.iterate_succ_apply, ih, ingress_lbPass hlistener]
    exact lbIngress_idem

/-- When a pass over the rules of the nodes leaves rules on the listener's port for its
sources only. -/
def NodesOnlyFrom (s : BaseSecurityListManager) (sc : SecurityRuleComponents)
    (rules : List SecurityRule) : Prop :=
  wantedOn sc sc.desiredPorts.listenerPort ⊆ sc.sourceCIDRs.toFinset ∧
    (OnlyFrom sc.sourceCIDRs sc.desiredPorts.listenerPort rules ∨
      (DropsRules sc s.serviceLister sc.desiredPorts.listenerPort ∧
        ¬Overlooked s sc rules))

theorem onlyFrom_nodePass (hlistener : sc.desiredPorts.listenerPort ≠ 0) :
    OnlyFrom sc.sourceCIDRs sc.desiredPorts.listenerPort
        (nodePass s sc secList).ingressSecurityRules ↔
      NodesOnlyFrom s sc secList.ingressSecurityRules := by
  have hnew : OnlyFrom sc.sourceCIDRs sc.desiredPorts.listenerPort
      (newNodeIngress s sc secList.ingressSecurityRules) ↔ _ := onlyFrom_nodeIngress hlistener
  rw [ingress_nodePass, NodesOnlyFrom]
  by_cases hchanged : rulesChanged secList.ingressSecurityRules
      (newNodeIngress s sc secList.ingressSecurityRules)
  · have hnoticed : ¬Overlooked s sc secList.ingressSecurityRules := fun h =>
      (overlooked_iff.mp h).2 hchanged
    rw [if_pos hchanged, hnew]
    simp only [hnoticed, not_false_eq_true, and_true]
  rw [if_neg hchanged]
  by_cases hover : Overlooked s sc secList.ingressSecurityRules
  · simp only [hover, not_true, and_false, or_false]
    refine ⟨fun h => ⟨fun c hc => ?_, h⟩, And.right⟩
    obtain ⟨rule, hrule, rfl, hplain⟩ := covered_nodeIngress_of_wanted hc (.inr hlistener)
    exact mem_toFinset.mpr (h rule ((not_rulesChanged_iff.mp hchanged).2 rule hrule) hplain)
  · have heq := nodeIngress_eq_of_not_rulesChanged (fun heq => by_contra fun hport =>
      hover (overlooked_iff.mpr ⟨⟨heq, hport⟩, hchanged⟩)) hchanged
    rw [newNodeIngress, heq] at hnew
    simp only [hover, not_false_eq_true, and_true]
    exact hnew

theorem onlyFrom_iterate_nodePass (hlistener : sc.desiredPorts.listenerPort ≠ 0) (n : Nat) :
    OnlyFrom sc.sourceCIDRs sc.desiredPorts.listenerPort
        ((nodePass s sc)^[n + 1] secList).ingressSecurityRules ↔
      NodesOnlyFrom s sc secList.ingressSecurityRules := by
  induction n generalizing secList with
  | zero => exact onlyFrom_nodePass hlistener
  | succ n ih =>
    have hfirst : _ ↔ NodesOnlyFrom s sc secList.ingressSecurityRules :=
      onlyFrom_nodePass hlistener
    rw [Function.iterate_succ_apply, ih, ← hfirst]
    constructor
    · rintro ⟨hwanted, honly | ⟨hdrops, hnoticed⟩⟩
      · exact honly
      · refine hfirst.mpr ⟨hwanted, .inr ⟨hdrops, fun hover => hnoticed ?_⟩⟩
        -- what a first pass leaves as it is, the next one finds again
        rwa [ingress_nodePass, if_neg (overlooked_iff.mp hover).2]
    · exact fun honly => ⟨(hfirst.mp honly).1, .inl honly⟩

end Passes

/-! ## The update of a manager -/

section Update

variable {s : BaseSecurityListManager} {mode : ManagementMode} {sc : SecurityRuleComponents}
  {store store' : Store} {subnet : SubnetWithLists} {id : String} {secList : SecurityList}
  {service : Service} {services : List Service} {rules : List SecurityRule}

/-- After the update, the lists of the load balancer's subnets have rules on the listener's
port for its sources only. -/
def Tightened (s : BaseSecurityListManager) (sc : SecurityRuleComponents)
    (store store' : Store) : Prop :=
  ∀ subnet ∈ sc.lbSubnets, ∀ id secList, s.listInCharge store subnet = some id →
    store'.lookup id = some secList →
    OnlyFrom sc.sourceCIDRs sc.desiredPorts.listenerPort secList.ingressSecurityRules

/-- Does the update also treat the list as one of a node subnet? -/
def SharedWithNodes (s : BaseSecurityListManager) (mode : ManagementMode)
    (sc : SecurityRuleComponents) (store : Store) (id : String) : Prop :=
  mode = .all ∧ ∃ subnet ∈ sc.backendSubnets, s.listInCharge store subnet = some id

theorem keepsRules_of_live (hservice : service ∈ services)
    (hlive : service.deletionTimestamp = none) (htype : service.type = .loadBalancer) {port : Nat}
    (hport : ∃ p ∈ service.ports, p.port = port) :
    keepsRules (portInUse (.ok services) port) := by
  obtain ⟨p, hp, hport⟩ := hport
  refine any_eq_true.mpr ⟨service, hservice, ?_⟩
  rw [hlive, htype]
  simpa using ⟨p, hp, hport⟩

/-- The rules of a list, and those on the listener's port for sources that have none. -/
def withSources (sc : SecurityRuleComponents) (rules : List SecurityRule) : List SecurityRule :=
  rules ++ newRules sc.desiredPorts.listenerPort (sc.sourceCIDRs.toFinset.filter fun c =>
    ¬Covered rules sc.desiredPorts.listenerPort c)

/-- The condition on the rules that a list of the load balancer had before. -/
def StartsTight (s : BaseSecurityListManager) (mode : ManagementMode)
    (sc : SecurityRuleComponents) (store : Store) (id : String)
    (rules : List SecurityRule) : Prop :=
  (SharedWithNodes s mode sc store id →
    wantedOn sc sc.desiredPorts.listenerPort ⊆ sc.sourceCIDRs.toFinset) ∧
  (OnlyFrom sc.sourceCIDRs sc.desiredPorts.listenerPort rules ∨
    (SharedWithNodes s mode sc store id ∧
      DropsRules sc s.serviceLister sc.desiredPorts.listenerPort ∧
      ¬Overlooked s sc (withSources sc rules)))

theorem startsTight_of_not_shared (hshared : ¬SharedWithNodes s mode sc store id) :
    StartsTight s mode sc store id rules ↔
      OnlyFrom sc.sourceCIDRs sc.desiredPorts.listenerPort rules := by
  simp only [StartsTight, hshared, false_implies, true_and, false_and, or_false]

theorem startsTight_of_ne_all (hmode : mode ≠ .all) :
    StartsTight s mode sc store id rules ↔
      OnlyFrom sc.sourceCIDRs sc.desiredPorts.listenerPort rules :=
  startsTight_of_not_shared fun hshared => hmode hshared.1

/-- What an update does to a list of the load balancer. -/
theorem onlyFrom_update (hlistener : sc.desiredPorts.listenerPort ≠ 0)
    (hkeep : keepsRules (portInUse s.serviceLister sc.desiredPorts.listenerPort))
    (h : s.update mode sc store = .ok store') (hsubnet : subnet ∈ sc.lbSubnets)
    (hget : s.getSecurityList store subnet = .ok (id, secList)) :
    ∃ secList', store'.lookup id = some secList' ∧
      (OnlyFrom sc.sourceCIDRs sc.desiredPorts.listenerPort secList'.ingressSecurityRules ↔
        StartsTight s mode sc store id secList.ingressSecurityRules) := by
  have hlookup := lookup_of_getSecurityList hget
  obtain ⟨m, hm⟩ : ∃ m, s.subnetsInCharge store sc.lbSubnets id = m + 1 :=
    Nat.exists_eq_succ_of_ne_zero (subnetsInCharge_pos hsubnet
      (listInCharge_eq_some.mpr ⟨secList, hget⟩)).ne'
  cases mode with
  | all =>
    obtain ⟨-, hstore⟩ := two_loops_ok h
    have hlb : ((lbPass s sc sc.backendSubnets)^[m + 1] secList).ingressSecurityRules =
        newLbIngress s sc secList.ingressSecurityRules := ingress_iterate_lbPass hlistener m
    refine ⟨(nodePass s sc)^[s.subnetsInCharge store sc.backendSubnets id]
      ((lbPass s sc sc.backendSubnets)^[m + 1] secList), ?_, ?_⟩
    · rw [hstore, hlookup, hm]
      rfl
    · by_cases hshared : SharedWithNodes s .all sc store id
      · have ⟨_, subnet', hsubnet', hcharge⟩ := hshared
        obtain ⟨n, hn⟩ := Nat.exists_eq_succ_of_ne_zero
          (subnetsInCharge_pos hsubnet' hcharge).ne'
        rw [hn, onlyFrom_iterate_nodePass hlistener, hlb, NodesOnlyFrom, newLbIngress,
          onlyFrom_lbIngress hkeep, lbIngress_of_keepsRules hkeep, ← withSources, StartsTight]
        simp only [hshared, true_implies, true_and]
      · have hn : s.subnetsInCharge store sc.backendSubnets id = 0 := by
          refine countP_eq_zero.mpr fun subnet' hsubnet' hcharge => hshared ⟨rfl, ?_⟩
          exact ⟨subnet', hsubnet', by simpa using hcharge⟩
        rw [hn, Function.iterate_zero_apply, hlb, newLbIngress, onlyFrom_lbIngress hkeep,
          startsTight_of_not_shared hshared]
  | frontend =>
    obtain ⟨-, -, hstore⟩ := foldlM_rewriteStep_ok h
    have hlb : ((lbPass s sc [])^[m + 1] secList).ingressSecurityRules =
        newLbIngress s sc secList.ingressSecurityRules := ingress_iterate_lbPass hlistener m
    refine ⟨(lbPass s sc [])^[m + 1] secList, ?_, ?_⟩
    · rw [hstore, hlookup, hm]
      rfl
    · rw [hlb, newLbIngress, onlyFrom_lbIngress hkeep,
        startsTight_of_ne_all (by decide)]
  | none =>
    cases h
    exact ⟨secList, hlookup, (startsTight_of_ne_all (by decide)).symm⟩
  | nsg =>
    cases h
    exact ⟨secList, hlookup, (startsTight_of_ne_all (by decide)).symm⟩

/-- The sources take effect exactly if no rule for another source was there before: the live
service itself keeps its port in use. Only a list that also serves a node subnet can lose
such rules, and there the rules of the nodes must not allow more. -/
theorem tightened_iff_startsTight (hlister : s.serviceLister = .ok services)
    (hservice : service ∈ services) (hlive : service.deletionTimestamp = none)
    (htype : service.type = .loadBalancer)
    (hport : ∃ p ∈ service.ports, p.port = sc.desiredPorts.listenerPort)
    (hlistener : sc.desiredPorts.listenerPort ≠ 0) (h : s.update mode sc store = .ok store') :
    Tightened s sc store store' ↔
      ∀ subnet ∈ sc.lbSubnets, ∀ id secList, s.getSecurityList store subnet = .ok (id, secList) →
        StartsTight s mode sc store id secList.ingressSecurityRules := by
  have hkeep : keepsRules (portInUse s.serviceLister sc.desiredPorts.listenerPort) := by
    rw [hlister]
    exact keepsRules_of_live hservice hlive htype hport
  constructor
  · intro htight subnet hsubnet id secList hget
    obtain ⟨secList', hlookup, hiff⟩ := onlyFrom_update hlistener hkeep h hsubnet hget
    refine hiff.mp (htight subnet hsubnet id secList' ?_ hlookup)
    exact listInCharge_eq_some.mpr ⟨secList, hget⟩
  · intro htight subnet hsubnet id secList' hcharge hlookup'
    obtain ⟨secList, hget⟩ := listInCharge_eq_some.mp hcharge
    obtain ⟨secList'', hlookup, hiff⟩ := onlyFrom_update hlistener hkeep h hsubnet hget
    obtain rfl : secList'' = secList' := Option.some.inj (hlookup.symm.trans hlookup')
    exact hiff.mpr (htight subnet hsubnet id secList hget)

/-- A service with one port, alone in its cluster. -/
def webService : Service :=
  { ns := "default", name := "web", type := .loadBalancer, ports := [⟨.tcp, 443, 30443⟩],
    externalTrafficPolicy := some .cluster }

def webManager : BaseSecurityListManager := { serviceLister := .ok [webService] }

/-- The update for its listener, as it follows from its sources. -/
def webComponents (sourceCIDRs : List String) : SecurityRuleComponents where
  sourceCIDRs := sourceCIDRs
  isPreserveSource := false
  lbSubnets := [{ id := "lb", cidrBlock := some "10.0.20.0/24", securityListIds := ["lb-list"] }]
  backendSubnets :=
    [{ id := "nodes", cidrBlock := some "10.0.10.0/24", securityListIds := ["node-list"] }]
  actualPorts := none
  desiredPorts := ⟨443, 30443, 10256⟩
  ipFamilies := [.ipv4]

/-- The security lists, with the sources allowed so far. -/
def webStore (sourceCIDRs : List String) : Store :=
  GoMap.ofPairs
    [("lb-list", ⟨sourceCIDRs.map (makeIngressSecurityRule · 443), [], 0⟩), ("node-list", ⟨[], [], 0⟩)]

/-- Where nothing has to be removed, the sources take effect. -/
theorem webService_tightened :
    ∃ store', webManager.update .all (webComponents ["10.0.0.0/8", "192.168.0.0/16"])
        (webStore ["10.0.0.0/8"]) = .ok store' ∧
      Tightened webManager (webComponents ["10.0.0.0/8", "192.168.0.0/16"])
        (webStore ["10.0.0.0/8"]) store' := by
  obtain ⟨store', h⟩ : ∃ store', webManager.update .all
      (webComponents ["10.0.0.0/8", "192.168.0.0/16"]) (webStore ["10.0.0.0/8"]) = .ok store' :=
    ⟨_, rfl⟩
  refine ⟨store', h, (tightened_iff_startsTight rfl
    (mem_singleton_self webService) rfl rfl ⟨_, mem_cons_self, rfl⟩ (by decide) h).mpr ?_⟩
  rintro subnet hsubnet id secList hget
  obtain rfl := mem_singleton.mp hsubnet
  obtain ⟨rfl, rfl⟩ : "lb-list" = id ∧ _ = secList := Prod.mk.inj (Except.ok.inj hget)
  refine (startsTight_of_not_shared ?_).mpr (by decide)
  rintro ⟨-, subnet, hsubnet, hcharge⟩
  obtain rfl := mem_singleton.mp hsubnet
  exact absurd hcharge (by decide)

/-- No other service uses the port, and yet the source that is no longer allowed still has
its rule. -/
theorem webService_not_tightened :
    ∃ store', webManager.update .all (webComponents ["10.0.0.0/8"]) (webStore ["0.0.0.0/0"]) =
        .ok store' ∧
      portInUse (.ok (otherServices webService [webService])) 443 = .ok false ∧
      ¬Tightened webManager (webComponents ["10.0.0.0/8"]) (webStore ["0.0.0.0/0"]) store' := by
  refine ⟨_, rfl, rfl, fun h => ?_⟩
  exact absurd (h _ mem_cons_self "lb-list" _ rfl rfl) (by decide)

end Update

end OciCcm.SecurityLists
