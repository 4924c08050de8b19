import OciCcm.SecurityLists.Rules

/-! # What the rule functions keep, drop and add

Each rule function is a scan that consumes the wanted address blocks. This file
identifies it with the generic scan and states which rules are found in its
result.
-/

namespace OciCcm.SecurityLists

open Go Kubernetes LoadBalancer List

/-- The services without the one that is reconciled. -/
def otherServices (service : Service) (services : List Service) : List Service :=
  services.filter fun s => ¬(s.ns = service.ns ∧ s.name = service.name)

/-! ## Rules on one port -/

namespace SecurityRule

variable {rule : SecurityRule} {p q : Nat}

theorem destination_of_plain {r : PortRange} (h : rule.plainDestination = some r) :
    rule.destination = some r := by
  unfold plainDestination at h
  unfold destination
  cases htcp : rule.tcpOptions with
  | none => simp [htcp] at h
  | some tcp =>
    rw [htcp] at h
    dsimp only at h
    split at h
    · cases h
    · exact h

theorem PlainOnPort.onPort (h : rule.PlainOnPort p) : rule.OnPort p := destination_of_plain h

theorem OnPort.inj (h : rule.OnPort p) (h' : rule.OnPort q) : p = q := by
  unfold OnPort at h h'
  rw [h] at h'
  simpa using h'

theorem PlainOnPort.inj (h : rule.PlainOnPort p) (h' : rule.PlainOnPort q) : p = q :=
  h.onPort.inj h'.onPort

end SecurityRule

@[simp] theorem plainOnPort_makeSecurityRule (cidr : String) (p q : Nat) :
    (makeSecurityRule cidr p).PlainOnPort q ↔ p = q := by
  simp [SecurityRule.PlainOnPort, SecurityRule.plainDestination, makeSecurityRule]

/-! ## Rules on a given port -/

/-- Is there a TCP rule for the port alone, from any source port, for the address block? -/
abbrev Covered (rules : List SecurityRule) (port : Nat) (cidr : String) : Prop :=
  ∃ rule ∈ rules, rule.cidr = cidr ∧ rule.PlainOnPort port

/-- The address blocks that a rule stands for on a port. -/
def portClaims (port : Nat) (rule : SecurityRule) : List String :=
  if rule.PlainOnPort port then [rule.cidr] else []

/-- New rules on a port for the address blocks that have none. -/
def newRules (port : Nat) (left : Finset String) : List SecurityRule :=
  (sortedList left).map (makeSecurityRule · port)

/-- The rules on a port are brought in line with the wanted address blocks. -/
def rebuildPort (port : Nat) (fallback : SecurityRule → Bool) :
    List SecurityRule → Finset String → List SecurityRule :=
  Scan.rebuild (portClaims port) fallback (newRules port)

section OnePort

variable {port : Nat} {cidrs : Finset String} {rules : List SecurityRule} {rule : SecurityRule}
  {fallback : SecurityRule → Bool} {c : String}

theorem mem_portClaims : c ∈ portClaims port rule ↔ rule.cidr = c ∧ rule.PlainOnPort port := by
  unfold portClaims
  split
  · next h => simp [h, eq_comm]
  · next h => simp [h]

theorem portClaims_makeSecurityRule : portClaims port (makeSecurityRule c port) = [c] :=
  if_pos ((plainOnPort_makeSecurityRule _ _ _).mpr rfl)

theorem mem_newRules : rule ∈ newRules port cidrs ↔ ∃ c ∈ cidrs, makeSecurityRule c port = rule := by
  simp [newRules]

@[simp] theorem newRules_empty : newRules port ∅ = [] := by simp [newRules]

theorem plainOnPort_of_mem_newRules (h : rule ∈ newRules port cidrs) : rule.PlainOnPort port := by
  obtain ⟨c, -, rfl⟩ := mem_newRules.mp h
  exact (plainOnPort_makeSecurityRule _ _ _).mpr rfl

/-- New rules are found again when they are the first choice for their address blocks. -/
theorem scans_newRules {κ : Type} [DecidableEq κ] {claims : SecurityRule → List κ}
    {left : Finset κ} {key : String → κ} (hkey : Function.Injective key)
    (hleft : ∀ c ∈ cidrs, key c ∈ left) (htakes : ∀ c ∈ cidrs, ∀ left' ⊆ left, key c ∈ left' →
      (claims (makeSecurityRule c port)).find? (· ∈ left') = some (key c)) :
    Scan.Scans claims fallback (newRules port cidrs) left (newRules port cidrs)
      (left \ cidrs.image key) := by
  rw [show cidrs.image key = ((sortedList cidrs).map key).toFinset by ext; simp]
  exact Scan.scans_map ((nodup_sortedList cidrs).map hkey)
    (fun c h => hleft c (mem_sortedList.mp h)) fun c h => htakes c (mem_sortedList.mp h)

theorem rebuildPort_idem : rebuildPort port fallback (rebuildPort port fallback rules cidrs) cidrs =
    rebuildPort port fallback rules cidrs := by
  refine Scan.rebuild_rebuild fun left _ => ⟨_, scans_newRules Function.injective_id (fun _ h => h)
    fun c _ left' _ hc => ?_, by simp⟩
  simpa [portClaims_makeSecurityRule] using hc

theorem filter_rebuildPort {p : SecurityRule → Bool}
    (hp : ∀ rule, p rule → ¬rule.PlainOnPort port) :
    (rebuildPort port fallback rules cidrs).filter p =
      rules.filter fun rule => p rule && fallback rule :=
  Scan.filter_rebuild (fun rule _ h => if_neg (hp rule h))
    fun rule hrule h => hp rule h (plainOnPort_of_mem_newRules hrule)

/-- A rule of the result was there before and is kept, or it is made for a wanted address block. -/
theorem mem_rebuildPort_cases (h : rule ∈ rebuildPort port fallback rules cidrs) :
    (rule ∈ rules ∧ (fallback rule ∨ (rule.cidr ∈ cidrs ∧ rule.PlainOnPort port))) ∨
      ∃ c ∈ cidrs, rule = makeSecurityRule c port := by
  rcases mem_append.mp h with h | h
  · refine .inl ⟨Scan.scans.kept_sublist.subset h, (Scan.scans.fallback_or_claims h).imp_right ?_⟩
    rintro ⟨c, hc, hwanted⟩
    obtain ⟨rfl, hplain⟩ := mem_portClaims.mp hc
    exact ⟨hwanted, hplain⟩
  · obtain ⟨c, hc, rfl⟩ := mem_newRules.mp h
    exact .inr ⟨c, Scan.scans.left_subset hc, rfl⟩

/-- On every port, a slot is covered afterwards if it is wanted, or if it was covered and rules on
the port are kept. -/
theorem covered_rebuildPort {p : Nat} {keep : Prop}
    (hkeep : ∀ rule, rule.PlainOnPort p → (fallback rule ↔ keep)) :
    Covered (rebuildPort port fallback rules cidrs) p c ↔
      (p = port ∧ c ∈ cidrs) ∨ (keep ∧ Covered rules p c) := by
  constructor
  · rintro ⟨rule, hrule, rfl, hplain⟩
    rcases mem_rebuildPort_cases hrule with ⟨hold, hf | ⟨hc, hport⟩⟩ | ⟨c, hc, rfl⟩
    · exact .inr ⟨(hkeep rule hplain).mp hf, rule, hold, rfl, hplain⟩
    · exact .inl ⟨hplain.inj hport, hc⟩
    · exact .inl ⟨((plainOnPort_makeSecurityRule _ _ _).mp hplain).symm, hc⟩
  · rintro (⟨rfl, hc⟩ | ⟨hk, rule, hrule, hcidr, hplain⟩)
    · simp only [Covered, ← mem_portClaims]
      exact Scan.exists_rebuild hc fun left h =>
        ⟨_, mem_newRules.mpr ⟨c, h, rfl⟩, by simp [portClaims_makeSecurityRule]⟩
    · exact ⟨rule, Scan.mem_rebuild_of_fallback hrule ((hkeep rule hplain).mpr hk), hcidr, hplain⟩

/-- No rule is made that exists. -/
theorem notMem_of_mem_newRules
    (h : rule ∈ newRules port (Scan.scan (portClaims port) fallback rules cidrs).2) :
    rule ∉ rules := by
  obtain ⟨c, hc, rfl⟩ := mem_newRules.mp h
  intro hmem
  refine (Scan.scans.mem_kept_of_left hmem ?_ hc).2 portClaims_makeSecurityRule
  simp [portClaims_makeSecurityRule]

end OnePort

/-! ## Ingress to the load balancer -/

section LbIngress

variable {port : Nat} {lister : ServiceLister} {rules : List SecurityRule}
  {sourceCIDRs : List String} {rule : SecurityRule} {c : String}

/-- Is the rule kept although its address block is not wanted? -/
def lbIngressFallback (port : Nat) (lister : ServiceLister) (rule : SecurityRule) : Bool :=
  !rule.PlainOnPort port || keepsRules (portInUse lister port)

theorem lbIngressStep_eq_step :
    lbIngressStep port lister = Scan.step (portClaims port) (lbIngressFallback port lister) := by
  funext st rule
  unfold lbIngressStep Scan.step portClaims lbIngressFallback
  by_cases hplain : rule.PlainOnPort port
  · by_cases hmem : rule.cidr ∈ st.2
    · simp [hplain, hmem]
    · simp [hplain, hmem]
  · simp [hplain]

theorem lbIngress_eq_rebuild : getLoadBalancerIngressRules rules sourceCIDRs port lister =
    rebuildPort port (lbIngressFallback port lister) rules sourceCIDRs.toFinset := by
  unfold getLoadBalancerIngressRules rebuildPort Scan.rebuild Scan.scan
  rw [lbIngressStep_eq_step]
  dsimp only
  split
  · next hempty => simp [hempty]
  · rfl

theorem mem_lbIngress_cases (h : rule ∈ getLoadBalancerIngressRules rules sourceCIDRs port lister) :
    rule ∈ rules ∨ ∃ c ∈ sourceCIDRs, rule = makeIngressSecurityRule c port := by
  rw [lbIngress_eq_rebuild] at h
  exact (mem_rebuildPort_cases h).imp And.left fun ⟨c, hc, heq⟩ => ⟨c, mem_toFinset.mp hc, heq⟩

end LbIngress

/-! ## Egress from the load balancer -/

section LbEgress

variable {actualPort desiredPort : Nat} {lister : ServiceLister} {rules : List SecurityRule}
  {nodeSubnets : List SubnetWithLists} {ipFamilies : List IpVersion} {rule : SecurityRule}

/-- Is this a rule of the old port of a port change? -/
def isOldEgressRule (actualPort desiredPort : Nat) (rule : SecurityRule) : Bool :=
  desiredPort ≠ actualPort ∧ rule.OnPort actualPort

def lbEgressFallback (actualPort desiredPort : Nat) (lister : ServiceLister)
    (rule : SecurityRule) : Bool :=
  !isOldEgressRule actualPort desiredPort rule &&
    (!rule.PlainOnPort desiredPort || keepsRules (healthCheckPortInUse lister desiredPort))

theorem not_isOldEgressRule (h : rule.OnPort desiredPort) :
    ¬isOldEgressRule actualPort desiredPort rule := by
  simp only [isOldEgressRule, decide_eq_true_eq, not_and]
  exact fun hne hold => hne (h.inj hold)

theorem lbEgressStep_eq_step : lbEgressStep actualPort desiredPort lister =
    Scan.step (portClaims desiredPort) (lbEgressFallback actualPort desiredPort lister) := by
  funext st rule
  unfold lbEgressStep Scan.step portClaims lbEgressFallback
  by_cases hplain : rule.PlainOnPort desiredPort
  · have hold := @not_isOldEgressRule actualPort _ _ hplain.onPort
    simp only [isOldEgressRule, decide_eq_true_eq] at hold
    by_cases hmem : rule.cidr ∈ st.2
    · simp [hold, hplain, hmem]
    · simp [hold, isOldEgressRule, hplain, hmem]
  · by_cases hold : desiredPort ≠ actualPort ∧ rule.OnPort actualPort
    · simp [hold, isOldEgressRule, hplain]
    · simp [hold, isOldEgressRule, hplain]

theorem lbEgress_eq_rebuild :
    getLoadBalancerEgressRules rules nodeSubnets actualPort desiredPort lister ipFamilies =
      rebuildPort desiredPort (lbEgressFallback actualPort desiredPort lister) rules
        (subnetsCidrs ipFamilies nodeSubnets) := by
  unfold getLoadBalancerEgressRules rebuildPort Scan.rebuild Scan.scan
  rw [lbEgressStep_eq_step]
  dsimp only
  split
  · next hempty => simp [hempty]
  · rfl

theorem mem_lbEgress_cases
    (h : rule ∈ getLoadBalancerEgressRules rules nodeSubnets actualPort desiredPort lister
      ipFamilies) :
    rule ∈ rules ∨ ∃ c ∈ subnetsCidrs ipFamilies nodeSubnets,
      rule = makeEgressSecurityRule c desiredPort := by
  rw [lbEgress_eq_rebuild] at h
  exact (mem_rebuildPort_cases h).imp_left And.left

theorem notMem_lbEgress_of_old (hold : isOldEgressRule actualPort desiredPort rule) :
    rule ∉ getLoadBalancerEgressRules rules nodeSubnets actualPort desiredPort lister
      ipFamilies := by
  rw [lbEgress_eq_rebuild]
  intro h
  rcases mem_rebuildPort_cases h with ⟨-, hf | ⟨-, hplain⟩⟩ | ⟨c, -, rfl⟩
  · simp [lbEgressFallback, hold] at hf
  · exact not_isOldEgressRule hplain.onPort hold
  · exact not_isOldEgressRule ((plainOnPort_makeSecurityRule _ _ _).mpr rfl).onPort hold

end LbEgress

/-! ## Ingress to the nodes -/

section NodeIngress

variable {actualPorts : Option PortSpec} {desiredPorts : PortSpec} {lister : ServiceLister}
  {rules : List SecurityRule} {lbSubnets : List SubnetWithLists} {sourceCIDRs : List String}
  {isPreserveSource : Bool} {ipFamilies : List IpVersion} {rule : SecurityRule} {p : Nat}
  {k : String ⊕ String} {left : Finset (String ⊕ String)}

/-- Does the rule concern the old or the new ports? -/
def concernsPorts (actualPorts : Option PortSpec) (desiredPorts : PortSpec)
    (r : PortRange) : Bool :=
  portRangeMatchesSpec r (some desiredPorts) || portRangeMatchesSpec r actualPorts

/-- The address blocks that a rule stands for: of a backend on the left, of a health check
on the right. -/
def nodeIngressClaims (actualPorts : Option PortSpec) (desiredPorts : PortSpec)
    (rule : SecurityRule) : List (String ⊕ String) :=
  if isOldPortRule actualPorts desiredPorts rule then []
  else match rule.plainDestination with
    | none => []
    | some r =>
      if concernsPorts actualPorts desiredPorts r then
        (if r.max = desiredPorts.backendPort then [.inl rule.cidr] else []) ++
          (if r.max = desiredPorts.healthCheckerPort then [.inr rule.cidr] else [])
      else []

theorem concernsPorts_iff {r : PortRange} :
    concernsPorts actualPorts desiredPorts r ↔
      r.min = r.max ∧ (r.max = desiredPorts.backendPort ∨ r.max = desiredPorts.healthCheckerPort ∨
        ∃ ports, actualPorts = some ports ∧
          (r.max = ports.backendPort ∨ r.max = ports.healthCheckerPort)) := by
  cases actualPorts with
  | none =>
    simp only [concernsPorts, portRangeMatchesSpec, Bool.or_eq_true, Bool.and_eq_true,
      decide_eq_true_eq, reduceCtorEq, false_and, exists_false, Bool.false_eq_true, or_false]
    omega
  | some ports =>
    simp only [concernsPorts, portRangeMatchesSpec, Bool.or_eq_true, Bool.and_eq_true,
      decide_eq_true_eq, Option.some.injEq, exists_eq_left']
    omega

/-- Did the service use the port before, and does it not use it now? -/
abbrev GivesUpPort (actualPorts : Option PortSpec) (desiredPorts : PortSpec) (port : Nat) : Prop :=
  port ≠ desiredPorts.backendPort ∧ port ≠ desiredPorts.healthCheckerPort ∧
    (port = (actualPorts.map (·.backendPort)).getD 0 ∨
      port = (actualPorts.map (·.healthCheckerPort)).getD 0)

theorem isOldPortRule_iff {port : Nat} (hport : rule.OnPort port) :
    isOldPortRule actualPorts desiredPorts rule ↔ GivesUpPort actualPorts desiredPorts port := by
  unfold isOldPortRule GivesUpPort
  rw [show rule.destination = some _ from hport]
  simp [and_assoc]

theorem isOldPortRule_iff_exists :
    isOldPortRule actualPorts desiredPorts rule ↔
      ∃ port, rule.OnPort port ∧ GivesUpPort actualPorts desiredPorts port := by
  constructor
  · intro h
    cases hdest : rule.destination with
    | none => simp [isOldPortRule, hdest] at h
    | some r =>
      have hsingle : r.min = r.max := by
        simp only [isOldPortRule, hdest, Bool.and_eq_true, decide_eq_true_eq] at h
        exact h.1.1.1
      have hport : rule.OnPort r.max := by
        rw [SecurityRule.OnPort, hdest, show r = ⟨r.max, r.max⟩ from PortRange.ext hsingle rfl]
      exact ⟨r.max, hport, (isOldPortRule_iff hport).mp h⟩
  · rintro ⟨port, hport, hgives⟩
    exact (isOldPortRule_iff hport).mpr hgives

theorem not_isOldPortRule (hport : rule.OnPort p)
    (hp : p = desiredPorts.backendPort ∨ p = desiredPorts.healthCheckerPort) :
    ¬isOldPortRule actualPorts desiredPorts rule := by
  rw [isOldPortRule_iff hport]
  exact fun h => hp.elim h.1 h.2.1

/-- A rule on one of the new ports stands for its address block, on the sides with that port. -/
theorem nodeIngressClaims_of_plain {p : Nat} (hplain : rule.PlainOnPort p)
    (hp : p = desiredPorts.backendPort ∨ p = desiredPorts.healthCheckerPort) :
    nodeIngressClaims actualPorts desiredPorts rule =
      (if p = desiredPorts.backendPort then [.inl rule.cidr] else []) ++
        (if p = desiredPorts.healthCheckerPort then [.inr rule.cidr] else []) := by
  have hconcerns : concernsPorts actualPorts desiredPorts ⟨p, p⟩ :=
    concernsPorts_iff.mpr ⟨rfl, hp.imp_right .inl⟩
  rw [nodeIngressClaims, if_neg (not_isOldPortRule hplain.onPort hp),
    show rule.plainDestination = some _ from hplain]
  exact if_pos hconcerns

/-- The port of the rules that stand for a key. -/
def keyPort (desiredPorts : PortSpec) : String ⊕ String → Nat
  | .inl _ => desiredPorts.backendPort
  | .inr _ => desiredPorts.healthCheckerPort

/-- The address block of the rules that stand for a key. -/
def keyCidr : String ⊕ String → String
  | .inl cidr | .inr cidr => cidr

theorem keyPort_cases (desiredPorts : PortSpec) (k : String ⊕ String) :
    keyPort desiredPorts k = desiredPorts.backendPort ∨
      keyPort desiredPorts k = desiredPorts.healthCheckerPort := by
  cases k with
  | inl => exact .inl rfl
  | inr => exact .inr rfl

theorem mem_nodeIngressClaims :
    k ∈ nodeIngressClaims actualPorts desiredPorts rule ↔
      rule.cidr = keyCidr k ∧ rule.PlainOnPort (keyPort desiredPorts k) := by
  constructor
  · intro h
    unfold nodeIngressClaims at h
    split at h
    · cases h
    split at h
    · cases h
    next r hplain =>
      split at h
      · next hconcerns =>
          have hsingle : r = ⟨r.max, r.max⟩ :=
            PortRange.ext (concernsPorts_iff.mp hconcerns).1 rfl
          rw [SecurityRule.PlainOnPort, hplain, hsingle]
          simp only [mem_append, mem_ite_nil_right, mem_singleton] at h
          rcases h with ⟨hp, rfl⟩ | ⟨hp, rfl⟩
          · exact ⟨rfl, by rw [hp, keyPort]⟩
          · exact ⟨rfl, by rw [hp, keyPort]⟩
      · cases h
  · rintro ⟨hcidr, hplain⟩
    rw [nodeIngressClaims_of_plain hplain (keyPort_cases _ k), hcidr]
    cases k with
    | inl => simp [keyPort, keyCidr]
    | inr => simp [keyPort, keyCidr]

theorem nodeIngressClaims_eq_singleton
    (hne : desiredPorts.backendPort ≠ desiredPorts.healthCheckerPort)
    (hk : k ∈ nodeIngressClaims actualPorts desiredPorts rule) :
    nodeIngressClaims actualPorts desiredPorts rule = [k] := by
  obtain ⟨hcidr, hplain⟩ := mem_nodeIngressClaims.mp hk
  rw [nodeIngressClaims_of_plain hplain (keyPort_cases _ k), hcidr]
  cases k with
  | inl => simp [keyPort, keyCidr, hne]
  | inr => simp [keyPort, keyCidr, hne.symm]

def nodeIngressFallback (actualPorts : Option PortSpec) (desiredPorts : PortSpec)
    (lister : ServiceLister) (rule : SecurityRule) : Bool :=
  if isOldPortRule actualPorts desiredPorts rule then false
  else match rule.plainDestination with
    | none => true
    | some r => !concernsPorts actualPorts desiredPorts r ||
        (r.max = desiredPorts.healthCheckerPort &&
          keepsRules (healthCheckPortInUse lister desiredPorts.healthCheckerPort))

/-- The state of the loop as the state of the generic scan. -/
def NodeIngressState.toScan (st : NodeIngressState) :
    List SecurityRule × Finset (String ⊕ String) :=
  (st.ingressRules, st.desiredBackend.disjSum st.desiredHealthChecker)

theorem disjSum_erase_inl (s t : Finset String) (a : String) :
    (s.disjSum t).erase (.inl a) = (s.erase a).disjSum t := by
  ext x
  cases x <;> simp

theorem disjSum_erase_inr (s t : Finset String) (a : String) :
    (s.disjSum t).erase (.inr a) = s.disjSum (t.erase a) := by
  ext x
  cases x <;> simp

theorem find?_ite_inl_inr (p q : Prop) [Decidable p] [Decidable q] (st : NodeIngressState)
    (c : String) :
    ((if p then [Sum.inl c] else []) ++ (if q then [Sum.inr c] else [])).find?
        (fun k => k ∈ st.toScan.2) =
      if p ∧ c ∈ st.desiredBackend then some (.inl c)
      else if q ∧ c ∈ st.desiredHealthChecker then some (.inr c) else none := by
  have hl : Sum.inl c ∈ st.toScan.2 ↔ c ∈ st.desiredBackend := by simp [NodeIngressState.toScan]
  have hr : Sum.inr c ∈ st.toScan.2 ↔ c ∈ st.desiredHealthChecker := by
    simp [NodeIngressState.toScan]
  by_cases hp : p <;> by_cases hq : q <;> simp [hp, hq, hl, hr, List.find?_cons] <;> grind

theorem toScan_nodeIngressStep (st : NodeIngressState) (rule : SecurityRule) :
    (nodeIngressStep actualPorts desiredPorts lister st rule).toScan =
      Scan.step (nodeIngressClaims actualPorts desiredPorts)
        (nodeIngressFallback actualPorts desiredPorts lister) st.toScan rule := by
  unfold nodeIngressStep Scan.step nodeIngressClaims nodeIngressFallback
  by_cases hold : isOldPortRule actualPorts desiredPorts rule
  · simp [hold]
  cases hplain : rule.plainDestination with
  | none => simp [hold, NodeIngressState.toScan]
  | some r =>
    have hfold : (portRangeMatchesSpec r (some desiredPorts) ||
        portRangeMatchesSpec r actualPorts) = concernsPorts actualPorts desiredPorts r := rfl
    simp only [hold, hfold, if_false, Bool.false_eq_true]
    cases concernsPorts actualPorts desiredPorts r with
    | false => simp [NodeIngressState.toScan]
    | true =>
      rw [if_pos rfl, find?_ite_inl_inr]
      by_cases hb : r.max = desiredPorts.backendPort ∧ rule.cidr ∈ st.desiredBackend
      · simp [hb, NodeIngressState.toScan, disjSum_erase_inl]
      by_cases hh : r.max = desiredPorts.healthCheckerPort ∧
          rule.cidr ∈ st.desiredHealthChecker
      · simp only [if_neg hb, if_pos hh, Bool.not_true, Bool.false_eq_true, if_false,
          NodeIngressState.toScan, disjSum_erase_inr]
      · simp only [Bool.not_true, Bool.false_eq_true, if_false, if_neg hb, if_neg hh,
          Bool.false_or, Bool.and_eq_true, decide_eq_true_eq]
        split <;> rfl

/-- The keys of the address blocks that are to have a rule. -/
def wantedKeys (lbSubnets : List SubnetWithLists) (sourceCIDRs : List String)
    (isPreserveSource : Bool) (ipFamilies : List IpVersion) : Finset (String ⊕ String) :=
  (backendCidrs lbSubnets sourceCIDRs isPreserveSource ipFamilies).disjSum
    (subnetsCidrs ipFamilies lbSubnets)

def nodeIngressScan (rules : List SecurityRule) (lbSubnets : List SubnetWithLists)
    (actualPorts : Option PortSpec) (desiredPorts : PortSpec) (lister : ServiceLister)
    (sourceCIDRs : List String) (isPreserveSource : Bool) (ipFamilies : List IpVersion) :
    List SecurityRule × Finset (String ⊕ String) :=
  Scan.scan (nodeIngressClaims actualPorts desiredPorts)
    (nodeIngressFallback actualPorts desiredPorts lister) rules
    (wantedKeys lbSubnets sourceCIDRs isPreserveSource ipFamilies)

theorem toScan_foldl_nodeIngressStep (st : NodeIngressState) :
    (rules.foldl (nodeIngressStep actualPorts desiredPorts lister) st).toScan =
      rules.foldl (Scan.step (nodeIngressClaims actualPorts desiredPorts)
        (nodeIngressFallback actualPorts desiredPorts lister)) st.toScan := by
  induction rules generalizing st with
  | nil => rfl
  | cons rule rules ih => rw [foldl_cons, foldl_cons, ih, toScan_nodeIngressStep]

/-- New rules for the keys that are left. There are none on port 0. -/
def newNodeRules (desiredPorts : PortSpec) (left : Finset (String ⊕ String)) :
    List SecurityRule :=
  newRules desiredPorts.backendPort (left.toLeft.filter fun _ => desiredPorts.backendPort ≠ 0) ++
    newRules desiredPorts.healthCheckerPort
      (left.toRight.filter fun _ => desiredPorts.healthCheckerPort ≠ 0)

theorem nodeIngress_eq_rebuild :
    getNodeIngressRules rules lbSubnets actualPorts desiredPorts lister sourceCIDRs
        isPreserveSource ipFamilies =
      Scan.rebuild (nodeIngressClaims actualPorts desiredPorts)
        (nodeIngressFallback actualPorts desiredPorts lister) (newNodeRules desiredPorts) rules
        (wantedKeys lbSubnets sourceCIDRs isPreserveSource ipFamilies) := by
  rw [Scan.rebuild, wantedKeys, show Scan.scan _ _ rules _ = _ from (toScan_foldl_nodeIngressStep
    ⟨[], backendCidrs lbSubnets sourceCIDRs isPreserveSource ipFamilies, _⟩).symm]
  simp only [NodeIngressState.toScan, newNodeRules, Finset.toLeft_disjSum, Finset.toRight_disjSum]
  unfold getNodeIngressRules
  dsimp only
  split
  · next hempty => simp [hempty.1, hempty.2]
  · simp only [Finset.filter_const, apply_ite (newRules _), newRules_empty]
    exact append_assoc _ _ _

theorem mem_newNodeRules : rule ∈ newNodeRules desiredPorts left ↔
    ∃ k ∈ left, keyPort desiredPorts k ≠ 0 ∧
      makeSecurityRule (keyCidr k) (keyPort desiredPorts k) = rule := by
  simp only [newNodeRules, mem_append, mem_newRules, Finset.mem_filter, Finset.mem_toLeft,
    Finset.mem_toRight, Sum.exists, keyPort, keyCidr, and_assoc]

theorem mem_nodeIngress_iff :
    rule ∈ getNodeIngressRules rules lbSubnets actualPorts desiredPorts lister sourceCIDRs
        isPreserveSource ipFamilies ↔
      rule ∈ (nodeIngressScan rules lbSubnets actualPorts desiredPorts lister sourceCIDRs
        isPreserveSource ipFamilies).1 ∨
      ∃ k ∈ (nodeIngressScan rules lbSubnets actualPorts desiredPorts lister sourceCIDRs
        isPreserveSource ipFamilies).2, keyPort desiredPorts k ≠ 0 ∧
          makeSecurityRule (keyCidr k) (keyPort desiredPorts k) = rule := by
  rw [nodeIngress_eq_rebuild, Scan.rebuild, mem_append, mem_newNodeRules]
  rfl

theorem mem_nodeIngressClaims_makeSecurityRule :
    k ∈ nodeIngressClaims actualPorts desiredPorts
      (makeSecurityRule (keyCidr k) (keyPort desiredPorts k)) :=
  mem_nodeIngressClaims.mpr ⟨rfl, (plainOnPort_makeSecurityRule _ _ _).mpr rfl⟩

/-- A rule that existed is in the result only if the scan keeps it: no new rule is made for
an address block that has one. -/
theorem mem_nodeIngress_iff_kept (hrule : rule ∈ rules) :
    rule ∈ getNodeIngressRules rules lbSubnets actualPorts desiredPorts lister sourceCIDRs
        isPreserveSource ipFamilies ↔
      rule ∈ (nodeIngressScan rules lbSubnets actualPorts desiredPorts lister sourceCIDRs
        isPreserveSource ipFamilies).1 := by
  rw [mem_nodeIngress_iff]
  refine ⟨?_, .inl⟩
  rintro (h | ⟨k, hk, -, rfl⟩)
  · exact h
  · exact (Scan.scans.mem_kept_of_left hrule mem_nodeIngressClaims_makeSecurityRule hk).1

theorem exists_nodeIngress (hport : keyPort desiredPorts k ≠ 0)
    (hk : k ∈ wantedKeys lbSubnets sourceCIDRs isPreserveSource ipFamilies) :
    ∃ rule ∈ getNodeIngressRules rules lbSubnets actualPorts desiredPorts lister sourceCIDRs
        isPreserveSource ipFamilies,
      rule.cidr = keyCidr k ∧ rule.PlainOnPort (keyPort desiredPorts k) := by
  rw [nodeIngress_eq_rebuild]
  obtain ⟨rule, hrule, hclaim⟩ := Scan.exists_rebuild hk fun left hleft =>
    ⟨_, mem_newNodeRules.mpr ⟨k, hleft, hport, rfl⟩, mem_nodeIngressClaims_makeSecurityRule⟩
  exact ⟨rule, hrule, mem_nodeIngressClaims.mp hclaim⟩

/-- A rule of the result was there before and is kept in any case, or it stands for a wanted address
block. -/
theorem mem_nodeIngress_cases
    (h : rule ∈ getNodeIngressRules rules lbSubnets actualPorts desiredPorts lister sourceCIDRs
      isPreserveSource ipFamilies) :
    (rule ∈ rules ∧ nodeIngressFallback actualPorts desiredPorts lister rule) ∨
      ∃ k ∈ wantedKeys lbSubnets sourceCIDRs isPreserveSource ipFamilies,
        (rule.cidr = keyCidr k ∧ rule.PlainOnPort (keyPort desiredPorts k)) ∧
          (rule ∈ rules ∨ keyPort desiredPorts k ≠ 0) := by
  rcases mem_nodeIngress_iff.mp h with hkept | ⟨k, hk, hport, rfl⟩
  · have hold := Scan.scans.kept_sublist.subset hkept
    rcases Scan.scans.fallback_or_claims hkept with hf | ⟨k, hk, hwanted⟩
    · exact .inl ⟨hold, hf⟩
    · exact .inr ⟨k, hwanted, mem_nodeIngressClaims.mp hk, .inl hold⟩
  · exact .inr ⟨k, Scan.scans.left_subset hk,
      ⟨rfl, (plainOnPort_makeSecurityRule _ _ _).mpr rfl⟩, .inr hport⟩

theorem notMem_nodeIngress_of_old (hold : isOldPortRule actualPorts desiredPorts rule) :
    rule ∉ getNodeIngressRules rules lbSubnets actualPorts desiredPorts lister sourceCIDRs
      isPreserveSource ipFamilies := by
  intro h
  rcases mem_nodeIngress_cases h with ⟨-, hf⟩ | ⟨k, -, ⟨-, hplain⟩, -⟩
  · simp [nodeIngressFallback, hold] at hf
  · exact not_isOldPortRule hplain.onPort (keyPort_cases _ k) hold

theorem nodeIngressFallback_of_not_plain (hold : ¬isOldPortRule actualPorts desiredPorts rule)
    (hb : ¬rule.PlainOnPort desiredPorts.backendPort)
    (hh : ¬rule.PlainOnPort desiredPorts.healthCheckerPort) :
    nodeIngressFallback actualPorts desiredPorts lister rule := by
  unfold nodeIngressFallback
  rw [if_neg hold]
  split
  · rfl
  next r hplain =>
    suffices hno : ¬concernsPorts actualPorts desiredPorts r by simp [hno]
    intro hconcerns
    obtain ⟨hsingle, hports⟩ := concernsPorts_iff.mp hconcerns
    have hr : r = ⟨r.max, r.max⟩ := PortRange.ext hsingle rfl
    have hbackend : r.max ≠ desiredPorts.backendPort := fun h =>
      hb (by rw [SecurityRule.PlainOnPort, hplain, hr, h])
    have hhealth : r.max ≠ desiredPorts.healthCheckerPort := fun h =>
      hh (by rw [SecurityRule.PlainOnPort, hplain, hr, h])
    obtain ⟨ports, rfl, hport⟩ := (hports.resolve_left hbackend).resolve_left hhealth
    -- the rule is on a port that only the old ports have
    refine hold ?_
    unfold isOldPortRule
    rw [SecurityRule.destination_of_plain hplain]
    simp [hsingle, hbackend, hhealth, hport]

theorem nodeIngressFallback_of_plain (hplain : rule.PlainOnPort p)
    (hp : p = desiredPorts.backendPort ∨ p = desiredPorts.healthCheckerPort) :
    nodeIngressFallback actualPorts desiredPorts lister rule ↔
      p = desiredPorts.healthCheckerPort ∧
        keepsRules (healthCheckPortInUse lister desiredPorts.healthCheckerPort) := by
  have hconcerns : concernsPorts actualPorts desiredPorts ⟨p, p⟩ :=
    concernsPorts_iff.mpr ⟨rfl, hp.imp_right .inl⟩
  rw [nodeIngressFallback, if_neg (not_isOldPortRule hplain.onPort hp),
    show rule.plainDestination = some _ from hplain]
  simp only [hconcerns, Bool.not_true, Bool.false_or, Bool.and_eq_true, decide_eq_true_eq]

theorem mem_nodeIngress_of_fallback (hrule : rule ∈ rules)
    (hf : nodeIngressFallback actualPorts desiredPorts lister rule) :
    rule ∈ getNodeIngressRules rules lbSubnets actualPorts desiredPorts lister sourceCIDRs
      isPreserveSource ipFamilies := by
  rw [nodeIngress_eq_rebuild]
  exact Scan.mem_rebuild_of_fallback hrule hf

end NodeIngress

end OciCcm.SecurityLists
