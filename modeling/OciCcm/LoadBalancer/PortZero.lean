import OciCcm.Go.Runs
import OciCcm.LoadBalancer.Reconcile
import OciCcm.SecurityLists.PortChange

/-! # Rules for port 0

A port 0 stands for a missing one: that of a backend set without backends or
without a health checker. The rules for the nodes and the ingress rules of the
load balancer are made for other ports only. The egress rules of the load
balancer are made for port 0 as well, and stay unless the second of the two
passes takes 0 for its old port.

The calls of an update are taken apart into iterations, each of which reads and
writes one list, so that calls that fail halfway are covered too.
-/

namespace OciCcm.LoadBalancer

open Go Kubernetes SecurityLists BaseSecurityListManager List

variable {RuleSet : Type}

/-! ## Iterations -/

/-- One iteration of a loop over subnets. -/
inductive ListStep where
  | loadBalancer (nodeSubnets : List SubnetWithLists) (sourceCIDRs : List String)
      (actualPorts : Option PortSpec) (desiredPorts : PortSpec) (ipFamilies : List IpVersion)
      (subnet : SubnetWithLists)
  | node (lbSubnets : List SubnetWithLists) (actualPorts : Option PortSpec)
      (desiredPorts : PortSpec) (sourceCIDRs : List String) (isPreserveSource : Bool)
      (ipFamilies : List IpVersion) (subnet : SubnetWithLists)
deriving DecidableEq, Repr

namespace ListStep

def subnet : ListStep → SubnetWithLists
  | .loadBalancer _ _ _ _ _ subnet => subnet
  | .node _ _ _ _ _ _ subnet => subnet

/-- The new rules of the list. -/
def rewrite (s : BaseSecurityListManager) : ListStep → SecurityList →
    List SecurityRule × List SecurityRule
  | .loadBalancer nodeSubnets sourceCIDRs actualPorts desiredPorts ipFamilies _ =>
    s.loadBalancerRules nodeSubnets sourceCIDRs actualPorts desiredPorts ipFamilies
  | .node lbSubnets actualPorts desiredPorts sourceCIDRs isPreserveSource ipFamilies _ =>
    s.backendRules lbSubnets actualPorts desiredPorts sourceCIDRs isPreserveSource ipFamilies

def kind : ListStep → String
  | .loadBalancer _ _ _ _ _ _ => "lb "
  | .node _ _ _ _ _ _ _ => ""

def perform (s : BaseSecurityListManager) (store : Store) (step : ListStep) :
    Except String Store :=
  s.rewriteStep step.kind (step.rewrite s) store step.subnet

end ListStep

/-- The iterations of a call. -/
def RulesCall.steps (mode : ManagementMode) (call : RulesCall) : List ListStep :=
  let w := call.change
  let lbSteps (nodeSubnets : List SubnetWithLists) := call.components.lbSubnets.map
    (.loadBalancer nodeSubnets w.sourceCIDRs w.actualPorts w.desiredPorts w.ipFamilies)
  match mode with
  | .all =>
    lbSteps w.backendSubnets ++ call.components.backendSubnets.map (.node w.lbSubnets w.actualPorts
      w.desiredPorts w.sourceCIDRs w.isPreserveSource w.ipFamilies)
  | .frontend => lbSteps []
  | .none | .nsg => []

section Steps

variable {s : BaseSecurityListManager} {mode : ManagementMode} {store : Store}

theorem perform_eq_foldlM (call : RulesCall) :
    call.perform s mode store = (call.steps mode).foldlM (ListStep.perform s) store := by
  cases mode with
  | all =>
    rw [RulesCall.steps, foldlM_append, foldlM_map]
    simp only [foldlM_map]
    cases call <;> rfl
  | frontend =>
    rw [RulesCall.steps, foldlM_map]
    cases call <;> rfl
  | none | nsg => cases call <;> rfl

theorem performAll_eq_foldlM (calls : List RulesCall) :
    RulesCall.performAll s mode calls store =
      (calls.flatMap (RulesCall.steps mode)).foldlM (ListStep.perform s) store := by
  unfold RulesCall.performAll
  induction calls generalizing store with
  | nil => rfl
  | cons call calls ih =>
    rw [foldlM_cons, flatMap_cons, foldlM_append, perform_eq_foldlM]
    congr 1
    funext store'
    exact ih

end Steps

/-- The iterations in `updateLoadBalancer`, in their order. -/
def updateSteps [DecidableEq RuleSet] (o : ChangeOrders) (portsOrder : RangeOrder.{0})
    (subnets : Subnets) (spec : LBSpec RuleSet) (lb : LoadBalancerState RuleSet) :
    List ListStep :=
  (rulesCalls o portsOrder subnets spec lb).flatMap (RulesCall.steps spec.securityListManager)

/-- For the security lists an update is a run of the iterations, unless a call on the load balancer
fails: then those before the failure have been taken. -/
theorem traces_updateSteps [DecidableEq RuleSet] {clb : CloudLoadBalancerProvider RuleSet}
    {subnets : Subnets} {spec : LBSpec RuleSet} {st : CloudState RuleSet} (o : ChangeOrders)
    (portsOrder : RangeOrder.{0}) :
    Traces (∃ action ∈ updateActions o st.loadBalancer spec, clb.actionError action ≠ none)
      (clb.updateLoadBalancer spec o portsOrder (.ok subnets.lbSubnets) (.ok subnets.nodeSubnets) st)
      ((updateSteps o portsOrder subnets spec st.loadBalancer).foldlM
        (ListStep.perform clb.securityListManager) st.securityLists) := by
  rw [updateSteps, ← performAll_eq_foldlM]
  exact traces_updateLoadBalancer o portsOrder

/-! ## New rules on port 0 -/

/-- Does a list have a new rule on port 0? -/
def AddsPortZero (store store' : Store) : Prop :=
  ∃ id secList secList' rule, store.lookup id = some secList ∧
    store'.lookup id = some secList' ∧ rule.OnPort 0 ∧
    ((rule ∈ secList'.ingressSecurityRules ∧ rule ∉ secList.ingressSecurityRules) ∨
      (rule ∈ secList'.egressSecurityRules ∧ rule ∉ secList.egressSecurityRules))

/-- Are the egress rules of the iteration on port 0? Those for a missing backend port are made
first and removed again if there was no health check port either. -/
def ListStep.WritesPortZero : ListStep → Prop
  | .loadBalancer nodeSubnets _ actualPorts desiredPorts ipFamilies _ =>
    subnetsCidrs ipFamilies nodeSubnets ≠ ∅ ∧
      (desiredPorts.healthCheckerPort = 0 ∨ (desiredPorts.backendPort = 0 ∧
        (actualPorts.map (·.healthCheckerPort)).getD 0 ≠ 0))
  | .node _ _ _ _ _ _ _ => False

section NewRules

variable {s : BaseSecurityListManager} {step : ListStep} {secList : SecurityList}
  {rule : SecurityRule} {store store' : Store}

theorem onPort_makeSecurityRule {cidr : String} {p q : Nat}
    (h : (makeSecurityRule cidr p).OnPort q) : p = q :=
  ((plainOnPort_makeSecurityRule cidr p p).mpr rfl).onPort.inj h

theorem not_onPort_zero_of_new_ingress (hmem : rule ∈ (step.rewrite s secList).1)
    (hnew : rule ∉ secList.ingressSecurityRules) : ¬rule.OnPort 0 := by
  intro hzero
  cases step with
  | loadBalancer nodeSubnets sourceCIDRs actualPorts desiredPorts ipFamilies subnet =>
    simp only [ListStep.rewrite, loadBalancerRules] at hmem
    split at hmem
    · next hport =>
        rcases mem_lbIngress_cases hmem with hold | ⟨c, -, rfl⟩
        · exact hnew hold
        · exact hport (onPort_makeSecurityRule hzero)
    · exact hnew hmem
  | node lbSubnets actualPorts desiredPorts sourceCIDRs isPreserveSource ipFamilies subnet =>
    rcases mem_nodeIngress_iff.mp hmem with hkept | ⟨k, -, hport, rfl⟩
    · exact hnew (Scan.scans.kept_sublist.subset hkept)
    · exact hport (onPort_makeSecurityRule hzero)

theorem writesPortZero_of_new_egress (hmem : rule ∈ (step.rewrite s secList).2)
    (hnew : rule ∉ secList.egressSecurityRules) (hzero : rule.OnPort 0) :
    step.WritesPortZero := by
  cases step with
  | node lbSubnets actualPorts desiredPorts sourceCIDRs isPreserveSource ipFamilies subnet =>
    exact absurd hmem hnew
  | loadBalancer nodeSubnets sourceCIDRs actualPorts desiredPorts ipFamilies subnet =>
    rcases mem_lbEgress_cases hmem with hfirst | ⟨c, hc, rfl⟩
    · rcases mem_lbEgress_cases hfirst with hold | ⟨c, hc, rfl⟩
      · exact absurd hold hnew
      -- the rule comes from the first pass, and the second one has not removed it
      refine ⟨Finset.ne_empty_of_mem hc, ?_⟩
      by_cases hhealth : desiredPorts.healthCheckerPort = 0
      · exact .inl hhealth
      refine .inr ⟨onPort_makeSecurityRule hzero, fun hactual => notMem_lbEgress_of_old ?_ hmem⟩
      simp only [isOldEgressRule, decide_eq_true_eq]
      rw [hactual]
      exact ⟨hhealth, hzero⟩
    · exact ⟨Finset.ne_empty_of_mem hc, .inl (onPort_makeSecurityRule hzero)⟩

theorem exists_onPort_zero (h : step.WritesPortZero) :
    ∃ rule ∈ (step.rewrite s secList).2, rule.OnPort 0 := by
  cases step with
  | node lbSubnets actualPorts desiredPorts sourceCIDRs isPreserveSource ipFamilies subnet =>
    exact absurd h id
  | loadBalancer nodeSubnets sourceCIDRs actualPorts desiredPorts ipFamilies subnet =>
    obtain ⟨hcidrs, hports⟩ := h
    obtain ⟨cidr, hcidr⟩ := Finset.nonempty_iff_ne_empty.mpr hcidrs
    have hcovered : Covered (s.loadBalancerRules nodeSubnets sourceCIDRs actualPorts desiredPorts
        ipFamilies secList).2 0 cidr := by
      rcases hports with hhealth | ⟨hbackend, hactual⟩
      · have hself : Covered (s.loadBalancerRules nodeSubnets sourceCIDRs actualPorts
            desiredPorts ipFamilies secList).2 desiredPorts.healthCheckerPort cidr :=
          covered_lbEgress_self hcidr
        rwa [hhealth] at hself
      · refine (covered_lbEgress_of_wanted hcidr ?_).mpr fun heq => absurd heq hactual
        have hself : Covered (getLoadBalancerEgressRules secList.egressSecurityRules nodeSubnets
            ((actualPorts.map (·.backendPort)).getD 0) desiredPorts.backendPort s.serviceLister
            ipFamilies) desiredPorts.backendPort cidr := covered_lbEgress_self hcidr
        rwa [hbackend] at hself ⊢
    obtain ⟨rule, hrule, -, hplain⟩ := hcovered
    exact ⟨rule, hrule, hplain.onPort⟩

theorem not_addsPortZero_of_perform (hstep : ¬step.WritesPortZero)
    (h : step.perform s store = .ok store') : ¬AddsPortZero store store' := by
  rintro ⟨id', secList, secList', rule, hlookup, hlookup', hzero, hnew⟩
  obtain ⟨id, -, hpass⟩ := rewriteStep_ok h
  rw [hpass, hlookup] at hlookup'
  split at hlookup'
  · cases hlookup'
    unfold SecurityLists.pass at hnew
    split at hnew
    · rcases hnew with ⟨hmem, hnot⟩ | ⟨hmem, hnot⟩
      · exact not_onPort_zero_of_new_ingress hmem hnot hzero
      · exact hstep (writesPortZero_of_new_egress hmem hnot hzero)
    · exact hnew.elim (fun h => h.2 h.1) fun h => h.2 h.1
  · cases hlookup'
    exact hnew.elim (fun h => h.2 h.1) fun h => h.2 h.1

end NewRules

/-! ## Whole updates -/

/-- No iteration of the update adds a rule on port 0, whatever the security lists. -/
def NeverAddsPortZero [DecidableEq RuleSet] (o : ChangeOrders) (portsOrder : RangeOrder.{0})
    (subnets : Subnets) (spec : LBSpec RuleSet) (lb : LoadBalancerState RuleSet) : Prop :=
  ∀ (s : BaseSecurityListManager) (store : Store),
    Runs.EveryStep (ListStep.perform s) (fun store store' => ¬AddsPortZero store store') store
      (updateSteps o portsOrder subnets spec lb)

/-- A subnet without a security list ends the update. -/
def ListStep.stops (step : ListStep) : Bool := step.subnet.securityListIds = []

def emptyLists (ids : List String) : Store :=
  ids.foldr (fun id store => store.insert id ⟨[], [], 0⟩) ∅

/-- The lists exist and have no rule on port 0. -/
structure NoPortZero (ids : List String) (store : Store) : Prop where
  isSome : ∀ id ∈ ids, (store.lookup id).isSome
  notOnPort : ∀ id secList, store.lookup id = some secList →
    ∀ rule ∈ secList.ingressSecurityRules ++ secList.egressSecurityRules, ¬rule.OnPort 0

section Runs

variable {s : BaseSecurityListManager} {step : ListStep} {store store' : Store}
  {ids : List String}

theorem lookup_emptyLists (id : String) :
    (emptyLists ids).lookup id = if id ∈ ids then some ⟨[], [], 0⟩ else none := by
  induction ids with
  | nil => rfl
  | cons id₀ ids ih =>
    unfold emptyLists at ih ⊢
    rw [foldr_cons, GoMap.lookup_insert_eq_ite, ih]
    by_cases h : id = id₀
    · simp [h]
    · simp [h]

theorem noPortZero_emptyLists : NoPortZero ids (emptyLists ids) where
  isSome id hid := by
    rw [lookup_emptyLists, if_pos hid]
    rfl
  notOnPort id secList h rule hrule := by
    rw [lookup_emptyLists] at h
    split at h
    · cases h
      cases hrule
    · cases h

theorem perform_ne_ok_of_stops (hstops : step.stops) : step.perform s store ≠ .ok store' := by
  intro h
  obtain ⟨id, hid, -⟩ := rewriteStep_ok h
  obtain ⟨secList, hget⟩ := listInCharge_eq_some.mp hid
  rw [getSecurityList, of_decide_eq_true hstops] at hget
  cases hget

theorem NoPortZero.of_not_addsPortZero (h : NoPortZero ids store) (hsame : SameLists store store')
    (hadds : ¬AddsPortZero store store') : NoPortZero ids store' where
  isSome id hid := by
    obtain ⟨secList, hlookup⟩ := Option.isSome_iff_exists.mp (h.isSome id hid)
    obtain ⟨secList', hlookup', -⟩ := hsame.lookup hlookup
    rw [hlookup']
    rfl
  notOnPort id secList' hlookup' rule hrule hzero := by
    obtain ⟨secList, hlookup, -⟩ := hsame.symm.lookup hlookup'
    have hold : ∀ rule ∈ secList.ingressSecurityRules ++ secList.egressSecurityRules,
        ¬rule.OnPort 0 := h.notOnPort id secList hlookup
    rcases mem_append.mp hrule with hmem | hmem
    · exact hadds ⟨id, secList, secList', rule, hlookup, hlookup', hzero,
        .inl ⟨hmem, fun hin => hold rule (mem_append_left _ hin) hzero⟩⟩
    · exact hadds ⟨id, secList, secList', rule, hlookup, hlookup', hzero,
        .inr ⟨hmem, fun hin => hold rule (mem_append_right _ hin) hzero⟩⟩

theorem addsPortZero_of_perform (hwrites : step.WritesPortZero) (hnone : NoPortZero ids store)
    (h : step.perform s store = .ok store') : AddsPortZero store store' := by
  obtain ⟨id, hid, hpass⟩ := rewriteStep_ok h
  obtain ⟨secList, hget⟩ := listInCharge_eq_some.mp hid
  have hlookup := lookup_of_getSecurityList hget
  obtain ⟨rule, hrule, hzero⟩ := @exists_onPort_zero s step secList hwrites
  have hnew : rule ∉ secList.egressSecurityRules := fun hin =>
    hnone.notOnPort id secList hlookup rule (mem_append_right _ hin) hzero
  refine ⟨id, secList, SecurityLists.pass (step.rewrite s) secList, rule, hlookup, ?_, hzero,
    .inr ⟨?_, hnew⟩⟩
  · rw [hpass, if_pos rfl, hlookup, Option.map_some]
  · unfold SecurityLists.pass
    split
    · exact hrule
    · next hsame =>
        rw [securityListRulesChanged, Bool.or_eq_true, not_or] at hsame
        exact absurd ((not_rulesChanged_iff.mp hsame.2).2 rule hrule) hnew

theorem not_addsPortZero_trans {store₁ : Store} (hsame : SameLists store store₁)
    (h : ¬AddsPortZero store store₁) (h' : ¬AddsPortZero store₁ store') :
    ¬AddsPortZero store store' := by
  rintro ⟨id, secList, secList', rule, hlookup, hlookup', hzero, hnew⟩
  obtain ⟨secList₁, hlookup₁, -⟩ := hsame.lookup hlookup
  rcases hnew with ⟨hmem, hnot⟩ | ⟨hmem, hnot⟩
  · by_cases hin : rule ∈ secList₁.ingressSecurityRules
    · exact h ⟨id, _, _, rule, hlookup, hlookup₁, hzero, .inl ⟨hin, hnot⟩⟩
    · exact h' ⟨id, _, _, rule, hlookup₁, hlookup', hzero, .inl ⟨hmem, hin⟩⟩
  · by_cases hin : rule ∈ secList₁.egressSecurityRules
    · exact h ⟨id, _, _, rule, hlookup, hlookup₁, hzero, .inr ⟨hin, hnot⟩⟩
    · exact h' ⟨id, _, _, rule, hlookup₁, hlookup', hzero, .inr ⟨hmem, hin⟩⟩

theorem not_addsPortZero_of_everyStep {steps : List ListStep}
    (h : Runs.EveryStep (ListStep.perform s) (fun store store' => ¬AddsPortZero store store') store
      steps)
    (hrun : steps.foldlM (ListStep.perform s) store = .ok store') : ¬AddsPortZero store store' := by
  induction steps generalizing store with
  | nil =>
    obtain rfl : store = store' := Except.ok.inj hrun
    rintro ⟨id, secList, secList', rule, hlookup, hlookup', -, hnew⟩
    obtain rfl := Option.some.inj (hlookup.symm.trans hlookup')
    exact hnew.elim (fun h => h.2 h.1) fun h => h.2 h.1
  | cons step steps ih =>
    obtain ⟨store₁, hstep, hrun⟩ := foldlM_cons_ok hrun
    obtain ⟨hfirst, hrest⟩ := h store₁ hstep
    exact not_addsPortZero_trans (sameLists_of_rewriteStep hstep) hfirst (ih hrest hrun)

/-- An update that succeeds adds no rule on port 0 if its iterations add none. -/
theorem NeverAddsPortZero.not_addsPortZero [DecidableEq RuleSet]
    {clb : CloudLoadBalancerProvider RuleSet} {o : ChangeOrders} {portsOrder : RangeOrder.{0}}
    {subnets : Subnets} {spec : LBSpec RuleSet} {st st' : CloudState RuleSet}
    (h : NeverAddsPortZero o portsOrder subnets spec st.loadBalancer)
    (hupdate : clb.updateLoadBalancer spec o portsOrder (.ok subnets.lbSubnets)
      (.ok subnets.nodeSubnets) st = .ok st') :
    ¬AddsPortZero st.securityLists st'.securityLists :=
  not_addsPortZero_of_everyStep (h _ _) (hupdate ▸ traces_updateSteps o portsOrder).of_ok

end Runs

/-- An update adds no rule on port 0 if none of its iterations, before one that fails for the
lack of a security list, writes egress rules for a missing port. -/
theorem neverAddsPortZero_iff [DecidableEq RuleSet] (o : ChangeOrders)
    (portsOrder : RangeOrder.{0}) (subnets : Subnets) (spec : LBSpec RuleSet)
    (lb : LoadBalancerState RuleSet) :
    NeverAddsPortZero o portsOrder subnets spec lb ↔
      ∀ step ∈ (updateSteps o portsOrder subnets spec lb).takeWhile (!·.stops),
        ¬step.WritesPortZero := by
  constructor
  · intro h
    -- run it on empty lists, with a client that refuses nothing
    let ids := (updateSteps o portsOrder subnets spec lb).flatMap (·.subnet.securityListIds)
    refine Runs.notBad_of_everyStep (fun step hmem hgoes store hnone => ?_)
      (@noPortZero_emptyLists ids) (h { serviceLister := .ok [] } (emptyLists ids))
    have hids : ∀ id ∈ step.subnet.securityListIds, (store.lookup id).isSome :=
      fun id hid => hnone.isSome id (mem_flatMap.mpr ⟨step, hmem, hid⟩)
    obtain ⟨id, hid⟩ := exists_listInCharge
      (s := { serviceLister := .ok [] }) (fun _ => rfl) (fun hnil => hgoes (decide_eq_true hnil)) hids
    obtain ⟨store', hstep⟩ := exists_rewriteStep (fun _ => rfl) hid
    refine ⟨store', hstep, fun hgood => ?_, fun hbad hadds => ?_⟩
    · exact hnone.of_not_addsPortZero (sameLists_of_rewriteStep hstep)
        (not_addsPortZero_of_perform hgood hstep)
    · exact hadds (addsPortZero_of_perform hbad hnone hstep)
  · intro h s store
    exact Runs.everyStep_of_takeWhile (fun step hstops _ _ => perform_ne_ok_of_stops hstops)
      (fun step hgood _ _ => not_addsPortZero_of_perform hgood) h

/-- The node with an IPv6 address only. -/
def ipv6WebNode : Node where
  name := "node"
  providerID := "ocid1.instance.oc1..a"
  addresses := [⟨.internalIP, "fd00::5"⟩]

/-- The node loses its IPv4 address, so the backend set has no backends any more. The load
balancer's list then gets an egress rule to the nodes on port 0. -/
theorem ipv6WebNode_addsPortZero :
    ∃ s₀ s₁ st',
      newLBSpec .simple .stored .stored webService [webNode] [] none ipv4Only = .ok s₀ ∧
      newLBSpec .simple .stored .stored webService [ipv6WebNode] [] none ipv4Only = .ok s₁ ∧
      (webProvider webService).updateLoadBalancer s₁ {} .stored (.ok webSubnets.lbSubnets)
        (.ok webSubnets.nodeSubnets) ⟨.ofSpec s₀, webLists [80] [30080, 10256]⟩ = .ok st' ∧
      AddsPortZero (webLists [80] [30080, 10256]) st'.securityLists ∧
      ¬NeverAddsPortZero {} .stored webSubnets s₁ (.ofSpec s₀) := by
  refine ⟨?s₀, ?s₁, ?st, ?built₀, ?built₁, ?updated, ?adds, fun h => h.not_addsPortZero ?updated ?adds⟩
  case built₀ => rfl
  case built₁ => rfl
  case updated => rfl
  case adds =>
    exact ⟨"lb-list", _, _, makeEgressSecurityRule "10.0.10.0/24" 0, rfl, rfl, rfl,
      .inr ⟨by decide, by decide⟩⟩

end OciCcm.LoadBalancer
