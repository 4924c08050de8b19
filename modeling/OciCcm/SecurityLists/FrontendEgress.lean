import OciCcm.SecurityLists.Calls

/-! # Egress rules in frontend mode

The manager of frontend mode runs the common loop with no node subnets. No egress
rule is wanted then, and the loop removes the egress rules on the ports of the
load balancer instead of leaving them to whoever has made them. It leaves the
egress rules of all lists alone exactly where there are no such rules.
-/

namespace OciCcm.SecurityLists

open Go Kubernetes LoadBalancer BaseSecurityListManager
open Program (Along Ensures Refines ensures_iff_visits)

/-! ## Egress rules without node subnets -/

/-- The rule is on the old one of two different ports, or on the new one and the port is not
known to be in use for health checks. -/
def DropsEgress (serviceLister : ServiceLister) (actualPort desiredPort : Nat)
    (rule : SecurityRule) : Prop :=
  (desiredPort ≠ actualPort ∧ rule.OnPort actualPort) ∨
    (rule.PlainOnPort desiredPort ∧ ¬keepsRules (healthCheckPortInUse serviceLister desiredPort))

section NoSubnets

variable {actualPort desiredPort : Nat} {lister : ServiceLister} {rules : List SecurityRule}
  {ipFamilies : List IpVersion}

theorem lbEgressFallback_iff {rule : SecurityRule} :
    lbEgressFallback actualPort desiredPort lister rule ↔
      ¬DropsEgress lister actualPort desiredPort rule := by
  simp only [lbEgressFallback, isOldEgressRule, DropsEgress]
  grind

theorem getLoadBalancerEgressRules_nil :
    getLoadBalancerEgressRules rules [] actualPort desiredPort lister ipFamilies =
      rules.filter (lbEgressFallback actualPort desiredPort lister) := by
  rw [lbEgress_eq_rebuild]
  exact Scan.rebuild_empty newRules_empty

theorem getLoadBalancerEgressRules_nil_sublist :
    (getLoadBalancerEgressRules rules [] actualPort desiredPort lister ipFamilies).Sublist
      rules := by
  rw [getLoadBalancerEgressRules_nil]
  exact List.filter_sublist

theorem getLoadBalancerEgressRules_nil_eq_self_iff (ipFamilies : List IpVersion) :
    getLoadBalancerEgressRules rules [] actualPort desiredPort lister ipFamilies = rules ↔
      ∀ rule ∈ rules, ¬DropsEgress lister actualPort desiredPort rule := by
  simp only [getLoadBalancerEgressRules_nil, List.filter_eq_self, lbEgressFallback_iff]

end NoSubnets

/-- The two rounds of egress rules of `updateLoadBalancerRules` without node subnets, one for
the backend ports and one for the health check ports. -/
def frontendEgress (serviceLister : ServiceLister) (actualPorts : Option PortSpec)
    (desiredPorts : PortSpec) (ipFamilies : List IpVersion) (rules : List SecurityRule) :
    List SecurityRule :=
  getLoadBalancerEgressRules
    (getLoadBalancerEgressRules rules [] ((actualPorts.map (·.backendPort)).getD 0)
      desiredPorts.backendPort serviceLister ipFamilies)
    [] ((actualPorts.map (·.healthCheckerPort)).getD 0) desiredPorts.healthCheckerPort
    serviceLister ipFamilies

/-- The rule is dropped in one of the two rounds. -/
def DropsFrontendEgress (serviceLister : ServiceLister) (actualPorts : Option PortSpec)
    (desiredPorts : PortSpec) (rule : SecurityRule) : Prop :=
  DropsEgress serviceLister ((actualPorts.map (·.backendPort)).getD 0) desiredPorts.backendPort
    rule ∨
  DropsEgress serviceLister ((actualPorts.map (·.healthCheckerPort)).getD 0)
    desiredPorts.healthCheckerPort rule

section FrontendEgress

variable {lister : ServiceLister} {actualPorts : Option PortSpec} {desiredPorts : PortSpec}
  {ipFamilies : List IpVersion} {rules : List SecurityRule}

theorem frontendEgress_sublist :
    (frontendEgress lister actualPorts desiredPorts ipFamilies rules).Sublist rules :=
  getLoadBalancerEgressRules_nil_sublist.trans getLoadBalancerEgressRules_nil_sublist

theorem frontendEgress_eq_self_iff :
    frontendEgress lister actualPorts desiredPorts ipFamilies rules = rules ↔
      ∀ rule ∈ rules, ¬DropsFrontendEgress lister actualPorts desiredPorts rule := by
  unfold DropsFrontendEgress
  simp only [not_or, forall_and]
  rw [← getLoadBalancerEgressRules_nil_eq_self_iff ipFamilies,
    ← getLoadBalancerEgressRules_nil_eq_self_iff ipFamilies]
  constructor
  · intro h
    -- the second round only drops rules, so the first one has kept them all
    have hall : (frontendEgress lister actualPorts desiredPorts ipFamilies rules).Sublist
        (getLoadBalancerEgressRules rules [] ((actualPorts.map (·.backendPort)).getD 0)
          desiredPorts.backendPort lister ipFamilies) := getLoadBalancerEgressRules_nil_sublist
    rw [h] at hall
    have hfirst := getLoadBalancerEgressRules_nil_sublist.antisymm hall
    rw [frontendEgress, hfirst] at h
    exact ⟨hfirst, h⟩
  · rintro ⟨hfirst, hsecond⟩
    rw [frontendEgress, hfirst, hsecond]

end FrontendEgress

/-! ## A loop that only drops egress rules -/

namespace Calls

/-- A write has the egress rules that the list has at that time. As the loop runs alone, these
are the rules that it has just read. -/
def EgressAsStored (lists : Lists) : Call → Prop
  | .getSecurityList _ => True
  | .updateSecurityList id _ _ egressRules => ∀ secList, lists.store.lookup id = some secList →
      egressRules = secList.egressSecurityRules

instance (lists : Lists) (q : Call) : Decidable (EgressAsStored lists q) := by
  induction q using Call.casesOn <;> unfold EgressAsStored <;> infer_instance

/-- Whatever the service replies, every write leaves the egress rules as they are. -/
def KeepsEgress (p : Program PUnit) (lists : Lists) : Prop :=
  ∀ replies, ∀ v ∈ p.visits serve lists replies, EgressAsStored v.1 v.2

/-- The list in charge of the subnet has only egress rules that `egress` keeps. -/
def EgressKept (s : BaseSecurityListManager) (egress : List SecurityRule → List SecurityRule)
    (store : Store) (subnet : SubnetWithLists) : Prop :=
  ∀ id secList, (reliable s).listInCharge store subnet = some id → store.lookup id = some secList →
    egress secList.egressSecurityRules = secList.egressSecurityRules

/-- The two stores hold the same lists with the same egress rules. -/
def SameEgress (store store' : Store) : Prop :=
  ∀ id, (store'.lookup id).map (fun l => (l.egressSecurityRules, l.timeCreated)) =
    (store.lookup id).map fun l => (l.egressSecurityRules, l.timeCreated)

variable {s : BaseSecurityListManager} {egress : List SecurityRule → List SecurityRule}
  {store store' : Store} {subnet : SubnetWithLists} {lists : Lists}

theorem SameEgress.symm (h : SameEgress store store') : SameEgress store' store :=
  fun id => (h id).symm

theorem SameEgress.sameLists (h : SameEgress store store') : SameLists store store' := by
  intro id
  have hid := congrArg (Option.map Prod.snd) (h id)
  simpa only [Option.map_map, Function.comp_def] using hid

theorem SameEgress.lookup (h : SameEgress store store') {id : String} {secList : SecurityList}
    (hlookup : store.lookup id = some secList) : ∃ secList', store'.lookup id = some secList' ∧
      secList'.egressSecurityRules = secList.egressSecurityRules := by
  have hid := h id
  rw [hlookup, Option.map_some, Option.map_eq_some_iff] at hid
  obtain ⟨secList', hlookup', heq⟩ := hid
  exact ⟨secList', hlookup', (Prod.mk.inj heq).1⟩

theorem EgressKept.congr (hsame : SameEgress store store')
    (h : EgressKept s egress store' subnet) : EgressKept s egress store subnet := by
  intro id secList hcharge hlookup
  obtain ⟨secList', hlookup', heq⟩ := hsame.lookup hlookup
  rw [← listInCharge_congr hsame.sameLists] at hcharge
  exact heq ▸ h id secList' hcharge hlookup'

theorem sameEgress_write {id etag : String} {secList : SecurityList}
    {rules : List SecurityRule × List SecurityRule} (hlookup : lists.store.lookup id = some secList)
    (hrules : rules.2 = secList.egressSecurityRules) :
    SameEgress lists.store (lists.write id etag (secList.withRules rules)).store := by
  intro id'
  by_cases hid : id' = id
  · subst hid
    rw [Lists.lookup_write_self, hlookup, Option.map_some, Option.map_some, ← hrules]
    rfl
  · rw [Lists.lookup_write_of_ne hid]

variable {kind : String} {rewrite : SecurityList → List SecurityRule × List SecurityRule}

theorem rewriteStep_of_listInCharge {id : String}
    (h : (reliable s).listInCharge store subnet = some id) :
    ∃ store', (reliable s).rewriteStep kind rewrite store subnet = .ok store' := by
  obtain ⟨secList, hget⟩ := listInCharge_eq_some.mp h
  have hlookup := lookup_of_getSecurityList hget
  unfold BaseSecurityListManager.rewriteStep
  rw [hget]
  dsimp only [Except.mapError, bind, Except.bind]
  split
  · simp [NetworkingClient.updateSecurityList, reliable, hlookup]
  · exact ⟨_, rfl⟩

theorem noErrors_fail (lists : Lists) (q : Call) (f : Reply) (err : String)
    (hf : NoErrors lists q f) (herr : f.error = some err) : False :=
  nomatch hf.symm.trans herr

theorem noErrors_live (lists : Lists) (q : Call) : ∃ f, NoErrors lists q f := ⟨{}, rfl⟩

section Loop

/-! The loop computes the new egress rules from the old ones, and only drops some. -/

variable (hrewrite : ∀ secList, (rewrite secList).2 = egress secList.egressSecurityRules)
  (hsub : ∀ rules, (egress rules).Sublist rules)

include hrewrite

/-- A step for a list without egress rules to drop. -/
theorem EgressKept.ensures_rewriteStep (h : EgressKept s egress lists.store subnet) :
    Ensures serve (fun _ _ _ => True) (fun lists q _ => EgressAsStored lists q)
      (fun r lists' => ∀ u, r = .ok u → SameEgress lists.store lists'.store ∧
        ∃ id, (reliable s).listInCharge lists.store subnet = some id)
      (rewriteStep s kind rewrite subnet) lists := by
  have hget : Refines serve (fun _ _ _ => True) True
      (fun r lists' r' => lists' = lists ∧ Reads lists r r')
      ((reliable s).getSecurityList lists.store subnet) (getSecurityList s subnet) lists :=
    refines_getSecurityList (fun _ _ _ _ _ _ => trivial) subnet
  refine .bind (.mapError ((Ensures.of_makes hget (makes_getSecurityList s subnet)
    ?_).mono (fun _ _ _ h => h) ?_))
  · rintro lists _ _ ⟨id, rfl⟩ -
    trivial
  rintro (err | r) lists' hr
  · exact fun _ h => nomatch h
  obtain ⟨_, hok, rfl, rfl, hstored, hetag⟩ := hr
  have hcharge : (reliable s).listInCharge lists'.store subnet = some r.id :=
    listInCharge_eq_some.mpr ⟨_, hok⟩
  have hkept : (rewrite r.secList).2 = r.secList.egressSecurityRules :=
    (hrewrite _).trans (h r.id r.secList hcharge hstored)
  change Ensures serve _ _ _ (writeBack kind rewrite subnet r) lists'
  unfold writeBack
  dsimp only
  split
  · refine fun f _ => ⟨fun secList hlookup => ?_, fun _ _ => ⟨?_, r.id, hcharge⟩⟩
    · rw [hkept, Option.some.inj (hstored.symm.trans hlookup)]
    · dsimp only [serve]
      cases haccepts : lists'.accepts r.id r.etag f with
      | none => exact fun _ => rfl
      | some secList =>
        obtain ⟨-, hlookup⟩ := Lists.of_accepts haccepts
        obtain rfl : r.secList = secList := Option.some.inj (hstored.symm.trans hlookup)
        exact sameEgress_write hlookup hkept
  · exact fun _ _ => ⟨fun _ => rfl, r.id, hcharge⟩

include hsub

theorem egressKept_of_ensures
    (h : Ensures serve (fun _ _ _ => True) (fun lists q _ => EgressAsStored lists q)
      (fun _ _ => True) (rewriteStep s kind rewrite subnet) lists) :
    EgressKept s egress lists.store subnet := by
  intro id secList hcharge hlookup
  obtain ⟨secList', hget⟩ := listInCharge_eq_some.mp hcharge
  have hread : Refines serve NoErrors False
      (fun r lists' r' => lists' = lists ∧ Reads lists r r')
      ((reliable s).getSecurityList lists.store subnet) (getSecurityList s subnet) lists :=
    refines_getSecurityList noErrors_fail subnet
  rw [hget] at hread
  -- where no call fails the loop has read the list in charge and goes on to write it
  obtain ⟨r, _, ⟨rfl, heq, hstored, -⟩, hwrite⟩ := hread.mapError.ends noErrors_live
    (fun _ _ _ _ => trivial) (Ensures.of_bind h)
  obtain ⟨rfl, rfl⟩ := Prod.mk.inj heq
  obtain rfl := Option.some.inj (hstored.symm.trans hlookup)
  by_contra hne
  have hchanged : securityListRulesChanged r.secList (rewrite r.secList).1
      (rewrite r.secList).2 := by
    have hlength : (rewrite r.secList).2.length ≠ r.secList.egressSecurityRules.length := by
      rw [hrewrite]
      exact fun hlength => hne ((hsub _).eq_of_length hlength)
    simp [securityListRulesChanged, rulesChanged, hlength]
  change Ensures serve _ _ _ (writeBack kind rewrite subnet r) _ at hwrite
  rw [writeBack, if_pos hchanged] at hwrite
  exact hne ((hrewrite _).symm.trans ((hwrite {} trivial).1 r.secList hstored))

/-- A loop leaves the egress rules alone if and only if no list that it comes to has egress rules
to drop. -/
theorem ensures_forM_iff (subnets : List SubnetWithLists) :
    Ensures serve (fun _ _ _ => True) (fun lists q _ => EgressAsStored lists q)
      (fun _ _ => True) (subnets.forM (rewriteStep s kind rewrite)) lists ↔
    ∀ before subnet after, subnets = before ++ subnet :: after →
      (∀ x ∈ before, ∃ id, (reliable s).listInCharge lists.store x = some id) →
      EgressKept s egress lists.store subnet := by
  induction subnets generalizing lists with
  | nil => exact iff_of_true trivial fun before _ _ h => absurd h (by simp)
  | cons x subnets ih =>
    constructor
    · intro h
      have hbind := Ensures.of_bind (p := rewriteStep s kind rewrite x) h
      have hx : EgressKept s egress lists.store x :=
        egressKept_of_ensures hrewrite hsub (hbind.mono (fun _ _ _ h => h) fun _ _ _ => trivial)
      intro before subnet after heq hbefore
      cases before with
      | nil =>
        obtain ⟨rfl, rfl⟩ := List.cons.inj heq
        exact hx
      | cons y before =>
        obtain ⟨rfl, rfl⟩ := List.cons.inj heq
        obtain ⟨id, hcharge⟩ := hbefore x List.mem_cons_self
        have hrun : Refines serve NoErrors False
            (fun _ lists' store => lists'.store = store)
            ((reliable s).rewriteStep kind rewrite lists.store x) (rewriteStep s kind rewrite x)
            lists := refines_rewriteStep noErrors_fail kind rewrite x
        obtain ⟨store', hstep⟩ := rewriteStep_of_listInCharge hcharge
        rw [hstep] at hrun
        obtain ⟨u, lists', rfl, hrest, hsame⟩ := hrun.ends noErrors_live (fun _ _ _ _ => trivial)
          (hbind.and (hx.ensures_rewriteStep hrewrite))
        obtain ⟨hsame, -⟩ := hsame u rfl
        refine EgressKept.congr hsame (ih.mp hrest before subnet after rfl fun y hy => ?_)
        rw [listInCharge_congr hsame.sameLists]
        exact hbefore y (List.mem_cons_of_mem _ hy)
    · intro h
      have hx : EgressKept s egress lists.store x := h [] x subnets rfl (by simp)
      refine Ensures.bind
        ((hx.ensures_rewriteStep hrewrite).mono (fun _ _ _ h => h) ?_)
      rintro (err | u) lists' hr
      · trivial
      · obtain ⟨hsame, id, hcharge⟩ := hr u rfl
        refine ih.mpr fun before subnet after heq hbefore => ?_
        refine EgressKept.congr hsame.symm (h (x :: before) subnet after (by rw [heq]; rfl) ?_)
        intro y hy
        rcases List.mem_cons.mp hy with rfl | hy
        · exact ⟨id, hcharge⟩
        · rw [← listInCharge_congr hsame.sameLists]
          exact hbefore y hy

end Loop

/-! ## The manager of frontend mode -/

/-- No list that the loop comes to has an egress rule on the ports of the load balancer. The loop
comes to a subnet if all subnets before it have a list in charge. -/
def NoEgressToDrop (s : BaseSecurityListManager) (store : Store) (lbSubnets : List SubnetWithLists)
    (actualPorts : Option PortSpec) (desiredPorts : PortSpec) : Prop :=
  ∀ before subnet after id secList, lbSubnets = before ++ subnet :: after →
    (∀ x ∈ before, ∃ id, (reliable s).listInCharge store x = some id) →
    (reliable s).listInCharge store subnet = some id → store.lookup id = some secList →
    ∀ rule ∈ secList.egressSecurityRules,
      ¬DropsFrontendEgress s.serviceLister actualPorts desiredPorts rule

theorem keepsEgress_iff_ensures {p : Program PUnit} :
    KeepsEgress p lists ↔ Ensures serve (fun _ _ _ => True)
      (fun lists q _ => EgressAsStored lists q) (fun _ _ => True) p lists := by
  rw [ensures_iff_visits]
  constructor
  · exact fun h replies _ => h replies
  · exact fun h replies => h replies (Along.of_forall fun _ _ _ => trivial)

theorem keepsEgress_iff (s : BaseSecurityListManager) (lists : Lists)
    (lbSubnets : List SubnetWithLists) (sourceCIDRs : List String) (actualPorts : Option PortSpec)
    (desiredPorts : PortSpec) (ipFamilies : List IpVersion) :
    KeepsEgress (updateLoadBalancerRules s lbSubnets [] sourceCIDRs actualPorts desiredPorts
      ipFamilies) lists ↔ NoEgressToDrop s lists.store lbSubnets actualPorts desiredPorts := by
  have hegress : ∀ secList,
      (s.loadBalancerRules [] sourceCIDRs actualPorts desiredPorts ipFamilies secList).2 =
        frontendEgress s.serviceLister actualPorts desiredPorts ipFamilies
          secList.egressSecurityRules := fun _ => rfl
  rw [keepsEgress_iff_ensures, updateLoadBalancerRules,
    ensures_forM_iff hegress fun _ => frontendEgress_sublist]
  unfold NoEgressToDrop EgressKept
  simp only [frontendEgress_eq_self_iff]
  constructor
  · intro h before subnet after id secList heq hbefore
    exact h before subnet after heq hbefore id secList
  · intro h before subnet after heq hbefore id secList
    exact h before subnet after id secList heq hbefore

/-- In frontend mode the egress rules of all lists are left alone if and only if no list has one
that concerns the ports of the load balancer. -/
theorem frontend_keepsEgress_iff (s : BaseSecurityListManager) (sc : SecurityRuleComponents)
    (lists : Lists) :
    (KeepsEgress (frontendUpdate s sc) lists ↔
      NoEgressToDrop s lists.store sc.lbSubnets sc.actualPorts sc.desiredPorts) ∧
    (KeepsEgress (frontendDelete s sc) lists ↔
      NoEgressToDrop s lists.store sc.lbSubnets (some sc.desiredPorts) sc.desiredPorts) :=
  ⟨keepsEgress_iff .., keepsEgress_iff ..⟩

/-- A service on port 443 with node port 30443, in a subnet with one security list. -/
def webComponents : SecurityRuleComponents where
  sourceCIDRs := ["0.0.0.0/0"]
  isPreserveSource := false
  lbSubnets := [{ id := "subnet", securityListIds := ["list"] }]
  backendSubnets := []
  actualPorts := none
  desiredPorts := { listenerPort := 443, backendPort := 30443, healthCheckerPort := 10256 }
  ipFamilies := [.ipv4]

def listWithEgress (egressRules : List SecurityRule) : Lists where
  store := GoMap.ofPairs [("list", ⟨[], egressRules, 0⟩)]
  etag _ := "e0"

/-- An operator who manages the egress rules by hand has opened the node port. The manager of
frontend mode removes the rule. -/
theorem frontendUpdate_drops_egress :
    ¬KeepsEgress (frontendUpdate { serviceLister := .ok [] } webComponents)
      (listWithEgress [makeEgressSecurityRule "10.0.0.0/16" 30443]) := by
  intro h
  have hwrite : ∃ v ∈ (frontendUpdate { serviceLister := .ok [] } webComponents).visits serve
      (listWithEgress [makeEgressSecurityRule "10.0.0.0/16" 30443]) [{}, { etag := "e1" }],
      ¬EgressAsStored v.1 v.2 := by decide +kernel
  obtain ⟨v, hv, hdiffers⟩ := hwrite
  exact hdiffers (h _ v hv)

end Calls

end OciCcm.SecurityLists
