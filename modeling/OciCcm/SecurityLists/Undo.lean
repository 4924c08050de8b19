import OciCcm.SecurityLists.Rewriting

/-! # A deletion after an update

A deletion computes the rules anew without subnets and sources, so what it
leaves of a list is a filter of it: every rule that is not on a port of the
service. An update adds rules on these ports only, which the deletion removes
again. What it does not bring back are rules that the update removed on other
ports, the ones it took for ports that the service had before. Where the lists
have none, every list is as it was.
-/

namespace OciCcm.SecurityLists

open Go Kubernetes LoadBalancer BaseSecurityListManager List

/-! ## What a deletion leaves -/

section Unwanted

variable {rules : List SecurityRule} {lister : ServiceLister} {port : Nat}
  {ipFamilies : List IpVersion} {ports : PortSpec} {isPreserveSource : Bool}

theorem lbIngress_unwanted (hunused : ¬keepsRules (portInUse lister port)) :
    getLoadBalancerIngressRules rules [] port lister = rules.filter (Foreign [port]) := by
  rw [lbIngress_eq_rebuild, rebuildPort, toFinset_nil, Scan.rebuild_empty newRules_empty]
  refine filter_congr fun rule _ => ?_
  simp [lbIngressFallback, hunused, foreign_iff]

theorem lbEgress_unwanted (hunused : ¬keepsRules (healthCheckPortInUse lister port)) :
    getLoadBalancerEgressRules rules [] port port lister ipFamilies =
      rules.filter (Foreign [port]) := by
  have hnone : subnetsCidrs ipFamilies [] = ∅ := rfl
  rw [lbEgress_eq_rebuild, rebuildPort, hnone, Scan.rebuild_empty newRules_empty]
  refine filter_congr fun rule _ => ?_
  simp [lbEgressFallback, isOldEgressRule, hunused, foreign_iff]

theorem nodeIngress_unwanted
    (hunused : ¬keepsRules (healthCheckPortInUse lister ports.healthCheckerPort)) :
    getNodeIngressRules rules [] (some ports) ports lister [] isPreserveSource ipFamilies =
      rules.filter (Foreign [ports.backendPort, ports.healthCheckerPort]) := by
  have hnone : wantedKeys [] [] isPreserveSource ipFamilies = ∅ := by
    cases isPreserveSource <;> rfl
  have hold : ∀ rule, ¬isOldPortRule (some ports) ports rule := by
    intro rule h
    obtain ⟨port, -, hb, hh, hport⟩ := (isOldPortRule_iff_exists).mp h
    exact hport.elim hb hh
  rw [nodeIngress_eq_rebuild, hnone, Scan.rebuild_empty newNodeRules_empty]
  refine filter_congr fun rule _ => ?_
  rw [Bool.eq_iff_iff, decide_eq_true_eq, foreign_iff, forall_mem_cons,
    forall_mem_singleton]
  constructor
  · intro h
    refine ⟨fun hplain => ?_, fun hplain => ?_⟩
    · exact hunused ((nodeIngressFallback_of_plain hplain (.inl rfl)).mp h).2
    · exact hunused ((nodeIngressFallback_of_plain hplain (.inr rfl)).mp h).2
  · rintro ⟨hb, hh⟩
    exact nodeIngressFallback_of_not_plain (hold rule) hb hh

end Unwanted

section DeletePasses

variable {s : BaseSecurityListManager} {sc : SecurityRuleComponents} {secList : SecurityList}

/-- No other service uses the ports, as the manager sees it. -/
structure Unused (lister : ServiceLister) (ports : PortSpec) : Prop where
  listener : ¬keepsRules (portInUse lister ports.listenerPort)
  backend : ¬keepsRules (healthCheckPortInUse lister ports.backendPort)
  healthChecker : ¬keepsRules (healthCheckPortInUse lister ports.healthCheckerPort)

theorem pass_of_sublist {rewrite : SecurityList → List SecurityRule × List SecurityRule}
    (hingress : (rewrite secList).1.Sublist secList.ingressSecurityRules)
    (hegress : (rewrite secList).2.Sublist secList.egressSecurityRules) :
    pass rewrite secList =
      { secList with
        ingressSecurityRules := (rewrite secList).1
        egressSecurityRules := (rewrite secList).2 } := by
  unfold pass
  split
  · rfl
  · next hsame =>
      rw [securityListRulesChanged, Bool.or_eq_true, not_or] at hsame
      rw [hingress.eq_of_length (not_rulesChanged_iff.mp hsame.1).1,
        hegress.eq_of_length (not_rulesChanged_iff.mp hsame.2).1]

theorem lbPass_forDelete (hlistener : sc.desiredPorts.listenerPort ≠ 0)
    (hunused : Unused s.serviceLister sc.desiredPorts) :
    lbPass s sc.forDelete [] secList =
      { secList with
        ingressSecurityRules :=
          secList.ingressSecurityRules.filter (Foreign [sc.desiredPorts.listenerPort])
        egressSecurityRules :=
          (secList.egressSecurityRules.filter (Foreign [sc.desiredPorts.backendPort])).filter
            (Foreign [sc.desiredPorts.healthCheckerPort]) } := by
  have hrules : s.loadBalancerRules [] [] (some sc.desiredPorts) sc.desiredPorts sc.ipFamilies
      secList =
      (secList.ingressSecurityRules.filter (Foreign [sc.desiredPorts.listenerPort]),
        (secList.egressSecurityRules.filter (Foreign [sc.desiredPorts.backendPort])).filter
          (Foreign [sc.desiredPorts.healthCheckerPort])) := by
    unfold loadBalancerRules
    simp only [Option.map_some, Option.getD_some, if_pos hlistener,
      lbIngress_unwanted hunused.listener, lbEgress_unwanted hunused.backend,
      lbEgress_unwanted hunused.healthChecker]
  unfold lbPass SecurityRuleComponents.forDelete
  rw [pass_of_sublist]
  · rw [hrules]
  · rw [hrules]
    exact filter_sublist
  · rw [hrules]
    exact filter_sublist.trans filter_sublist

theorem nodePass_forDelete (hunused : Unused s.serviceLister sc.desiredPorts) :
    nodePass s sc.forDelete secList =
      { secList with
        ingressSecurityRules := secList.ingressSecurityRules.filter
          (Foreign [sc.desiredPorts.backendPort, sc.desiredPorts.healthCheckerPort]) } := by
  have hrules : s.backendRules [] (some sc.desiredPorts) sc.desiredPorts [] sc.isPreserveSource
      sc.ipFamilies secList =
      (secList.ingressSecurityRules.filter
        (Foreign [sc.desiredPorts.backendPort, sc.desiredPorts.healthCheckerPort]),
        secList.egressSecurityRules) := by
    rw [backendRules, nodeIngress_unwanted hunused.healthChecker]
  unfold nodePass SecurityRuleComponents.forDelete
  rw [pass_of_sublist]
  · rw [hrules]
  · rw [hrules]
    exact filter_sublist
  · rw [hrules]

theorem iterate_succ_of_idem {α : Type} {f : α → α} {x : α} (h : f (f x) = f x) (n : Nat) :
    f^[n + 1] x = f x := by
  rw [Function.iterate_succ_apply, Function.iterate_fixed h]

theorem iterate_lbPass_forDelete (hlistener : sc.desiredPorts.listenerPort ≠ 0)
    (hunused : Unused s.serviceLister sc.desiredPorts) (n : Nat) :
    (lbPass s sc.forDelete [])^[n + 1] secList = lbPass s sc.forDelete [] secList := by
  refine iterate_succ_of_idem ?_ n
  simp only [lbPass_forDelete hlistener hunused, filter_filter]
  congr 1
  · simp
  · refine filter_congr fun rule _ => ?_
    grind

theorem iterate_nodePass_forDelete (hunused : Unused s.serviceLister sc.desiredPorts) (n : Nat) :
    (nodePass s sc.forDelete)^[n + 1] secList = nodePass s sc.forDelete secList := by
  refine iterate_succ_of_idem ?_ n
  simp only [nodePass_forDelete hunused, filter_filter, Bool.and_self]

end DeletePasses

/-! ## What an update keeps -/

section UpdatePasses

variable {s : BaseSecurityListManager} {sc : SecurityRuleComponents} {secList : SecurityList}
  {p : SecurityRule → Bool} {rules rules₀ : List SecurityRule}

theorem filter_apply_of_kept (call : Rewriting)
    (hp : ∀ rule, p rule → ∀ port ∈ call.newPorts, ¬rule.PlainOnPort port)
    (hkept : ∀ rule ∈ rules₀, ¬call.removes rule) (h : rules.filter p = rules₀) :
    (call.apply rules).filter p = rules₀ := by
  rw [filter_apply hp, ← h]
  refine filter_congr fun rule hrule => ?_
  cases hrest : p rule with
  | false => rfl
  | true => simp [hkept rule (h ▸ mem_filter.mpr ⟨hrule, hrest⟩)]

/-- No rule is on a port that the service had before, nor on port 0, for which an update takes old
ports that are not given. -/
abbrev NoneOld (sc : SecurityRuleComponents) (rules : List SecurityRule) : Prop :=
  ∀ rule ∈ rules, ¬rule.OnPort ((sc.actualPorts.map (·.backendPort)).getD 0) ∧
    ¬rule.OnPort ((sc.actualPorts.map (·.healthCheckerPort)).getD 0)

theorem filter_egress_lbPass
    (hp : ∀ rule, p rule → ¬rule.PlainOnPort sc.desiredPorts.backendPort ∧
      ¬rule.PlainOnPort sc.desiredPorts.healthCheckerPort)
    (hold : NoneOld sc rules₀) (h : secList.egressSecurityRules.filter p = rules₀) :
    (lbPass s sc sc.backendSubnets secList).egressSecurityRules.filter p = rules₀ := by
  unfold lbPass pass
  split
  · refine filter_apply_of_kept (.lbEgress _ _ _ _ _) ?_ ?_
      (filter_apply_of_kept (.lbEgress _ _ _ _ _) ?_ ?_ h)
    · simpa [Rewriting.newPorts] using fun rule hrule => (hp rule hrule).2
    · exact fun rule hrule hremoves => (hold rule hrule).2 (of_decide_eq_true hremoves).2
    · simpa [Rewriting.newPorts] using fun rule hrule => (hp rule hrule).1
    · exact fun rule hrule hremoves => (hold rule hrule).1 (of_decide_eq_true hremoves).2
  · exact h

theorem filter_ingress_lbPass (hlistener : sc.desiredPorts.listenerPort ≠ 0)
    (hp : ∀ rule, p rule → ¬rule.PlainOnPort sc.desiredPorts.listenerPort)
    (h : secList.ingressSecurityRules.filter p = rules₀) :
    (lbPass s sc sc.backendSubnets secList).ingressSecurityRules.filter p = rules₀ := by
  unfold lbPass pass
  split
  · simp only [loadBalancerRules, if_pos hlistener]
    refine filter_apply_of_kept (.lbIngress _ _ _) ?_ (fun _ _ => Bool.false_ne_true) h
    simpa [Rewriting.newPorts] using hp
  · exact h

theorem filter_ingress_nodePass
    (hp : ∀ rule, p rule → ¬rule.PlainOnPort sc.desiredPorts.backendPort ∧
      ¬rule.PlainOnPort sc.desiredPorts.healthCheckerPort)
    (hold : NoneOld sc rules₀) (h : secList.ingressSecurityRules.filter p = rules₀) :
    (nodePass s sc secList).ingressSecurityRules.filter p = rules₀ := by
  unfold nodePass pass
  split
  · refine filter_apply_of_kept (.nodeIngress _ _ _ _ _ _ _) ?_ (fun rule hrule hremoves => ?_) h
    · simpa [Rewriting.newPorts] using hp
    · obtain ⟨port, hport, -, -, rfl | rfl⟩ := isOldPortRule_iff_exists.mp hremoves
      · exact (hold rule hrule).1 hport
      · exact (hold rule hrule).2 hport
  · exact h

theorem egress_iterate_nodePass (n : Nat) :
    ((nodePass s sc)^[n] secList).egressSecurityRules = secList.egressSecurityRules := by
  refine Function.Iterate.rec
    (fun after : SecurityList => after.egressSecurityRules = secList.egressSecurityRules) rfl
    (fun after h => ?_) n
  unfold nodePass pass backendRules
  split <;> exact h

end UpdatePasses

/-! ## One list -/

section Undone

variable {s s' : BaseSecurityListManager} {sc : SecurityRuleComponents} {secList : SecurityList}
  {m n : Nat}

/-- A list in charge of `m` load balancer subnets and `n` node subnets, after an update and a
deletion. -/
def undone (s s' : BaseSecurityListManager) (sc : SecurityRuleComponents) (m n : Nat)
    (secList : SecurityList) : SecurityList :=
  (nodePass s' sc.forDelete)^[n] ((lbPass s' sc.forDelete [])^[m]
    ((nodePass s sc)^[n] ((lbPass s sc sc.backendSubnets)^[m] secList)))

/-- The list has no rule on a port of the service. -/
abbrev Clean (ports : PortSpec) (secList : SecurityList) : Prop :=
  ∀ rule ∈ secList.ingressSecurityRules ++ secList.egressSecurityRules,
    Foreign [ports.listenerPort, ports.backendPort, ports.healthCheckerPort] rule

theorem timeCreated_undone : (undone s s' sc m n secList).timeCreated = secList.timeCreated := by
  unfold undone nodePass lbPass
  simp only [timeCreated_iterate_pass]

theorem egress_undone (hlistener : sc.desiredPorts.listenerPort ≠ 0)
    (hunused : Unused s'.serviceLister sc.desiredPorts) (hclean : Clean sc.desiredPorts secList)
    (hold : NoneOld sc secList.egressSecurityRules) :
    (undone s s' sc m n secList).egressSecurityRules = secList.egressSecurityRules := by
  unfold undone
  rw [egress_iterate_nodePass]
  cases m with
  | zero => exact egress_iterate_nodePass n
  | succ m =>
    rw [iterate_lbPass_forDelete hlistener hunused, lbPass_forDelete hlistener hunused]
    dsimp only
    rw [filter_filter, egress_iterate_nodePass]
    refine Function.Iterate.rec (fun after : SecurityList => after.egressSecurityRules.filter _ = _)
      ?_ (fun after => filter_egress_lbPass (fun rule h => ?_) hold) (m + 1)
    · refine filter_eq_self.mpr fun rule hrule => ?_
      have hforeign := foreign_iff.mp (hclean rule (mem_append_right _ hrule))
      simp only [forall_mem_cons] at hforeign
      simp [foreign_iff, hforeign.2.1, hforeign.2.2.1]
    · simpa [foreign_iff, and_comm] using h

/-- The ingress rules that the passes of a deletion leave. -/
def deletionKeeps (ports : PortSpec) (m n : Nat) (rule : SecurityRule) : Bool :=
  (m = 0 || Foreign [ports.listenerPort] rule) &&
    (n = 0 || Foreign [ports.backendPort, ports.healthCheckerPort] rule)

theorem deletionKeeps_of_clean (hclean : Clean sc.desiredPorts secList) {rule : SecurityRule}
    (hrule : rule ∈ secList.ingressSecurityRules) : deletionKeeps sc.desiredPorts m n rule := by
  have hforeign := foreign_iff.mp (hclean rule (mem_append_left _ hrule))
  simp only [forall_mem_cons] at hforeign
  simp [deletionKeeps, foreign_iff, hforeign.1, hforeign.2.1, hforeign.2.2.1]

theorem ingress_deletion (hlistener : sc.desiredPorts.listenerPort ≠ 0)
    (hunused : Unused s'.serviceLister sc.desiredPorts) :
    ((nodePass s' sc.forDelete)^[n]
        ((lbPass s' sc.forDelete [])^[m] secList)).ingressSecurityRules =
      secList.ingressSecurityRules.filter (deletionKeeps sc.desiredPorts m n) := by
  have hlb : ((lbPass s' sc.forDelete [])^[m] secList).ingressSecurityRules =
      secList.ingressSecurityRules.filter
        fun rule => m = 0 || Foreign [sc.desiredPorts.listenerPort] rule := by
    cases m with
    | zero => simp
    | succ m =>
      rw [iterate_lbPass_forDelete hlistener hunused, lbPass_forDelete hlistener hunused]
      simp
  cases n with
  | zero =>
    rw [Function.iterate_zero, id, hlb]
    refine filter_congr fun rule _ => ?_
    simp [deletionKeeps]
  | succ n =>
    rw [iterate_nodePass_forDelete hunused, nodePass_forDelete hunused]
    dsimp only
    rw [hlb, filter_filter]
    refine filter_congr fun rule _ => ?_
    simp [deletionKeeps, Bool.and_comm]

theorem ingress_undone (hlistener : sc.desiredPorts.listenerPort ≠ 0)
    (hunused : Unused s'.serviceLister sc.desiredPorts) (hclean : Clean sc.desiredPorts secList)
    (hold : NoneOld sc secList.ingressSecurityRules) :
    (undone s s' sc m n secList).ingressSecurityRules = secList.ingressSecurityRules := by
  rw [undone, ingress_deletion hlistener hunused]
  have hlb : ((lbPass s sc sc.backendSubnets)^[m] secList).ingressSecurityRules.filter
      (deletionKeeps sc.desiredPorts m n) = secList.ingressSecurityRules := by
    have hstart := filter_eq_self.mpr fun rule hrule => @deletionKeeps_of_clean sc secList m n
      hclean rule hrule
    cases m with
    | zero => exact hstart
    | succ m =>
      refine Function.Iterate.rec (fun after : SecurityList =>
        after.ingressSecurityRules.filter _ = secList.ingressSecurityRules) hstart
        (fun after => filter_ingress_lbPass hlistener fun rule h => ?_) (m + 1)
      simp only [deletionKeeps, foreign_iff, Bool.and_eq_true] at h
      simpa using h.1
  cases n with
  | zero => exact hlb
  | succ n =>
    refine Function.Iterate.rec (fun after : SecurityList =>
      after.ingressSecurityRules.filter _ = secList.ingressSecurityRules) hlb
      (fun after => filter_ingress_nodePass (fun rule h => ?_) hold) (n + 1)
    simp only [deletionKeeps, foreign_iff, Bool.and_eq_true] at h
    simpa using h.2

theorem undone_eq_self (hlistener : sc.desiredPorts.listenerPort ≠ 0)
    (hunused : Unused s'.serviceLister sc.desiredPorts) (hclean : Clean sc.desiredPorts secList)
    (hold : NoneOld sc (secList.ingressSecurityRules ++ secList.egressSecurityRules)) :
    undone s s' sc m n secList = secList := by
  obtain ⟨hingressOld, hegressOld⟩ := forall_mem_append.mp hold
  have hingress := @ingress_undone s s' sc secList m n hlistener hunused hclean hingressOld
  have hegress := @egress_undone s s' sc secList m n hlistener hunused hclean hegressOld
  have htime := @timeCreated_undone s s' sc secList m n
  cases h : undone s s' sc m n secList with
  | mk ingress egress time =>
    rw [h] at hingress hegress htime
    cases secList
    simp only at hingress hegress htime
    rw [hingress, hegress, htime]

end Undone

/-! ## The two calls -/

/-- The answer of the lister when the service has been marked as deleted. -/
def markDeleted (service : Service) (timestamp : String) (lister : ServiceLister) :
    ServiceLister :=
  lister.map fun services => services.map fun other =>
    if other.ns = service.ns ∧ other.name = service.name then
      { other with deletionTimestamp := some timestamp }
    else other

namespace BaseSecurityListManager

/-- The manager when the service has been marked as deleted. -/
def afterDeletion (s : BaseSecurityListManager) (service : Service) (timestamp : String) :
    BaseSecurityListManager :=
  { s with serviceLister := markDeleted service timestamp s.serviceLister }

end BaseSecurityListManager

/-- `Update` followed by `Delete` for the deleted service leaves every list as it was. -/
def DeleteUndoesUpdate (s : BaseSecurityListManager) (service : Service) (timestamp : String)
    (sc : SecurityRuleComponents) (store : Store) : Prop :=
  ∃ store₁ store₂, s.defaultUpdate sc store = .ok store₁ ∧
    (s.afterDeletion service timestamp).defaultDelete sc store₁ = .ok store₂ ∧
    ∀ id, store₂.lookup id = store.lookup id

/-- All calls succeed, the ports are new to the lists, and no other service uses them. -/
structure NewPorts (s : BaseSecurityListManager) (service : Service) (sc : SecurityRuleComponents)
    (store : Store) : Prop where
  updateError : ∀ id, s.client.updateError id = none
  inCharge : ∀ subnet ∈ sc.lbSubnets ++ sc.backendSubnets, (s.listInCharge store subnet).isSome
  listenerPort : sc.desiredPorts.listenerPort ≠ 0
  unused : Unused (s.serviceLister.map (otherServices service)) sc.desiredPorts
  clean : ∀ entry ∈ store.toPairs, Clean sc.desiredPorts entry.2

/-- No list has a rule on a port that an update takes for one the service had before. -/
abbrev NoOldRules (sc : SecurityRuleComponents) (store : Store) : Prop :=
  ∀ entry ∈ store.toPairs,
    NoneOld sc (entry.2.ingressSecurityRules ++ entry.2.egressSecurityRules)

section TwoCalls

variable {s : BaseSecurityListManager} {service : Service} {timestamp : String}
  {sc : SecurityRuleComponents} {store store₁ store₂ : Store} {lister : ServiceLister}
  {ports : PortSpec} {port : Nat}

/-- A question about the services that are not deleted. -/
theorem any_markDeleted {p : Service → Bool}
    (hp : ∀ other : Service, p { other with deletionTimestamp := some timestamp } = false) :
    (do .ok ((← markDeleted service timestamp lister).any p) : Except String Bool) =
      (do .ok ((← lister.map (otherServices service)).any p)) := by
  cases lister with
  | error err => rfl
  | ok services =>
    simp only [markDeleted, otherServices, Except.map, bind, Except.bind, any_map,
      any_filter]
    congr 2
    funext other
    by_cases hsame : other.ns = service.ns ∧ other.name = service.name
    · simpa [hsame] using hp { other with ns := service.ns, name := service.name }
    · simp [hsame]

theorem portInUse_markDeleted :
    portInUse (markDeleted service timestamp lister) port =
      portInUse (lister.map (otherServices service)) port :=
  any_markDeleted fun _ => rfl

theorem healthCheckPortInUse_markDeleted :
    healthCheckPortInUse (markDeleted service timestamp lister) port =
      healthCheckPortInUse (lister.map (otherServices service)) port :=
  any_markDeleted fun _ => if_pos (.inl rfl)

theorem unused_markDeleted (h : Unused (lister.map (otherServices service)) ports) :
    Unused (markDeleted service timestamp lister) ports where
  listener := by rw [portInUse_markDeleted]; exact h.listener
  backend := by rw [healthCheckPortInUse_markDeleted]; exact h.backend
  healthChecker := by rw [healthCheckPortInUse_markDeleted]; exact h.healthChecker

theorem NewPorts.exists_ok (h : NewPorts s service sc store) :
    ∃ store₁ store₂, s.defaultUpdate sc store = .ok store₁ ∧
      (s.afterDeletion service timestamp).defaultDelete sc store₁ = .ok store₂ := by
  obtain ⟨store₁, hupdate⟩ : ∃ store₁, s.defaultUpdate sc store = .ok store₁ :=
    exists_two_loops h.updateError h.inCharge
  obtain ⟨store₂, hdelete⟩ : ∃ store₂,
      (s.afterDeletion service timestamp).defaultDelete sc store₁ = .ok store₂ := by
    refine exists_two_loops h.updateError fun subnet hsubnet => ?_
    -- the list in charge does not depend on the services
    change (s.listInCharge store₁ subnet).isSome
    rw [listInCharge_congr
      (two_loops_ok hupdate).1]
    exact h.inCharge subnet hsubnet
  exact ⟨store₁, store₂, hupdate, hdelete⟩

/-- After both calls every list has gone through the passes of both. -/
theorem lookup_undone (hupdate : s.defaultUpdate sc store = .ok store₁)
    (hdelete : (s.afterDeletion service timestamp).defaultDelete sc store₁ = .ok store₂)
    (id : String) :
    store₂.lookup id = (store.lookup id).map (undone s (s.afterDeletion service timestamp) sc
      (s.subnetsInCharge store sc.lbSubnets id)
      (s.subnetsInCharge store sc.backendSubnets id)) := by
  obtain ⟨hsame, hlookup₁⟩ := two_loops_ok hupdate
  obtain ⟨-, hlookup₂⟩ := two_loops_ok hdelete
  have hcharge : ∀ subnets, (s.afterDeletion service timestamp).subnetsInCharge store₁ subnets id =
      s.subnetsInCharge store subnets id :=
    fun subnets => subnetsInCharge_congr hsame subnets id
  rw [hlookup₂, hlookup₁, hcharge, hcharge, Option.map_map]
  rfl

end TwoCalls

/-- A deletion undoes an update of a service with new ports. -/
theorem deleteUndoesUpdate (s : BaseSecurityListManager) (service : Service) (timestamp : String)
    (sc : SecurityRuleComponents) (store : Store) (hnew : NewPorts s service sc store)
    (hold : NoOldRules sc store) : DeleteUndoesUpdate s service timestamp sc store := by
  obtain ⟨store₁, store₂, hupdate, hdelete⟩ := @NewPorts.exists_ok s service timestamp sc store hnew
  refine ⟨store₁, store₂, hupdate, hdelete, fun id => ?_⟩
  rw [lookup_undone hupdate hdelete]
  cases hstored : store.lookup id with
  | none => rfl
  | some secList =>
    have hentry := GoMap.mem_toPairs.mpr hstored
    exact congrArg some (undone_eq_self hnew.listenerPort (unused_markDeleted hnew.unused)
      (hnew.clean _ hentry) (hold _ hentry))

/-- A service on port 80 with node port 30080. -/
def newService : Service where
  name := "web"
  ports := [⟨.tcp, 80, 30080⟩]

def newServiceManager : BaseSecurityListManager where
  serviceLister := .ok [newService]

/-- The load balancer of the service is created, with one list for all subnets. -/
def newServiceRules : SecurityRuleComponents where
  sourceCIDRs := ["0.0.0.0/0"]
  isPreserveSource := false
  lbSubnets := [{ id := "lb", cidrBlock := some "10.0.20.0/24", securityListIds := ["shared"] }]
  backendSubnets :=
    [{ id := "nodes", cidrBlock := some "10.0.10.0/24", securityListIds := ["shared"] }]
  actualPorts := none
  desiredPorts := ⟨80, 30080, 10256⟩
  ipFamilies := [.ipv4]

/-- A list with one rule for ingress and egress. -/
def sharedList (port : Nat) : Store :=
  .ofPairs [("shared", {
    ingressSecurityRules := [makeIngressSecurityRule "10.1.0.0/16" port]
    egressSecurityRules := [makeEgressSecurityRule "10.1.0.0/16" port]
    timeCreated := 0 })]

theorem deleteUndoesUpdate_sharedList :
    NoOldRules newServiceRules (sharedList 22) ∧
      DeleteUndoesUpdate newServiceManager newService "now" newServiceRules (sharedList 22) := by
  refine ⟨by decide, deleteUndoesUpdate newServiceManager newService "now" newServiceRules
    (sharedList 22) ?_ (by decide)⟩
  exact ⟨fun _ => rfl, by decide, by decide, ⟨by decide, by decide, by decide⟩, by decide⟩

end OciCcm.SecurityLists
