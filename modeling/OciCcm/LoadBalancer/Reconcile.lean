import OciCcm.LoadBalancer.Dangling
import OciCcm.LoadBalancer.RuleCalls
import OciCcm.SecurityLists.Coverage

/-! # The security lists after an update of a load balancer

Every change of a backend set or a listener comes with a change of the rules of
its ports. Rules are told apart by port and address block only, so the clean-up
that comes with one of them can remove the rules that another backend set of the
service needs. This file says exactly when the rules that a specification needs
are there in the end. The condition is one on the two specifications and the
lists at the start; the order of the changes is that of their names.
-/

namespace OciCcm.LoadBalancer

open Go Kubernetes SecurityLists List

variable {RuleSet : Type}

/-! ## The rules after a run of calls -/

/-- The backend port is not the health check port, unless there is none. -/
def Apart (ports : PortSpec) : Prop :=
  ports.backendPort = ports.healthCheckerPort → ports.backendPort = 0

section Run

variable {s : BaseSecurityListManager} {subnets : Subnets} {store store' : Store}

theorem perform_eq_applyChange (call : RulesCall) :
    call.perform s .all store = s.applyChange call.components.lbSubnets
      call.components.backendSubnets call.change store := by
  cases call <;> rfl

/-- Whether a list has a rule after a run of calls is the state of a latch after the events of
the calls. -/
theorem covers_performAll {calls : List RulesCall} {subnet : SubnetWithLists} {slot : Slot}
    (h : RulesCall.performAll s .all calls store = .ok store')
    (hsubnets : ∀ call ∈ calls, call.components.lbSubnets = subnets.lbSubnets ∧
      call.components.backendSubnets = subnets.nodeSubnets)
    (hseparate : s.SeparateLists store subnets.lbSubnets subnets.nodeSubnets)
    (hsubnet : subnet ∈ BaseSecurityListManager.subnetsOf slot.kind subnets.lbSubnets
      subnets.nodeSubnets)
    (hports : ∀ call ∈ calls, Apart call.change.desiredPorts) :
    s.Covers store' subnet slot ↔ Latch.run (calls.map (·.change.event s.serviceLister slot))
      (s.Covers store subnet slot) := by
  induction calls generalizing store with
  | nil =>
    obtain rfl : store = store' := Except.ok.inj h
    exact Iff.rfl
  | cons call calls ih =>
    obtain ⟨⟨hlb, hnode⟩, hsubnets⟩ := forall_mem_cons.mp hsubnets
    obtain ⟨hfirstPorts, hports⟩ := forall_mem_cons.mp hports
    obtain ⟨store₁, hfirst, h⟩ := foldlM_cons_ok h
    rw [perform_eq_applyChange, hlb, hnode] at hfirst
    have hsame : SameLists store store₁ := (BaseSecurityListManager.two_loops_ok hfirst).1
    rw [map_cons, Latch.run_cons, ih h hsubnets (hseparate.congr hsame) hports]
    exact Latch.run_congr
      (BaseSecurityListManager.covers_applyChange hfirst hseparate hsubnet hfirstPorts)

end Run

/-! ## The rules that a specification needs -/

/-- The families of the addresses that the rules are for. -/
def usedFamilies (spec : LBSpec RuleSet) : List IpVersion :=
  convertOciIpVersionsToOciIpFamilies spec.ipVersions.listenerBackendIpVersion

/-- The rules for every port: ingress to the listener from the sources, egress to the nodes
and ingress from the load balancer on the backend port and the health check port. -/
def requiredSlots (subnets : Subnets) (spec : LBSpec RuleSet) : List Slot :=
  spec.ports.toPairs.flatMap fun (_, ports) =>
    spec.sourceCIDRs.map (⟨.lbIngress, ports.listenerPort, ·⟩) ++
    [ports.backendPort, ports.healthCheckerPort].flatMap fun port =>
      (sortedList (subnetsCidrs (usedFamilies spec) subnets.nodeSubnets)).map (⟨.lbEgress, port, ·⟩) ++
      (sortedList (subnetsCidrs (usedFamilies spec) subnets.lbSubnets)).map (⟨.nodeIngress, port, ·⟩)

/-- Each list that a rule belongs to satisfies the property. -/
def ForRequired (subnets : Subnets) (spec : LBSpec RuleSet)
    (P : SubnetWithLists → Slot → Prop) : Prop :=
  ∀ slot ∈ requiredSlots subnets spec, ∀ subnet ∈ BaseSecurityListManager.subnetsOf slot.kind
    subnets.lbSubnets subnets.nodeSubnets, P subnet slot

instance (subnets : Subnets) (spec : LBSpec RuleSet) (P : SubnetWithLists → Slot → Prop)
    [∀ subnet slot, Decidable (P subnet slot)] : Decidable (ForRequired subnets spec P) :=
  inferInstanceAs (Decidable (∀ slot ∈ _, ∀ subnet ∈ _, _))

abbrev RulesPresent (s : BaseSecurityListManager) (subnets : Subnets) (spec : LBSpec RuleSet)
    (store : Store) : Prop :=
  ForRequired subnets spec (s.Covers store)

/-- The rule is one for the ports. -/
def NeededFor (subnets : Subnets) (spec : LBSpec RuleSet) (ports : PortSpec) (slot : Slot) : Prop :=
  (slot.kind = .lbIngress ∧ slot.port = ports.listenerPort ∧ slot.cidr ∈ spec.sourceCIDRs) ∨
    ((slot.port = ports.backendPort ∨ slot.port = ports.healthCheckerPort) ∧
      ((slot.kind = .lbEgress ∧ slot.cidr ∈ subnetsCidrs (usedFamilies spec) subnets.nodeSubnets) ∨
        (slot.kind = .nodeIngress ∧
          slot.cidr ∈ subnetsCidrs (usedFamilies spec) subnets.lbSubnets)))

theorem mem_requiredSlots {subnets : Subnets} {spec : LBSpec RuleSet} {slot : Slot} :
    slot ∈ requiredSlots subnets spec ↔ ∃ name ports, spec.ports.lookup name = some ports ∧
      NeededFor subnets spec ports slot := by
  obtain ⟨kind, port, cidr⟩ := slot
  simp only [requiredSlots, NeededFor, mem_flatMap, Prod.exists, GoMap.mem_toPairs, mem_append,
    mem_map, mem_sortedList, Slot.mk.injEq, mem_cons, not_mem_nil, or_false]
  refine exists_congr fun name => exists_congr fun ports => and_congr_right fun _ => or_congr ?_ ?_
  · constructor
    · rintro ⟨c, hc, rfl, rfl, rfl⟩
      exact ⟨rfl, rfl, hc⟩
    · rintro ⟨rfl, rfl, hc⟩
      exact ⟨_, hc, rfl, rfl, rfl⟩
  · constructor
    · rintro ⟨p, hp, ⟨c, hc, rfl, rfl, rfl⟩ | ⟨c, hc, rfl, rfl, rfl⟩⟩
      · exact ⟨hp, .inl ⟨rfl, hc⟩⟩
      · exact ⟨hp, .inr ⟨rfl, hc⟩⟩
    · rintro ⟨hp, ⟨rfl, hc⟩ | ⟨rfl, hc⟩⟩
      · exact ⟨_, hp, .inl ⟨_, hc, rfl, rfl, rfl⟩⟩
      · exact ⟨_, hp, .inr ⟨_, hc, rfl, rfl, rfl⟩⟩

/-! ## The changes between two specifications -/

/-- Where a change comes in an update: deletions first, then by name. Of one name, a listener that
was there comes before the backend set, and a new one after it. -/
def place (kept : Bool) (name : String) (rank : Nat) : Bool ×ₗ (String ×ₗ Nat) :=
  toLex (kept, toLex (getSanitizedName name, rank))

/-- The calls that come with the backend sets and listeners in which two specifications differ, and
their places. -/
inductive RuleChange (subnets : Subnets) (s₀ s₁ : LBSpec RuleSet) :
    Bool ×ₗ (String ×ₗ Nat) → RulesCall → Prop where
  | deleteBackendSet {name : String} {bs : BackendSetDetails}
      (hbs : s₀.backendSets.lookup name = some bs) (hno : name ∉ s₁.backendSets) :
      RuleChange subnets s₀ s₁ (place false name 1)
        (.delete (securityRuleComponents subnets s₁ [] none (portsFromBackendSet bs)))
  | updateBackendSet {name : String} {bs bs' : BackendSetDetails}
      (hbs : s₀.backendSets.lookup name = some bs) (hbs' : s₁.backendSets.lookup name = some bs')
      (hchanged : hasBackendSetChanged bs bs') :
      RuleChange subnets s₀ s₁ (place true name 1)
        (.update (securityRuleComponents subnets s₁ s₁.sourceCIDRs (some (portsFromBackendSet bs))
          (portsFromBackendSet bs')))
  | createBackendSet {name : String} {bs : BackendSetDetails} (hno : name ∉ s₀.backendSets)
      (hbs : s₁.backendSets.lookup name = some bs) :
      RuleChange subnets s₀ s₁ (place true name 1)
        (.update (securityRuleComponents subnets s₁ [] none (portsFromBackendSet bs)))
  | deleteListener {name : String} {l : Listener} (hl : s₀.listeners.lookup name = some l)
      (hno : ∀ name' ∈ s₁.listeners, getSanitizedName name' ≠ getSanitizedName name) :
      RuleChange subnets s₀ s₁ (place false name 0)
        (.delete (securityRuleComponents subnets s₁ s₁.sourceCIDRs none
          { ((s₀.backendSets.lookup l.defaultBackendSetName).map portsFromBackendSet).getD {} with
            listenerPort := l.port }))
  | updateListener {name name' : String} {l l' : Listener}
      (hl : s₀.listeners.lookup name = some l) (hl' : s₁.listeners.lookup name' = some l')
      (hname : getSanitizedName name' = getSanitizedName name)
      (hchanged : hasListenerChanged l l' s₁.ruleSets) :
      RuleChange subnets s₀ s₁ (place true name 0)
        (.update (securityRuleComponents subnets s₁ s₁.sourceCIDRs none
          { (s₁.ports.lookup l'.defaultBackendSetName).getD {} with listenerPort := l'.port }))
  | createListener {name : String} {l : Listener}
      (hno : ∀ name' ∈ s₀.listeners, getSanitizedName name' ≠ getSanitizedName name)
      (hl : s₁.listeners.lookup name = some l) :
      RuleChange subnets s₀ s₁ (place true name 2)
        (.update (securityRuleComponents subnets s₁ s₁.sourceCIDRs none
          { (s₁.ports.lookup l.defaultBackendSetName).getD {} with listenerPort := l.port }))

/-- If the specifications differ: for every required rule, some call makes it and those that remove
it have smaller places; or none removes it, and it was there at the start. -/
def CleanupsRepaired (s : BaseSecurityListManager) (subnets : Subnets) (s₀ s₁ : LBSpec RuleSet)
    (store : Store) : Prop :=
  (∃ k c, RuleChange subnets s₀ s₁ k c) → ForRequired subnets s₁ fun subnet slot =>
    let event (c : RulesCall) := c.change.event s.serviceLister slot
    (∃ k c, RuleChange subnets s₀ s₁ k c ∧ event c = .set ∧
      ∀ k' c', RuleChange subnets s₀ s₁ k' c' → event c' = .reset → k' < k) ∨
    (s.Covers store subnet slot ∧ ∀ k c, RuleChange subnets s₀ s₁ k c → event c ≠ .reset)

/-- The ports of backends and health checks are set, and a port has one use only. -/
abbrev PortsApart (spec : LBSpec RuleSet) : Prop :=
  ∀ e ∈ spec.ports.toPairs, e.2.listenerPort ≠ 0 ∧ e.2.backendPort ≠ 0 ∧
    e.2.healthCheckerPort ≠ 0 ∧ e.2.backendPort ≠ e.2.healthCheckerPort

/-- The calls of an update with their places, in their order. -/
def placedCalls (o : ChangeOrders) (subnets : Subnets) (s₀ s₁ : LBSpec RuleSet) :
    List ((Bool ×ₗ (String ×ₗ Nat)) × RulesCall) :=
  (mainActions o s₀ s₁).filterMap fun a => (actionCall subnets s₁ (.ofSpec s₀) a).map (a.key, ·)

section Changes

variable {o : ChangeOrders} {s₀ s₁ spec : LBSpec RuleSet} {subnets : Subnets}
  {k : Bool ×ₗ (String ×ₗ Nat)} {c : RulesCall}

theorem mem_placedCalls : (k, c) ∈ placedCalls o subnets s₀ s₁ ↔
    ∃ a ∈ mainActions o s₀ s₁, actionCall subnets s₁ (.ofSpec s₀) a = some c ∧ a.key = k := by
  simp [placedCalls]

theorem ruleChange_iff (h₀ : WellNamed s₀) (h₁ : WellNamed s₁) :
    RuleChange subnets s₀ s₁ k c ↔ (k, c) ∈ placedCalls o subnets s₀ s₁ := by
  rw [mem_placedCalls]
  constructor
  · intro h
    cases h with
    | @deleteBackendSet name bs hbs hno =>
      obtain rfl : bs.name = name := h₀.backendSet_name hbs
      exact ⟨.backendSet (.ofDelete bs), backendSet_mem_mainActions.mpr
        (mem_getBackendSetChanges.mpr (.inl ⟨_, bs, hbs, hno, rfl⟩)), rfl, rfl⟩
    | @updateBackendSet name bs bs' hbs hbs' hchanged =>
      exact ⟨.backendSet (.ofUpdate name bs bs'), backendSet_mem_mainActions.mpr
        (mem_getBackendSetChanges.mpr (.inr (.inl ⟨_, bs, bs', hbs, hbs', hchanged, rfl⟩))),
        rfl, rfl⟩
    | @createBackendSet name bs hno hbs =>
      exact ⟨.backendSet (.ofCreate name bs), backendSet_mem_mainActions.mpr
        (mem_getBackendSetChanges.mpr (.inr (.inr ⟨_, bs, hno, hbs, rfl⟩))), rfl, rfl⟩
    | @deleteListener name l hl hno =>
      exact ⟨.listener (.ofDelete name l), listener_mem_mainActions.mpr
        ((mem_getListenerChanges h₁.sanitized_inj).mpr (.inl ⟨_, l, hl, hno, rfl⟩)), rfl, rfl⟩
    | @updateListener name name' l l' hl hl' hname hchanged =>
      exact ⟨.listener (.ofUpdate name l'), listener_mem_mainActions.mpr
        ((mem_getListenerChanges h₁.sanitized_inj).mpr
          (.inr (.inl ⟨_, name', l, l', hl, hl', hname, hchanged, rfl⟩))), rfl, rfl⟩
    | @createListener name l hno hl =>
      exact ⟨.listener (.ofCreate name l), listener_mem_mainActions.mpr
        ((mem_getListenerChanges h₁.sanitized_inj).mpr (.inr (.inr ⟨_, l, hno, hl, rfl⟩))),
        rfl, rfl⟩
  · rintro ⟨a, ha, hc, rfl⟩
    cases a with
    | backendSet b =>
      rcases mem_getBackendSetChanges.mp (backendSet_mem_mainActions.mp ha) with
        ⟨name, bs, hbs, hno, rfl⟩ | ⟨name, bs, bs', hbs, hbs', hchanged, rfl⟩ |
        ⟨name, bs, hno, hbs, rfl⟩
      · obtain rfl : bs.name = name := h₀.backendSet_name hbs
        cases hc
        exact .deleteBackendSet hbs hno
      · cases hc
        exact .updateBackendSet hbs hbs' hchanged
      · cases hc
        exact .createBackendSet hno hbs
    | listener a =>
      rcases (mem_getListenerChanges h₁.sanitized_inj).mp (listener_mem_mainActions.mp ha) with
        ⟨name, l, hl, hno, rfl⟩ | ⟨name, name', l, l', hl, hl', hname, hchanged, rfl⟩ |
        ⟨name, l, hno, hl, rfl⟩
      · cases hc
        have hchange := @RuleChange.deleteListener _ subnets _ _ _ _ hl hno
        exact hchange
      · cases hc
        exact .updateListener hl hl' hname hchanged
      · cases hc
        exact .createListener hno hl
    | ruleSet a => exact absurd ha (ruleSet_notMem_mainActions a)

/-- No two actions have the same place. -/
theorem key_inj (h₀ : WellNamed s₀) (h₁ : WellNamed s₁) {a b : Action RuleSet}
    (ha : a ∈ mainActions o s₀ s₁) (hb : b ∈ mainActions o s₀ s₁) (hkey : a.key = b.key) :
    a = b := by
  have hname : a.nameKey = b.nameKey := congrArg (fun k => (ofLex k).2) hkey
  obtain ⟨hname, hrank⟩ := Prod.mk.inj (toLex.injective hname)
  have hranks : ∀ {l : ListenerAction}, Action.rank (.listener l : Action RuleSet) ≠ 1 := by
    intro l
    simp only [Action.rank]
    split <;> decide
  cases a with
  | backendSet a =>
    cases b with
    | backendSet b =>
      rw [backendSet_unique h₀ ha hb]
      rwa [← sanitized_of_mem_backendSetChanges h₀ h₁ (backendSet_mem_mainActions.mp ha),
        ← sanitized_of_mem_backendSetChanges h₀ h₁ (backendSet_mem_mainActions.mp hb)]
    | listener b => exact absurd hrank.symm hranks
    | ruleSet b => exact absurd hb (ruleSet_notMem_mainActions b)
  | listener a =>
    cases b with
    | backendSet b => exact absurd hrank hranks
    | listener b => rw [listener_unique h₀ h₁ ha hb hname]
    | ruleSet b => exact absurd hb (ruleSet_notMem_mainActions b)
  | ruleSet a => exact absurd ha (ruleSet_notMem_mainActions a)

/-- The latch of a rule after the calls of an update, on the specifications. -/
theorem run_placedCalls_iff (h₀ : WellNamed s₀) (h₁ : WellNamed s₁)
    (event : RulesCall → Latch.Event) {start : Prop} :
    Latch.run ((placedCalls o subnets s₀ s₁).map fun p => event p.2) start ↔
      (∃ k c, RuleChange subnets s₀ s₁ k c ∧ event c = .set ∧
        ∀ k' c', RuleChange subnets s₀ s₁ k' c' → event c' = .reset → k' < k) ∨
      (start ∧ ∀ k c, RuleChange subnets s₀ s₁ k c → event c ≠ .reset) := by
  simp only [ruleChange_iff (o := o) h₀ h₁]
  rw [Latch.run_map_iff (f := Prod.fst)]
  · simp only [Prod.exists, Prod.forall]
  · refine (mainActions_sorted h₀ h₁).filterMap _ fun a b hab p hp q hq => ?_
    obtain ⟨_, -, rfl⟩ := Option.map_eq_some_iff.mp hp
    obtain ⟨_, -, rfl⟩ := Option.map_eq_some_iff.mp hq
    exact hab
  · -- one event is not two
    rintro ⟨k, c⟩ hp ⟨k', c'⟩ hq hset hreset rfl
    obtain ⟨a, ha, hc, rfl⟩ := mem_placedCalls.mp hp
    obtain ⟨b, hb, hc', hkey⟩ := mem_placedCalls.mp hq
    rw [key_inj h₀ h₁ hb ha hkey, hc] at hc'
    rw [← Option.some.inj hc', hset] at hreset
    cases hreset

theorem placedCalls_eq_nil :
    placedCalls o subnets s₀ s₁ = [] ↔
      getBackendSetChanges o.backendSets s₀.backendSets s₁.backendSets = [] ∧
        getListenerChanges o.listeners s₀.listeners s₁.listeners s₁.ruleSets = [] := by
  have hmain : placedCalls o subnets s₀ s₁ = [] ↔ mainActions o s₀ s₁ = [] := by
    rw [placedCalls, filterMap_eq_nil_iff]
    refine ⟨fun h => eq_nil_iff_forall_not_mem.mpr fun a ha => ?_, fun h => by simp [h]⟩
    have hnone := Option.map_eq_none_iff.mp (h a ha)
    cases a with
    | backendSet b =>
      obtain ⟨type, name, backendSet, ports, oldPorts⟩ := b
      cases type <;> cases hnone
    | listener a => cases hnone
    | ruleSet a => exact ruleSet_notMem_mainActions a ha
  rw [hmain, ← length_eq_zero_iff, mainActions, sortedActions, (sliceStable_perm _ _).length_eq,
    (sliceStable_perm _ _).length_eq]
  simp

/-- The calls of an update are those for its backend sets and listeners. Without any, the rules of
all ports are written anew. -/
theorem rulesCalls_eq [DecidableEq RuleSet] {portsOrder : RangeOrder.{0}} :
    rulesCalls o portsOrder subnets s₁ (.ofSpec s₀) =
      (if placedCalls o subnets s₀ s₁ = [] then (portsOrder.range 0 s₁.ports).map fun entry =>
        .update (securityRuleComponents subnets s₁ s₁.sourceCIDRs none entry.2) else []) ++
      (placedCalls o subnets s₀ s₁).map Prod.snd := by
  have hrules : ∀ {l : List (RuleSetAction RuleSet)} {p : Action RuleSet → Bool},
      ((l.map Action.ruleSet).filter p).filterMap (actionCall subnets s₁ (.ofSpec s₀)) = [] := by
    intro l p
    rw [filterMap_eq_nil_iff]
    intro a ha
    obtain ⟨r, -, rfl⟩ := mem_map.mp (mem_of_mem_filter ha)
    rfl
  rw [rulesCalls, updateActions, sortAndCombineActions_eq, filterMap_append,
    filterMap_append, filterMap_reverse, hrules, hrules, reverse_nil,
    nil_append, append_nil]
  refine congrArg₂ _ (if_congr placedCalls_eq_nil.symm rfl rfl) ?_
  simp only [placedCalls, map_filterMap, Option.map_map, Function.comp_def, Option.map_id']
  rfl

/-! ## The rules in the end -/

/-- The specification is one that `newLBSpec` builds. -/
def IsBuilt (spec : LBSpec RuleSet) : Prop :=
  ∃ lib o o' svc nodes subnets sslConfig versions,
    newLBSpec lib o o' svc nodes subnets sslConfig versions = .ok spec

variable {lister : ServiceLister}

theorem IsBuilt.wellNamed (h : IsBuilt spec) : WellNamed spec := by
  obtain ⟨lib, o, o', svc, nodes, subnets, sslConfig, versions, h⟩ := h
  exact wellNamed_of_newLBSpec h

/-- The ports that a backend set shows are apart if those of the specification are. -/
theorem portsFromBackendSet_apart (h : IsBuilt spec) (hapart : PortsApart spec) {name : String}
    {bs : BackendSetDetails} (hbs : spec.backendSets.lookup name = some bs) :
    Apart (portsFromBackendSet bs) := by
  obtain ⟨lib, o, o', svc, nodes, subnets, sslConfig, versions, h⟩ := h
  have hbuilt := newLBSpec_ok h
  obtain ⟨policy, ssl, hc, q, v, -, hhc, hq, hv, rfl⟩ :=
    eq_of_lookup_getBackendSets hbuilt.backendSets hbs
  have hports := (lookup_getPorts hbuilt.ports).mpr
    ⟨q, hc, hq, Option.isSome_iff_exists.mpr ⟨v, hv⟩, hhc, rfl⟩
  have hne := (hapart _ (GoMap.mem_toPairs.mpr hports)).2.2.2
  intro heq
  unfold portsFromBackendSet at heq ⊢
  dsimp only at heq ⊢
  cases hhead : List.head? (if v = .ipv6 then (getBackends lib nodes q.nodePort).2
    else (getBackends lib nodes q.nodePort).1) with
  | none => rfl
  | some b =>
    rw [hhead] at heq
    have hport : b.port = q.nodePort := (of_mem_getBackends (mem_of_head? hhead)).1
    exact absurd (hport.symm.trans heq) hne

theorem RuleChange.apart (h₀ : IsBuilt s₀) (h₁ : IsBuilt s₁) (hapart₀ : PortsApart s₀)
    (hapart₁ : PortsApart s₁) (h : RuleChange subnets s₀ s₁ k c) : Apart c.change.desiredPorts := by
  -- a listener has the ports that its backend set has in the specification
  have hlistener : ∀ name, Apart ((s₁.ports.lookup name).getD {}) := by
    intro name
    cases hports : s₁.ports.lookup name with
    | none => exact fun _ => rfl
    | some ports =>
      exact fun heq => absurd heq (hapart₁ _ (GoMap.mem_toPairs.mpr hports)).2.2.2
  cases h with
  | deleteBackendSet hbs hno => exact portsFromBackendSet_apart h₀ hapart₀ hbs
  | updateBackendSet hbs hbs' hchanged => exact portsFromBackendSet_apart h₁ hapart₁ hbs'
  | createBackendSet hno hbs => exact portsFromBackendSet_apart h₁ hapart₁ hbs
  | @deleteListener name l hl hno =>
    have hdeleted : Apart
        (((s₀.backendSets.lookup l.defaultBackendSetName).map portsFromBackendSet).getD {}) := by
      cases hbs : s₀.backendSets.lookup l.defaultBackendSetName with
      | none => exact fun _ => rfl
      | some bs => exact portsFromBackendSet_apart h₀ hapart₀ hbs
    exact hdeleted
  | @updateListener name name' l l' hl hl' hname hchanged =>
    exact hlistener l'.defaultBackendSetName
  | @createListener name l hno hl => exact hlistener l.defaultBackendSetName

/-- Writing the rules of a port anew makes the rules that the port needs and leaves those that
another one needs. -/
theorem event_rewritten (hapart : PortsApart spec) {name name' : String} {ports ports' : PortSpec}
    (hports : spec.ports.lookup name = some ports) (hports' : spec.ports.lookup name' = some ports')
    {slot : Slot} (hneeded : NeededFor subnets spec ports' slot) :
    let event := (securityRuleComponents subnets spec spec.sourceCIDRs none ports).event lister slot
    event ≠ .reset ∧ (NeededFor subnets spec ports slot → event = .set) := by
  intro event
  obtain ⟨hlistener, -⟩ := hapart _ (GoMap.mem_toPairs.mpr hports)
  obtain ⟨-, hbackend', hhealth', -⟩ := hapart _ (GoMap.mem_toPairs.mpr hports')
  obtain ⟨kind, port, cidr⟩ := slot
  rcases hneeded with ⟨rfl, hport, hc⟩ | ⟨hport, hkind⟩
  · have hevent : event = if port = ports.listenerPort then .set else .hold := by
      simp [event, SecurityRuleComponents.event, securityRuleComponents, hlistener,
        lbIngressEvent, show cidr ∈ spec.sourceCIDRs from hc]
    rw [hevent]
    constructor
    · split <;> simp
    · rintro (⟨-, hport, -⟩ | ⟨-, ⟨hkind, -⟩ | ⟨hkind, -⟩⟩)
      · exact if_pos hport
      · cases hkind
      · cases hkind
  have hzero : port ≠ 0 := by
    rcases hport with rfl | rfl
    · exact hbackend'
    · exact hhealth'
  have hevent : event = if port = ports.backendPort ∨ port = ports.healthCheckerPort then .set
      else .hold := by
    rcases hkind with ⟨rfl, hc⟩ | ⟨rfl, hc⟩
    · have hone : ∀ desiredPort, lbEgressEvent lister
          (subnetsCidrs (usedFamilies spec) subnets.nodeSubnets) 0 desiredPort port cidr =
          if port = desiredPort then .set else .hold := by
        intro desiredPort
        simp [lbEgressEvent, show cidr ∈ _ from hc, hzero]
      refine (congrArg₂ Latch.Event.andThen (hone ports.backendPort)
        (hone ports.healthCheckerPort)).trans ?_
      by_cases hh : port = ports.healthCheckerPort
      · simp only [hh, or_true, if_true]
        rfl
      · rw [if_neg hh]
        simp only [hh, or_false]
        rfl
    · have hwanted : cidr ∈ wantedOn (securityRuleComponents subnets spec spec.sourceCIDRs none
          ports) port ↔ port = ports.backendPort ∨ port = ports.healthCheckerPort := by
        refine ⟨fun h => ?_, ?_⟩
        · by_contra hno
          rw [not_or] at hno
          simp [wantedOn, securityRuleComponents, hno.1, hno.2] at h
        · rintro (h | h)
          · exact mem_wantedOn.mpr ⟨.inl _,
              Finset.inl_mem_disjSum.mpr (subnetsCidrs_subset_backendCidrs hc), rfl, h⟩
          · exact mem_wantedOn.mpr ⟨.inr _, Finset.inr_mem_disjSum.mpr hc, rfl, h⟩
      change nodeIngressEvent (securityRuleComponents ..) lister port cidr = _
      simp only [nodeIngressEvent, hwanted, if_pos hzero]
      split
      · rfl
      · next hno =>
          rw [not_or] at hno
          rw [if_neg]
          simp [DropsRules, GivesUpPort, securityRuleComponents, hno.1, hno.2, hzero]
  rw [hevent]
  constructor
  · split <;> simp
  · rintro (⟨rfl, -⟩ | ⟨hport, -⟩)
    · rcases hkind with ⟨hkind, -⟩ | ⟨hkind, -⟩ <;> cases hkind
    · exact if_pos hport

/-- After an update in the mode of all rules, the required rules are there exactly if no clean-up
comes last. -/
theorem rulesPresent_iff_cleanupsRepaired [DecidableEq RuleSet]
    (clb : CloudLoadBalancerProvider RuleSet) (o : ChangeOrders) (portsOrder : RangeOrder.{0})
    {store : Store} {st' : CloudState RuleSet} (h₀ : IsBuilt s₀) (h₁ : IsBuilt s₁)
    (hapart₀ : PortsApart s₀) (hapart₁ : PortsApart s₁) (hmode : s₁.securityListManager = .all)
    (hseparate : clb.securityListManager.SeparateLists store subnets.lbSubnets
      subnets.nodeSubnets)
    (h : clb.updateLoadBalancer s₁ o portsOrder (.ok subnets.lbSubnets) (.ok subnets.nodeSubnets)
      ⟨.ofSpec s₀, store⟩ = .ok st') :
    RulesPresent clb.securityListManager subnets s₁ st'.securityLists ↔
      CleanupsRepaired clb.securityListManager subnets s₀ s₁ store := by
  have hchange : ∀ {k c}, RuleChange subnets s₀ s₁ k c ↔ (k, c) ∈ placedCalls o subnets s₀ s₁ :=
    ruleChange_iff h₀.wellNamed h₁.wellNamed
  have hrun := (h ▸ traces_updateLoadBalancer o portsOrder).of_ok
  have hsubnets := fun call => @subnets_of_mem_rulesCalls _ _ o portsOrder subnets s₁ (.ofSpec s₀) call
  simp only [hmode, rulesCalls_eq] at hrun hsubnets
  by_cases hnone : placedCalls o subnets s₀ s₁ = []
  · rw [if_pos hnone, hnone, map_nil, append_nil] at hrun hsubnets
    refine iff_of_true (fun slot hslot subnet hsubnet => ?_) ?_
    · obtain ⟨name, ports, hports, hneeded⟩ := mem_requiredSlots.mp hslot
      have hno : ∀ e ∈ portsOrder.range 0 s₁.ports,
          (securityRuleComponents subnets s₁ s₁.sourceCIDRs none e.2).event
            clb.securityListManager.serviceLister slot ≠ .reset := fun e he =>
        (event_rewritten hapart₁ (RangeOrder.mem_range.mp he) hports hneeded).1
      refine (covers_performAll hrun hsubnets hseparate hsubnet ?_).mpr ?_
      · intro call hcall heq
        obtain ⟨e, he, rfl⟩ := mem_map.mp hcall
        exact absurd heq (hapart₁ e ((portsOrder.perm 0 _).mem_iff.mp he)).2.2.2
      · rw [map_map]
        refine (Latch.run_map_iff (f := fun _ => 0) (pairwise_of_forall fun _ _ => le_rfl)
          fun _ _ e he _ hreset => absurd hreset (hno e he)).mpr (.inl ⟨(name, ports), ?_⟩)
        exact ⟨RangeOrder.mem_range.mpr hports,
          (event_rewritten hapart₁ hports hports hneeded).2 hneeded,
          fun e he hreset => absurd hreset (hno e he)⟩
    · rintro ⟨k, c, hc⟩
      rw [hchange, hnone] at hc
      cases hc
  · rw [if_neg hnone, nil_append] at hrun hsubnets
    obtain ⟨p, hp⟩ := exists_mem_of_ne_nil _ hnone
    refine Iff.trans ?_ (forall_prop_of_true ⟨p.1, p.2, hchange.mpr hp⟩).symm
    refine forall₂_congr fun slot _ => forall₂_congr fun subnet hsubnet => ?_
    rw [covers_performAll hrun hsubnets hseparate hsubnet, map_map]
    · exact run_placedCalls_iff h₀.wellNamed h₁.wellNamed (·.change.event _ slot)
    · intro call hcall
      obtain ⟨q, hq, rfl⟩ := mem_map.mp hcall
      exact (hchange.mpr hq).apart h₀ h₁ hapart₀ hapart₁

end Changes

/-- One node behind the load balancer. -/
def webNode : Node where
  name := "node"
  providerID := "ocid1.instance.oc1..a"
  addresses := [⟨.internalIP, "10.0.10.5"⟩]

def webSubnets : Subnets where
  lbSubnets := [{ id := "lb", cidrBlock := some "10.0.20.0/24", securityListIds := ["lb-list"] }]
  nodeSubnets :=
    [{ id := "nodes", cidrBlock := some "10.0.10.0/24", securityListIds := ["node-list"] }]

/-- The lists with the rules for the given listener ports and node ports. -/
def webLists (listenerPorts nodePorts : List Nat) : Store :=
  .ofPairs [
    ("lb-list", {
      ingressSecurityRules := listenerPorts.map (makeIngressSecurityRule "0.0.0.0/0")
      egressSecurityRules := nodePorts.map (makeEgressSecurityRule "10.0.10.0/24")
      timeCreated := 0 }),
    ("node-list", {
      ingressSecurityRules := nodePorts.map (makeIngressSecurityRule "10.0.20.0/24")
      egressSecurityRules := []
      timeCreated := 0 })]

def webProvider (svc : Service) : CloudLoadBalancerProvider Unit where
  securityListManager := { serviceLister := .ok [svc] }

/-- A port is added: its rules are made, and those of the other port stay. -/
theorem webService_addPort_rulesPresent :
    ∃ s₀ s₁ st',
      newLBSpec .simple .stored .stored webService [webNode] [] none ipv4Only = .ok s₀ ∧
      newLBSpec .simple .stored .stored secureWebService [webNode] [] none ipv4Only = .ok s₁ ∧
      (webProvider secureWebService).updateLoadBalancer s₁ {} .stored (.ok webSubnets.lbSubnets)
        (.ok webSubnets.nodeSubnets) ⟨.ofSpec s₀, webLists [80] [30080, 10256]⟩ = .ok st' ∧
      RulesPresent (webProvider secureWebService).securityListManager webSubnets s₁
        st'.securityLists ∧
      CleanupsRepaired (webProvider secureWebService).securityListManager webSubnets s₀ s₁
        (webLists [80] [30080, 10256]) := by
  refine ⟨?s₀, ?s₁, ?st, ?built₀, ?built₁, ?updated, ?present, (rulesPresent_iff_cleanupsRepaired _ {}
    .stored ⟨.simple, .stored, .stored, webService, [webNode], [], none, ipv4Only, ?built₀⟩
    ⟨.simple, .stored, .stored, secureWebService, [webNode], [], none, ipv4Only, ?built₁⟩ ?apart₀
    ?apart₁ ?mode ?separate ?updated).mp ?present⟩
  case built₀ => rfl
  case built₁ => rfl
  case updated => rfl
  case mode => rfl
  case present => decide
  case apart₀ => decide
  case apart₁ => decide
  case separate => decide

/-- The two ports of the service with their node ports exchanged. -/
def exchangedWebService : Service where
  ports := [⟨.tcp, 80, 30443⟩, ⟨.tcp, 443, 30080⟩]

/-- The second update gives up the node port that the first one has taken. -/
theorem exchangedWebService_not_rulesPresent :
    ∃ s₀ s₁ st',
      newLBSpec .simple .stored .stored secureWebService [webNode] [] none ipv4Only = .ok s₀ ∧
      newLBSpec .simple .stored .stored exchangedWebService [webNode] [] none ipv4Only = .ok s₁ ∧
      RulesPresent (webProvider exchangedWebService).securityListManager webSubnets s₀
        (webLists [80, 443] [30080, 30443, 10256]) ∧
      (webProvider exchangedWebService).securityListManager.SeparateLists
        (webLists [80, 443] [30080, 30443, 10256]) webSubnets.lbSubnets webSubnets.nodeSubnets ∧
      (webProvider exchangedWebService).updateLoadBalancer s₁ {} .stored
        (.ok webSubnets.lbSubnets) (.ok webSubnets.nodeSubnets)
        ⟨.ofSpec s₀, webLists [80, 443] [30080, 30443, 10256]⟩ = .ok st' ∧
      ¬RulesPresent (webProvider exchangedWebService).securityListManager webSubnets s₁
        st'.securityLists := by
  refine ⟨_, _, _, rfl, rfl, ?_, ?_, rfl, ?_⟩
  · decide
  · decide
  · decide

end OciCcm.LoadBalancer
