import Mathlib.Data.Set.Finite.Basic
import OciCcm.LoadBalancer.PortMap
import OciCcm.NetworkSecurityGroups.Reconcile

/-! # Reconciling converges

After a run of `reconcileSecurityGroup` that returns nil, the rules of the
service are those generated for it, and the rules of others are as before. A
second run then has nothing to do, provided that it generates the same rules:
of several health-check ports the loops open only the one they meet first.
-/

namespace OciCcm.NetworkSecurityGroups

open Go LoadBalancer SecurityRuleComponents List
open Program (Ensures Along exec calls)

/-- The rules of a service in a group are those generated for it: each generated rule is
found among them, and each of them, in the managed directions, among the generated rules. -/
structure Matches (uid : String) (Managed : Direction → Prop) (generated : List SecurityRule)
    (rules : List StoredRule) : Prop where
  present : ∀ g ∈ generated,
    findSecurityRule ((filterSecurityRulesForService rules uid).map (·.toSecurityRule)) g = true
  only : ∀ r ∈ rules, r.description = some uid → Managed r.direction →
    findSecurityRule generated r.toSecurityRule = true

/-- The rules of a group that are not described with the given service. -/
def Cloud.others (s : Cloud) (id uid : String) : List StoredRule :=
  (s.rules id).filter (·.description ≠ some uid)

section Pass

variable {uid nsg : String} {Managed : Direction → Prop} {generated : List SecurityRule}
  {s s' : Cloud} {changes : List SecurityRule × List String}

theorem Cloud.WellFormed.eq_of_id_eq (hs : s.WellFormed) {r r' : StoredRule}
    (hr : r ∈ s.rules nsg) (hr' : r' ∈ s.rules nsg) (h : r.id = r'.id) : r = r' :=
  inj_on_of_nodup_map (hs.nodup nsg) hr hr' h

section

variable (h : Plans uid Managed generated (s.rules nsg) changes) (hs : s.WellFormed)

include h hs

theorem Plans.of_mem_remove {r : StoredRule} (hr : r ∈ s.rules nsg) (hid : r.id ∈ changes.2) :
    r.description = some uid ∧ findSecurityRule generated r.toSecurityRule = false := by
  obtain ⟨r', hr', hid', huid, -, hfind⟩ := (h.remove_iff _).mp hid
  obtain rfl := hs.eq_of_id_eq hr' hr hid'
  exact ⟨huid, hfind⟩

theorem matches_of_changed (hdesc : ∀ g ∈ generated, g.description = some uid)
    (hchanged : Changed s nsg changes.1 changes.2 s') :
    Matches uid Managed generated (s'.rules nsg) := by
  obtain ⟨ids, hlen, -, -, -, hrules⟩ := hchanged.rules
  rw [hrules]
  constructor
  · intro g hg
    rw [findSecurityRule_iff]
    simp only [mem_map, mem_filterSecurityRulesForService, mem_append]
    by_cases hold : ∃ r ∈ s.rules nsg, r.description = some uid ∧
        ruleKey r.toSecurityRule = ruleKey g
    · obtain ⟨r, hr, huid, hkey⟩ := hold
      refine ⟨_, ⟨r, ⟨.inl (mem_filter.mpr ⟨hr, decide_eq_true fun hid => ?_⟩), huid⟩, rfl⟩, hkey⟩
      have hfind := (h.of_mem_remove hs hr hid).2
      rw [findSecurityRule_iff.mpr ⟨g, hg, hkey.symm⟩] at hfind
      cases hfind
    · push Not at hold
      have hadd : g ∈ changes.1 := (h.add_iff g).mpr ⟨hg, hold⟩
      rw [← map_toSecurityRule_store hlen] at hadd
      obtain ⟨r, hr, rfl⟩ := mem_map.mp hadd
      exact ⟨_, ⟨r, ⟨.inr hr, hdesc _ hg⟩, rfl⟩, rfl⟩
  · intro r hr huid hmanaged
    rcases mem_append.mp hr with hr | hr
    · obtain ⟨hr, hid⟩ := mem_filter.mp hr
      by_contra hfind
      rw [Bool.not_eq_true] at hfind
      exact of_decide_eq_true hid ((h.remove_iff _).mpr ⟨r, hr, rfl, huid, hmanaged, hfind⟩)
    · have hadd : r.toSecurityRule ∈ changes.1 :=
        map_toSecurityRule_store hlen ▸ mem_map_of_mem hr
      exact findSecurityRule_of_mem ((h.add_iff _).mp hadd).1

theorem others_of_changed (hdesc : ∀ g ∈ generated, g.description = some uid)
    (hchanged : Changed s nsg changes.1 changes.2 s') (id : String) :
    s'.others id uid = s.others id uid := by
  unfold Cloud.others
  by_cases hid : id = nsg
  · subst hid
    obtain ⟨ids, hlen, -, -, -, hrules⟩ := hchanged.rules
    have hadded : (store changes.1 ids).filter (·.description ≠ some uid) = [] := by
      refine filter_eq_nil_iff.mpr fun r hr => ?_
      have hadd : r.toSecurityRule ∈ changes.1 :=
        map_toSecurityRule_store hlen ▸ mem_map_of_mem hr
      simp [hdesc _ ((h.add_iff _).mp hadd).1]
    rw [hrules, filter_append, hadded, append_nil, filter_filter]
    refine filter_congr fun r hr => ?_
    by_cases huid : r.description = some uid
    · simp [huid]
    · have : r.id ∉ changes.2 := fun hid => huid (h.of_mem_remove hs hr hid).1
      simp [huid, this]
  · rw [hchanged.rules_of_ne id hid]

end

theorem Matches.changes_eq (h : Matches uid Managed generated (s.rules nsg))
    (hplans : Plans uid Managed generated (s.rules nsg) changes) :
    changes.1 = [] ∧ changes.2 = [] := by
  constructor
  · refine eq_nil_iff_forall_not_mem.mpr fun g hg => ?_
    obtain ⟨hgen, hnone⟩ := (hplans.add_iff g).mp hg
    obtain ⟨_, hfound, hkey⟩ := findSecurityRule_iff.mp (h.present g hgen)
    obtain ⟨r, hmem, rfl⟩ := mem_map.mp hfound
    obtain ⟨hr, huid⟩ := mem_filterSecurityRulesForService.mp hmem
    exact hnone r hr huid hkey
  · refine eq_nil_iff_forall_not_mem.mpr fun id hid => ?_
    obtain ⟨r, hr, -, huid, hmanaged, hfind⟩ := (hplans.remove_iff id).mp hid
    rw [h.only r hr huid hmanaged] at hfind
    cases hfind

theorem Matches.congr {generated' : List SecurityRule} {rules : List StoredRule}
    (h : Matches uid Managed generated rules) (hsame : ∀ g, g ∈ generated ↔ g ∈ generated') :
    Matches uid Managed generated' rules where
  present g hg := h.present g ((hsame g).mpr hg)
  only r hr huid hmanaged := by
    obtain ⟨g, hg, hkey⟩ := findSecurityRule_iff.mp (h.only r hr huid hmanaged)
    exact findSecurityRule_iff.mpr ⟨g, (hsame g).mp hg, hkey⟩

end Pass

/-! ## Which rules are generated -/

abbrev IsBackendPort (ports : GoMap PortSpec) (port : Nat) : Prop :=
  ∃ e ∈ ports.toPairs, e.2.backendPort = port

/-- Any two health-check ports of the map are the same, or both are opened anyway because
they are backend ports. -/
abbrev HealthChecksAgree (ports : GoMap PortSpec) : Prop :=
  ∀ e ∈ ports.toPairs, ∀ e' ∈ ports.toPairs,
    e.2.healthCheckerPort ≠ 0 → e'.2.healthCheckerPort ≠ 0 →
      e.2.healthCheckerPort = e'.2.healthCheckerPort ∨
        (IsBackendPort ports e.2.healthCheckerPort ∧ IsBackendPort ports e'.2.healthCheckerPort)

section Generated

variable {ports : GoMap PortSpec} {o o' : RangeOrder} {loop loop' port : Nat}

theorem mem_openPorts_range : port ∈ openPorts false (o.range loop ports) ↔
    (port ≠ 0 ∧ IsBackendPort ports port) ∨
      firstHealthCheckPort (o.range loop ports) = some port := by
  rw [mem_openPorts]
  simp only [(o.perm loop ports).mem_iff, IsBackendPort, true_and]

theorem of_firstHealthCheckPort (h : firstHealthCheckPort (o.range loop ports) = some port) :
    port ≠ 0 ∧ ∃ e ∈ ports.toPairs, e.2.healthCheckerPort = port := by
  have hmem := mem_of_find?_eq_some h
  obtain ⟨e, he, hport⟩ := mem_map.mp hmem
  exact ⟨by simpa using List.find?_some h, e, (o.perm loop ports).mem_iff.mp he, hport⟩

theorem exists_firstHealthCheckPort {e : String × PortSpec} (he : e ∈ ports.toPairs)
    (hport : e.2.healthCheckerPort ≠ 0) :
    ∃ port, firstHealthCheckPort (o.range loop ports) = some port := by
  rw [← Option.isSome_iff_exists, firstHealthCheckPort, List.find?_isSome]
  exact ⟨_, mem_map_of_mem ((o.perm loop ports).mem_iff.mpr he), by simpa using hport⟩

theorem mem_openPorts_congr (h : HealthChecksAgree ports)
    (hport : port ∈ openPorts false (o.range loop ports)) :
    port ∈ openPorts false (o'.range loop' ports) := by
  rw [mem_openPorts_range] at hport ⊢
  rcases hport with hport | hport
  · exact .inl hport
  obtain ⟨hne, e, he, rfl⟩ := of_firstHealthCheckPort hport
  obtain ⟨port', hport'⟩ := @exists_firstHealthCheckPort ports o' loop' e he hne
  obtain ⟨hne', e', he', rfl⟩ := of_firstHealthCheckPort hport'
  rcases h e he e' he' hne hne' with heq | ⟨hback, -⟩
  · exact .inr (heq ▸ hport')
  · exact .inl ⟨hne, hback⟩

variable {c : SecurityRuleComponents} {rule : SecurityRule}

theorem mem_frontendRules_congr (h : c.backendNsgOcids = [] ∨ HealthChecksAgree c.ports)
    (hrule : rule ∈ c.frontendRules o) : rule ∈ c.frontendRules o' := by
  rw [frontendRules, mem_append] at hrule ⊢
  rcases hrule with hrule | hrule
  · exact .inl (mem_lbIngressRules.mpr
      (mem_lbIngressRules.mp hrule))
  · obtain ⟨port, hport, nsg, hnsg, hmake⟩ := mem_lbEgressRules.mp hrule
    rcases h with hnil | hagree
    · rw [hnil] at hnsg
      cases hnsg
    · exact .inr (mem_lbEgressRules.mpr
        ⟨port, mem_openPorts_congr hagree hport, nsg, hnsg, hmake⟩)

theorem mem_backendIngressRules_congr {i j : Nat} (h : HealthChecksAgree c.ports)
    (hrule : rule ∈ c.backendIngressRules o i) : rule ∈ c.backendIngressRules o' j := by
  rw [mem_backendIngressRules] at hrule ⊢
  rcases hrule with hrule | ⟨port, hport, hmake⟩
  · exact .inl hrule
  · exact .inr ⟨port, mem_openPorts_congr h hport, hmake⟩

theorem mem_backendIngressRules_iff (h : HealthChecksAgree c.ports) (o o' : RangeOrder)
    (i j : Nat) (rule : SecurityRule) :
    rule ∈ c.backendIngressRules o i ↔ rule ∈ c.backendIngressRules o' j :=
  ⟨mem_backendIngressRules_congr h, mem_backendIngressRules_congr h⟩

end Generated

/-! ## Runs -/

section Runs

variable {May : Cloud → Call → Reply → Prop} {o : RangeOrder} {c : SecurityRuleComponents}
  {s : Cloud}

/-- What a run that has made the passes over the frontend group and the given backend groups
has achieved. -/
structure Reached (o : RangeOrder) (c : SecurityRuleComponents) (s₀ : Cloud)
    (passed : List (String × Nat)) (s : Cloud) : Prop where
  wellFormed : s.WellFormed
  group : ∀ id, s.group id = s₀.group id
  others : ∀ id, s.others id c.serviceUid = s₀.others id c.serviceUid
  frontend : c.frontendNsgOcid ≠ "" ∧
    Matches c.serviceUid (fun _ => True) (c.frontendRules o) (s.rules c.frontendNsgOcid)
  backends : ∀ e ∈ passed, e.1 ≠ "" ∧ (HealthChecksAgree c.ports →
    Matches c.serviceUid (· = .ingress) (c.backendIngressRules o e.2) (s.rules e.1))

theorem Reached.of_changed {s' : Cloud} (hs : s.WellFormed) (hid : c.frontendNsgOcid ≠ "")
    (hchanged : Changed s c.frontendNsgOcid (frontendPlan o c s).1 (frontendPlan o c s).2 s') :
    Reached o c s [] s' := by
  have hplans := plans_frontendPlan o c s
  have hdesc : ∀ g ∈ c.frontendRules o, g.description = some c.serviceUid := fun _ =>
    description_of_mem_frontendRules
  exact ⟨hchanged.wellFormed hs, hchanged.group, others_of_changed hplans hs hdesc hchanged,
    ⟨hid, matches_of_changed hplans hs hdesc hchanged⟩, by simp⟩

/-- A group that makes a run fail. -/
def Fails (May : Cloud → Call → Reply → Prop) (c : SecurityRuleComponents) (s : Cloud) : Prop :=
  ∃ id ∈ c.frontendNsgOcid :: c.backendNsgOcids, id = "" ∨ Trouble May s id

/-- The pass over a backend group. -/
theorem Reached.pass {s₀ s' : Cloud} {passed : List (String × Nat)} {nsg : String} {i : Nat}
    (h : Reached o c s₀ passed s) (hne : nsg ≠ c.frontendNsgOcid) (hid : nsg ≠ "")
    (hchanged : Changed s nsg (backendPlan o c nsg i s).1 (backendPlan o c nsg i s).2 s') :
    Reached o c s₀ (passed ++ [(nsg, i)]) s' := by
  have hplans := plans_backendPlan o c nsg i s
  have hdesc : ∀ g ∈ c.backendIngressRules o i, g.description = some c.serviceUid := fun g hg =>
    (of_mem_backendIngressRules hg).2
  have hmatches := matches_of_changed hplans h.wellFormed hdesc hchanged
  refine ⟨hchanged.wellFormed h.wellFormed, fun id => (hchanged.group id).trans (h.group id),
    fun id => (others_of_changed hplans h.wellFormed hdesc hchanged id).trans (h.others id), ?_, ?_⟩
  · rw [hchanged.rules_of_ne _ hne.symm]
    exact h.frontend
  · intro e he
    rcases mem_append.mp he with he | he
    · refine ⟨(h.backends e he).1, fun hagree => ?_⟩
      by_cases heq : e.1 = nsg
      · -- a group that is listed twice: both passes generate the same rules
        rw [heq]
        exact hmatches.congr (mem_backendIngressRules_iff hagree o o i e.2)
      · rw [hchanged.rules_of_ne _ heq]
        exact (h.backends e he).2 hagree
    · obtain rfl := mem_singleton.mp he
      exact ⟨hid, fun _ => hmatches⟩

theorem ensures_reconcileSecurityGroup (hMay : ∀ s q f, May s q f → Legal s q f)
    (hfrontend : c.frontendNsgOcid ∉ c.backendNsgOcids) (hs : s.WellFormed) :
    Ensures serve May (fun _ _ _ => True) (fun r s' => match r with
      | .ok _ => Reached o c s c.backendNsgOcids.zipIdx s'
      | .error _ => Fails May c s) (reconcileSecurityGroup o c) s := by
  refine Ensures.bind (ensures_frontendPass hMay hs ⟨fun _ _ => trivial, fun _ _ _ _ _ => trivial,
    fun s₁ hid hchanged => ?_, fun hfail _ _ _ _ _ _ => ⟨_, mem_cons_self, hfail⟩⟩)
  refine @Ensures.forM _ _ _ _ _ serve May _ s₁ _ _ _ _ (Reached o c s)
    (.of_changed hs hid hchanged) ?_ (fun _ h => h)
  rintro passed ⟨nsg, i⟩ after s₂ hsplit h₂
  have hnsg : nsg ∈ c.backendNsgOcids :=
    (mem_zipIdx' (hsplit ▸ mem_append_right _ mem_cons_self)).2 ▸ getElem_mem _
  refine ensures_backendPass hMay h₂.wellFormed ⟨fun _ _ => trivial, fun _ _ _ _ _ => trivial,
    fun s₃ hid => h₂.pass (fun heq => hfrontend (heq ▸ hnsg)) hid, fun hfail _ _ _ _ _ _ => ?_⟩
  refine ⟨nsg, mem_cons_of_mem _ hnsg, hfail.imp_right ?_⟩
  rw [Trouble, Trouble, h₂.group]
  exact id

/-- Where the rules match, a run only reads. -/
theorem ensures_isRead (hMay : ∀ s q f, May s q f → Legal s q f) (hs : s.WellFormed)
    (hfrontend : Matches c.serviceUid (fun _ => True) (c.frontendRules o)
      (s.rules c.frontendNsgOcid))
    (hbackends : ∀ e ∈ c.backendNsgOcids.zipIdx,
      Matches c.serviceUid (· = .ingress) (c.backendIngressRules o e.2) (s.rules e.1)) :
    Ensures serve May (fun _ q _ => q.IsRead) (fun _ _ => True) (reconcileSecurityGroup o c) s := by
  -- a pass that changes nothing keeps `J`
  let J : Cloud → Prop := fun s' => s'.WellFormed ∧ ∀ id, s'.rules id = s.rules id
  have hJ : ∀ s₁ s₂ nsg, J s₁ → Changed s₁ nsg [] [] s₂ → J s₂ := fun s₁ s₂ nsg h₁ h =>
    ⟨h.wellFormed h₁.1, fun id => (h.rules_eq id).trans (h₁.2 id)⟩
  have hnothing : ∀ {changes : List SecurityRule × List String}, changes.1 = [] ∧ changes.2 = [] →
      ¬ (changes.1 ≠ [] ∨ changes.2 ≠ []) := fun h hor => hor.elim (· h.1) (· h.2)
  obtain hempty := hfrontend.changes_eq (plans_frontendPlan o c s)
  refine Ensures.bind (ensures_frontendPass hMay hs ⟨fun _ h => h,
    fun _ _ _ hne _ => absurd hne (hnothing hempty), fun s₁ _ hchanged => ?_,
    fun _ _ _ _ _ _ _ => trivial⟩)
  rw [hempty.1, hempty.2] at hchanged
  refine @Ensures.forM _ _ _ _ _ serve May _ s₁ _ _ _ _ (fun _ => J)
    (hJ s s₁ _ ⟨hs, fun _ => rfl⟩ hchanged) ?_ (fun _ _ => trivial)
  rintro passed ⟨nsg, i⟩ after s₂ hsplit h₂
  have hmatches := hbackends (nsg, i) (hsplit ▸ mem_append_right _ mem_cons_self)
  rw [← h₂.2] at hmatches
  obtain hempty := hmatches.changes_eq (plans_backendPlan o c nsg i s₂)
  refine ensures_backendPass hMay h₂.1 ⟨fun _ h => h,
    fun _ _ _ hne _ => absurd hne (hnothing hempty), fun s₃ _ hchanged => ?_,
    fun _ _ _ _ _ _ _ => trivial⟩
  rw [hempty.1, hempty.2] at hchanged
  exact hJ s₂ s₃ _ h₂ hchanged

end Runs

/-! ## Convergence -/

/-- Whatever the groups hold at first and in whatever orders the ports are visited, a run
that returns nil leaves the rules of the service as generated and those of others unchanged,
and a run right after it only reads. -/
def Converges (c : SecurityRuleComponents) : Prop :=
  ∀ (s : Cloud), s.WellFormed → ∀ (o o' : RangeOrder) (fs : List Reply) (s' : Cloud),
    Along serve Legal (reconcileSecurityGroup o c) s fs →
    exec serve (reconcileSecurityGroup o c) s fs = (s', .done (.ok ⟨⟩)) →
    Matches c.serviceUid (fun _ => True) (c.frontendRules o) (s'.rules c.frontendNsgOcid) ∧
    (∀ e ∈ c.backendNsgOcids.zipIdx,
      Matches c.serviceUid (· = .ingress) (c.backendIngressRules o e.2) (s'.rules e.1)) ∧
    (∀ id, s'.others id c.serviceUid = s.others id c.serviceUid) ∧
    ∀ fs', Along serve Legal (reconcileSecurityGroup o' c) s' fs' →
      ∀ q ∈ calls serve (reconcileSecurityGroup o' c) s' fs', q.IsRead

theorem exists_fresh (used : List String) (n : Nat) :
    ∃ ids : List String, ids.length = n ∧ ids.Nodup ∧ ∀ id ∈ ids, id ∉ used := by
  have hfinite : {id | id ∈ used}.Finite := used.finite_toSet
  obtain ⟨t, ht, hcard⟩ := hfinite.infinite_compl.exists_subset_card_eq n
  exact ⟨t.toList, by rw [Finset.length_toList, hcard], t.nodup_toList, fun id hid =>
    ht (Finset.mem_toList.mp hid)⟩

theorem exists_legal (s : Cloud) (q : Call) : ∃ f, Legal s q f ∧ f.error = none := by
  have hone : ∀ used : List String, ∃ id, id ≠ "" ∧ id ∉ used := fun used => by
    obtain ⟨ids, hlen, -, hnew⟩ := exists_fresh ("" :: used) 1
    obtain ⟨id, rfl⟩ := length_eq_one_iff.mp hlen
    exact ⟨id, by simpa using hnew id mem_cons_self⟩
  cases q with
  | createNetworkSecurityGroup _ _ _ =>
    obtain ⟨id, hne, hnew⟩ := hone s.nsgs.keys
    exact ⟨{ ids := [id] }, ⟨id, rfl, hne, fun hmem => hnew (AList.mem_keys.mp hmem)⟩, rfl⟩
  | createLoadBalancer _ _ _ =>
    obtain ⟨id, hne, hnew⟩ := hone s.loadBalancers.keys
    exact ⟨{ ids := [id] }, ⟨id, rfl, hne, fun hmem => hnew (AList.mem_keys.mp hmem)⟩, rfl⟩
  | addNetworkSecurityGroupSecurityRules _ rules =>
    obtain ⟨ids, hlen, hnodup, hnew⟩ := exists_fresh s.issued rules.length
    exact ⟨{ ids }, ⟨hlen, hnodup, hnew⟩, rfl⟩
  | _ => exact ⟨.ok, trivial, rfl⟩

/-- Groups without rules. -/
def emptyGroups (ids : List String) : Cloud where
  nsgs := ids.foldr (fun id m => m.insert id ⟨"", "", ∅, "", []⟩) ∅
  loadBalancers := ∅
  issued := []
  retryTokens := ∅

theorem lookup_emptyGroups (ids : List String) (id : String) :
    (emptyGroups ids).nsgs.lookup id = if id ∈ ids then some ⟨"", "", ∅, "", []⟩ else none := by
  induction ids with
  | nil => rfl
  | cons id' ids ih =>
    have hcons : (emptyGroups (id' :: ids)).nsgs =
        (emptyGroups ids).nsgs.insert id' ⟨"", "", ∅, "", []⟩ := rfl
    rw [hcons, GoMap.lookup_insert_eq_ite, ih]
    by_cases h : id = id' <;> simp [h]

theorem rules_emptyGroups (ids : List String) (id : String) : (emptyGroups ids).rules id = [] := by
  rw [Cloud.rules, lookup_emptyGroups]
  split <;> rfl

theorem wellFormed_emptyGroups (ids : List String) : (emptyGroups ids).WellFormed where
  nodup id := by rw [rules_emptyGroups]; exact nodup_nil
  issued id := by rw [rules_emptyGroups]; simp

section Converse

variable {c : SecurityRuleComponents} {s : Cloud}

theorem exists_run_ok (o : RangeOrder) (hfrontend : c.frontendNsgOcid ∉ c.backendNsgOcids)
    (hs : s.WellFormed)
    (hgroups : ∀ id ∈ c.frontendNsgOcid :: c.backendNsgOcids, id ≠ "" ∧ s.group id ≠ none) :
    ∃ fs s', Along serve Legal (reconcileSecurityGroup o c) s fs ∧
      exec serve (reconcileSecurityGroup o c) s fs = (s', .done (.ok ⟨⟩)) ∧ s'.WellFormed ∧
      ∀ id, s'.group id = s.group id := by
  let May : Cloud → Call → Reply → Prop := fun s q f => Legal s q f ∧ f.error = none
  have hMay : ∀ s q f, May s q f → Legal s q f := fun _ _ _ h => h.1
  obtain ⟨fs, s', r, halong, hexec⟩ :=
    @Program.exists_exec_done _ _ _ _ _ _ serve May exists_legal (reconcileSecurityGroup o c) s
  have hpost := (ensures_reconcileSecurityGroup hMay hfrontend hs).of_exec halong hexec
  rcases r with e | _
  · obtain ⟨id, hid, hempty | hnone | ⟨s', q, f, hf, hne⟩⟩ := hpost
    · exact absurd hempty (hgroups id hid).1
    · exact absurd hnone (hgroups id hid).2
    · exact absurd hf.2 hne
  · exact ⟨fs, s', halong.mono hMay, hexec, hpost.wellFormed, hpost.group⟩

theorem firstHealthCheckPort_keyFirst {ports : GoMap PortSpec} {e : String × PortSpec}
    (he : e ∈ ports.toPairs) (hport : e.2.healthCheckerPort ≠ 0) (loop : Nat) :
    firstHealthCheckPort ((RangeOrder.keyFirst e.1).range loop ports) =
      some e.2.healthCheckerPort := by
  change firstHealthCheckPort (ports.toPairs.filter (·.1 = e.1) ++ _) = _
  rw [GoMap.filter_toPairs (GoMap.mem_toPairs.mp he)]
  simp [firstHealthCheckPort, hport]

/-- Rules that match two lists of generated rules: every port that the one opens in the
frontend group is opened by the other. -/
theorem mem_openPorts_of_matches {o o' : RangeOrder} {rules : List StoredRule} {port : Nat}
    (hne : c.backendNsgOcids ≠ [])
    (h : Matches c.serviceUid (fun _ => True) (c.frontendRules o) rules)
    (h' : Matches c.serviceUid (fun _ => True) (c.frontendRules o') rules)
    (hport : port ∈ openPorts false (o.range 1 c.ports)) :
    port ∈ openPorts false (o'.range 1 c.ports) := by
  obtain ⟨nsg, hnsg⟩ := exists_mem_of_ne_nil _ hne
  have hg : makeNsgSecurityRule .egress nsg c.serviceUid port .networkSecurityGroup ∈
      c.frontendRules o := mem_append_right _
    (mem_lbEgressRules.mpr ⟨port, hport, nsg, hnsg, rfl⟩)
  obtain ⟨_, hfound, hkey⟩ := findSecurityRule_iff.mp (h.present _ hg)
  obtain ⟨r, hmem, rfl⟩ := mem_map.mp hfound
  obtain ⟨hr, huid⟩ := mem_filterSecurityRulesForService.mp hmem
  obtain ⟨g', hg', hkey'⟩ := findSecurityRule_iff.mp (h'.only r hr huid trivial)
  have hsame := hkey'.trans hkey
  rcases mem_append.mp hg' with hg' | hg'
  · have hdirection := direction_eq_of_ruleKey hsame
    rw [(of_mem_lbIngressRules hg').1] at hdirection
    simp at hdirection
  · obtain ⟨port', hport', nsg', -, rfl⟩ := mem_lbEgressRules.mp hg'
    have htcp := congrArg (fun key => key.2.2.2.1) hsame
    simp only [ruleKey, tcpOptions_makeNsgSecurityRule, Option.some.injEq,
      SecurityLists.TcpOptions.mk.injEq, SecurityLists.PortRange.mk.injEq, and_self, and_true] at htcp
    exact htcp ▸ hport'

end Converse

variable {c : SecurityRuleComponents}

/-- Runs in two orders open the same ports only if the health-check ports agree. -/
theorem healthChecksAgree_of_converges (hfrontend : c.frontendNsgOcid ∉ c.backendNsgOcids)
    (hempty : "" ∉ c.frontendNsgOcid :: c.backendNsgOcids) (hnil : c.backendNsgOcids ≠ [])
    (h : Converges c) : HealthChecksAgree c.ports := by
  intro e he e' he' hport hport'
  -- one run for each order: the second has nothing to do, so both orders open the same ports
  let ids := c.frontendNsgOcid :: c.backendNsgOcids
  let o := RangeOrder.keyFirst e.1
  let o' := RangeOrder.keyFirst e'.1
  have hgroups : ∀ id ∈ ids, id ≠ "" ∧ (emptyGroups ids).group id ≠ none := fun id hid =>
    ⟨fun h => hempty (h ▸ hid), by simp [Cloud.group, lookup_emptyGroups, hid]⟩
  have hs := wellFormed_emptyGroups ids
  obtain ⟨fs, s₁, halong, hexec, hs₁, hgroup⟩ := exists_run_ok o hfrontend hs hgroups
  obtain ⟨fs', s₂, halong', hexec', -, -⟩ := exists_run_ok o' hfrontend hs₁ fun id hid =>
    ⟨(hgroups id hid).1, hgroup id ▸ (hgroups id hid).2⟩
  obtain ⟨hmatches, -, -, hreads⟩ := h _ hs o o' fs s₁ halong hexec
  obtain ⟨hmatches', -⟩ := h s₁ hs₁ o' o' fs' s₂ halong' hexec'
  have hsame : s₂ = s₁ := by
    have := Program.exec_fst_eq fun q hq => serve_fst_of_isRead (hreads fs' halong' q hq)
    rwa [hexec'] at this
  rw [hsame] at hmatches'
  have hopen : e.2.healthCheckerPort ∈ openPorts false (o'.range 1 c.ports) :=
    mem_openPorts_of_matches hnil hmatches hmatches'
      (mem_openPorts_range.mpr (.inr (firstHealthCheckPort_keyFirst he hport 1)))
  have hopen' : e'.2.healthCheckerPort ∈ openPorts false (o.range 1 c.ports) :=
    mem_openPorts_of_matches hnil hmatches' hmatches
      (mem_openPorts_range.mpr (.inr (firstHealthCheckPort_keyFirst he' hport' 1)))
  rw [mem_openPorts_range, firstHealthCheckPort_keyFirst he' hport'] at hopen
  rw [mem_openPorts_range, firstHealthCheckPort_keyFirst he hport] at hopen'
  rcases hopen with ⟨-, hback⟩ | heq
  · rcases hopen' with ⟨-, hback'⟩ | heq'
    · exact .inr ⟨hback, hback'⟩
    · exact .inl (Option.some.inj heq')
  · exact .inl (Option.some.inj heq).symm

theorem Reached.empty_notMem {o : RangeOrder} {s s' : Cloud}
    (h : Reached o c s c.backendNsgOcids.zipIdx s') :
    "" ∉ c.frontendNsgOcid :: c.backendNsgOcids := by
  intro hmem
  rcases mem_cons.mp hmem with hid | hid
  · exact h.frontend.1 hid.symm
  · obtain ⟨i, hi, hget⟩ := getElem_of_mem hid
    have hzip : ("", i) ∈ c.backendNsgOcids.zipIdx := by
      rw [mk_mem_zipIdx_iff_getElem?, List.getElem?_eq_getElem hi, hget]
    exact (h.backends _ hzip).1 rfl

theorem converges_of_healthChecksAgree (hfrontend : c.frontendNsgOcid ∉ c.backendNsgOcids)
    (hcondition : "" ∈ c.frontendNsgOcid :: c.backendNsgOcids ∨ c.backendNsgOcids = [] ∨
      HealthChecksAgree c.ports) : Converges c := by
  intro s hs o o' fs s' halong hexec
  have hreached := (ensures_reconcileSecurityGroup (fun _ _ _ => id) hfrontend hs).of_exec
    halong hexec
  have hfree : c.backendNsgOcids = [] ∨ HealthChecksAgree c.ports :=
    hcondition.resolve_left hreached.empty_notMem
  have hbackends : ∀ (o' : RangeOrder), ∀ e ∈ c.backendNsgOcids.zipIdx,
      Matches c.serviceUid (· = .ingress) (c.backendIngressRules o' e.2) (s'.rules e.1) := by
    intro o' e he
    have hagree : HealthChecksAgree c.ports := hfree.resolve_left fun hnil => by
      rw [hnil] at he
      cases he
    exact ((hreached.backends e he).2 hagree).congr (mem_backendIngressRules_iff hagree o o' _ _)
  refine ⟨hreached.frontend.2, hbackends o, hreached.others, fun fs' halong' q hq => ?_⟩
  have hsame : ∀ g, g ∈ c.frontendRules o ↔ g ∈ c.frontendRules o' := fun g =>
    ⟨mem_frontendRules_congr hfree, mem_frontendRules_congr hfree⟩
  exact (ensures_isRead (fun _ _ _ => id) hreached.wellFormed (hreached.frontend.2.congr hsame)
    (hbackends o')).of_mem_calls halong' hq

/-- The ports of a service have one health-check port. -/
theorem healthChecksAgree_of_getPorts {o : RangeOrder} {svc : Kubernetes.Service}
    {versions : List IpVersion} {ports : GoMap PortSpec}
    (h : getPorts o svc versions = .ok ports) : HealthChecksAgree ports := by
  intro e he e' he' _ _
  obtain ⟨_, hc, -, -, hhc, heq⟩ := (lookup_getPorts h).mp (GoMap.mem_toPairs.mp he)
  obtain ⟨_, hc', -, -, hhc', heq'⟩ := (lookup_getPorts h).mp (GoMap.mem_toPairs.mp he')
  obtain rfl := Except.ok.inj (hhc.symm.trans hhc')
  left
  rw [heq, heq']

/-- Runs converge for every service. -/
theorem converges_of_getPorts {o : RangeOrder} {svc : Kubernetes.Service}
    {versions : List IpVersion} (h : getPorts o svc versions = .ok c.ports)
    (hfrontend : c.frontendNsgOcid ∉ c.backendNsgOcids) : Converges c :=
  converges_of_healthChecksAgree hfrontend (.inr (.inr (healthChecksAgree_of_getPorts h)))

/-- Runs converge exactly if the health-check ports agree, where groups without an id (the run
then fails) and services without backend groups are no problem. -/
theorem converges_iff (c : SecurityRuleComponents)
    (hfrontend : c.frontendNsgOcid ∉ c.backendNsgOcids) :
    Converges c ↔ "" ∈ c.frontendNsgOcid :: c.backendNsgOcids ∨ c.backendNsgOcids = [] ∨
      HealthChecksAgree c.ports := by
  refine ⟨fun h => ?_, converges_of_healthChecksAgree hfrontend⟩
  by_cases hempty : "" ∈ c.frontendNsgOcid :: c.backendNsgOcids
  · exact .inl hempty
  by_cases hnil : c.backendNsgOcids = []
  · exact .inr (.inl hnil)
  · exact .inr (.inr (healthChecksAgree_of_converges hfrontend hempty hnil h))

/-- Two ports with one health-check port between them. -/
def oneHealthCheck : SecurityRuleComponents where
  frontendNsgOcid := "frontend"
  backendNsgOcids := ["backend"]
  ports := GoMap.ofPairs [("TCP-80", ⟨80, 30080, 10256⟩), ("TCP-443", ⟨443, 30443, 10256⟩)]
  sourceCIDRs := ["0.0.0.0/0"]
  isPreserveSource := false
  serviceUid := "service-uid-1"

theorem converges_oneHealthCheck : Converges oneHealthCheck :=
  (converges_iff oneHealthCheck (by decide)).mpr (.inr (.inr (by decide)))

/-- Two ports with a health-check port each. -/
def twoHealthChecks : SecurityRuleComponents :=
  { oneHealthCheck with
    ports := GoMap.ofPairs [("TCP-80", ⟨80, 30080, 10256⟩), ("TCP-443", ⟨443, 30443, 31000⟩)] }

/-- The first run opens the health-check port 10256; the second meets the other entry first
and adds a rule for 31000. -/
theorem not_converges_twoHealthChecks : ¬ Converges twoHealthChecks := by
  intro h
  obtain ⟨-, -, -, hreads⟩ := h (emptyGroups ["frontend", "backend"]) (wellFormed_emptyGroups _)
    (.keyFirst "TCP-80") (.keyFirst "TCP-443")
    [.ok, .ok, .ok, { ids := ["1", "2", "3", "4", "5"] }, .ok, .ok, { ids := ["6", "7", "8"] }] _
    (by decide +kernel) rfl
  exact absurd (hreads [.ok, .ok, .ok, { ids := ["9"] }] (by decide +kernel)) (by decide +kernel)

end OciCcm.NetworkSecurityGroups
