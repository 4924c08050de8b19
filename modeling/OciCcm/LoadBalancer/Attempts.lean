import Mathlib.Data.Finset.Card
import OciCcm.LoadBalancer.OneRound
import OciCcm.LoadBalancer.RoundTrip

/-! # Updates that are interrupted

`updateLoadBalancer` ends with the first action that fails, and the next attempt
compares the load balancer as it is then. What has been done stays done: every
attempt that gets through an action has fewer of them left.
-/

namespace OciCcm.LoadBalancer

open Go Kubernetes List

variable {RuleSet : Type}

/-- An attempt that gets through the first `taken` of its actions. -/
structure Attempt where
  orders : ChangeOrders
  taken : Nat

/-- The load balancer after an attempt, with the content of the actions taken. -/
def attempt [DecidableEq RuleSet] (spec : LBSpec RuleSet) (lb : LoadBalancerState RuleSet)
    (t : Attempt) : LoadBalancerState RuleSet :=
  lb.applyAll ((updateActions t.orders lb spec).take t.taken)

/-- The keys that an action edits in the three maps. -/
def Action.target (a : Action RuleSet) : Option String × Option String × Option String :=
  (a.backendSetEdit.map Prod.fst, a.listenerEdit.map Prod.fst, a.ruleSetEdit.map Prod.fst)

/-- Backend sets carry the names under which they are stored. -/
def CarryNames (backendSets : GoMap BackendSetDetails) : Prop :=
  ∀ {name bs}, backendSets.lookup name = some bs → bs.name = name

/-! ## One attempt -/

section Step

variable [DecidableEq RuleSet] {spec : LBSpec RuleSet} {lb : LoadBalancerState RuleSet}
  {o o' : ChangeOrders} {taken : List (Action RuleSet)} {a : Action RuleSet}

theorem backendSet_mem_updateActions {b : BackendSetAction} :
    .backendSet b ∈ updateActions o lb spec ↔
      b ∈ getBackendSetChanges o.backendSets lb.backendSets spec.backendSets := by
  simp [updateActions, sortAndCombineActions_perm.mem_iff]

theorem listener_mem_updateActions {l : ListenerAction} :
    .listener l ∈ updateActions o lb spec ↔
      l ∈ getListenerChanges o.listeners lb.listeners spec.listeners spec.ruleSets := by
  simp [updateActions, sortAndCombineActions_perm.mem_iff]

theorem ruleSet_mem_updateActions {r : RuleSetAction RuleSet} :
    .ruleSet r ∈ updateActions o lb spec ↔
      ∃ ruleSets, spec.ruleSets = some ruleSets ∧
        r ∈ getRuleSetChanges o.ruleSets lb.ruleSets ruleSets := by
  cases hspec : spec.ruleSets <;> simp [updateActions, sortAndCombineActions_perm.mem_iff, hspec]

variable (hname : CarryNames lb.backendSets) (hspec : CarryNames spec.backendSets)
  (hinj : SanitizedInj spec.listeners) (htaken : ∀ a ∈ taken, a ∈ updateActions o lb spec)

section

include htaken

include hname in
theorem isEdit_backendSet : ∀ e ∈ taken.filterMap Action.backendSetEdit,
    IsEdit id hasBackendSetChanged lb.backendSets spec.backendSets e := by
  intro e he
  obtain ⟨b, hb, rfl⟩ := (mem_filterMap_edit Action.backendSetEdit_eq_some).mp he
  exact (edit_getBackendSetChanges_iff hname).mp
    ⟨b, backendSet_mem_updateActions.mp (htaken _ hb), rfl⟩

include hinj in
theorem isEdit_listener : ∀ e ∈ taken.filterMap Action.listenerEdit, IsEdit getSanitizedName
    (hasListenerChanged · · spec.ruleSets) lb.listeners spec.listeners e := by
  intro e he
  obtain ⟨l, hl, rfl⟩ := (mem_filterMap_edit Action.listenerEdit_eq_some).mp he
  exact (edit_getListenerChanges_iff hinj).mp
    ⟨l, listener_mem_updateActions.mp (htaken _ hl), rfl⟩

theorem isEdit_ruleSet {ruleSets : GoMap RuleSet} (hruleSets : spec.ruleSets = some ruleSets) :
    ∀ e ∈ taken.filterMap Action.ruleSetEdit,
      IsEdit id (fun r r' => decide (r ≠ r')) lb.ruleSets ruleSets e := by
  intro e he
  obtain ⟨r, hr, rfl⟩ := (mem_filterMap_edit Action.ruleSetEdit_eq_some).mp he
  exact edit_getRuleSetChanges_iff.mp
    ⟨r, by simpa [ruleSet_mem_updateActions, hruleSets] using htaken _ hr, rfl⟩

end

include hname htaken

theorem of_lookup_backendSets {name : String} {bs : BackendSetDetails}
    (hbs : (lb.applyAll taken).backendSets.lookup name = some bs) :
    lb.backendSets.lookup name = some bs ∨ spec.backendSets.lookup name = some bs := by
  rw [backendSets_applyAll] at hbs
  rcases (of_lookup_editAll (fun _ _ _ _ h => h) (isEdit_backendSet hname htaken) hbs).1 with
    hold | ⟨_, hnew, rfl⟩
  · exact .inl hold
  · exact .inr hnew

include hspec

theorem carryNames_applyAll : CarryNames (lb.applyAll taken).backendSets := by
  intro name bs hbs
  exact (of_lookup_backendSets hname htaken hbs).elim hname hspec

include hinj

/-- What is left after some of the actions was to be done before, and has not been done. -/
theorem target_of_left (ha : a ∈ updateActions o' (lb.applyAll taken) spec) :
    (∃ a₀ ∈ updateActions o lb spec, a₀.target = a.target) ∧
      ∀ a₁ ∈ taken, a₁.target ≠ a.target := by
  have hne {V : Type} {edit? : Action RuleSet → Option (Edit V)} {e : Edit V}
      (hother : ∀ e' ∈ taken.filterMap edit?, e'.1 ≠ e.1) {a₁ : Action RuleSet} (h₁ : a₁ ∈ taken) :
      (edit? a₁).map Prod.fst ≠ some e.1 := by
    intro heq
    obtain ⟨e', he', hkey⟩ := Option.map_eq_some_iff.mp heq
    exact hother e' (mem_filterMap.mpr ⟨a₁, h₁, he'⟩) hkey
  cases a with
  | backendSet b =>
    have hleft := (edit_getBackendSetChanges_iff (carryNames_applyAll hname hspec htaken)).mp
      ⟨b, backendSet_mem_updateActions.mp ha, rfl⟩
    rw [backendSets_applyAll] at hleft
    obtain ⟨hbefore, hother⟩ := hleft.of_editAll hasBackendSetChanged_self (fun _ _ _ _ h => h)
      (isEdit_backendSet hname htaken)
    obtain ⟨b₀, hb₀, hedit⟩ := (edit_getBackendSetChanges_iff hname).mpr hbefore
    refine ⟨⟨_, backendSet_mem_updateActions.mpr hb₀, ?_⟩,
      fun a₁ h₁ heq => hne hother h₁ (congrArg (·.1) heq)⟩
    exact congrArg (fun e => (some e.1, none, none)) hedit
  | listener l =>
    have hleft := (edit_getListenerChanges_iff hinj).mp ⟨l, listener_mem_updateActions.mp ha, rfl⟩
    rw [listeners_applyAll] at hleft
    obtain ⟨hbefore, hother⟩ := hleft.of_editAll (hasListenerChanged_self · spec.ruleSets) hinj
      (isEdit_listener hinj htaken)
    obtain ⟨l₀, hl₀, hedit⟩ := (edit_getListenerChanges_iff hinj).mpr hbefore
    refine ⟨⟨_, listener_mem_updateActions.mpr hl₀, ?_⟩,
      fun a₁ h₁ heq => hne hother h₁ (congrArg (·.2.1) heq)⟩
    exact congrArg (fun e => (none, some e.1, none)) hedit
  | ruleSet r =>
    obtain ⟨ruleSets, hruleSets, hr⟩ := ruleSet_mem_updateActions.mp ha
    have hleft := edit_getRuleSetChanges_iff.mp ⟨r, hr, rfl⟩
    rw [ruleSets_applyAll] at hleft
    obtain ⟨hbefore, hother⟩ := hleft.of_editAll (by simp) (fun _ _ _ _ h => h)
      (isEdit_ruleSet htaken hruleSets)
    obtain ⟨r₀, hr₀, hedit⟩ := edit_getRuleSetChanges_iff.mpr hbefore
    refine ⟨⟨_, ruleSet_mem_updateActions.mpr ⟨_, hruleSets, hr₀⟩, ?_⟩,
      fun a₁ h₁ heq => hne hother h₁ (congrArg (·.2.2) heq)⟩
    exact congrArg (fun e => (none, none, some e.1)) hedit

end Step

/-! ## All attempts -/

section Run

variable [DecidableEq RuleSet] {spec : LBSpec RuleSet} {lb : LoadBalancerState RuleSet}
  {o o' : ChangeOrders}

def targets (o : ChangeOrders) (lb : LoadBalancerState RuleSet) (spec : LBSpec RuleSet) :
    Finset (Option String × Option String × Option String) :=
  ((updateActions o lb spec).map Action.target).toFinset

theorem mem_targets {x : Option String × Option String × Option String} :
    x ∈ targets o lb spec ↔ ∃ a ∈ updateActions o lb spec, a.target = x := by
  simp [targets]

variable (hspec : CarryNames spec.backendSets) (hinj : SanitizedInj spec.listeners)

include hspec hinj

/-- The orders of the loops do not matter. -/
theorem targets_subset (hname : CarryNames lb.backendSets) (o o' : ChangeOrders) :
    targets o' lb spec ⊆ targets o lb spec := by
  intro x hx
  obtain ⟨a, ha, rfl⟩ := mem_targets.mp hx
  have hnone : ∀ a ∈ [], a ∈ updateActions o lb spec := forall_mem_nil _
  exact mem_targets.mpr (target_of_left hname hspec hinj hnone ha).1

/-- An attempt that gets through an action leaves fewer to do, or none. -/
theorem card_targets_attempt (hname : CarryNames lb.backendSets) (o : ChangeOrders) {t : Attempt}
    (ht : 0 < t.taken) :
    (targets o (attempt spec lb t) spec).card ≤ (targets o lb spec).card - 1 := by
  have hleft {x} (hx : x ∈ targets o (attempt spec lb t) spec) :
      x ∈ targets t.orders lb spec ∧
        ∀ a₁ ∈ (updateActions t.orders lb spec).take t.taken, a₁.target ≠ x := by
    obtain ⟨a, ha, rfl⟩ := mem_targets.mp hx
    rw [mem_targets]
    exact target_of_left hname hspec hinj (fun _ => mem_of_mem_take) ha
  have hsubset := targets_subset hspec hinj hname o t.orders
  cases hactions : updateActions t.orders lb spec with
  | nil =>
    have hempty : targets o (attempt spec lb t) spec = ∅ := by
      refine Finset.eq_empty_of_forall_notMem fun x hx => ?_
      simpa [mem_targets, hactions] using (hleft hx).1
    simp [hempty]
  | cons a actions =>
    rw [hactions, ← Nat.succ_pred_eq_of_pos ht, take_succ_cons] at hleft
    have htarget : a.target ∈ targets o lb spec :=
      hsubset (mem_targets.mpr ⟨a, by simp [hactions], rfl⟩)
    rw [← Finset.card_erase_of_mem htarget]
    refine Finset.card_le_card fun x hx => Finset.mem_erase.mpr ?_
    exact ⟨((hleft hx).2 a mem_cons_self).symm, hsubset (hleft hx).1⟩

theorem targets_attempts (hname : CarryNames lb.backendSets) (o o' : ChangeOrders)
    {attempts : List Attempt} (hattempts : ∀ t ∈ attempts, 0 < t.taken)
    (hlength : (targets o lb spec).card ≤ attempts.length) :
    targets o' (attempts.foldl (attempt spec) lb) spec = ∅ := by
  induction attempts generalizing lb with
  | nil =>
    have hempty : targets o lb spec = ∅ := Finset.card_eq_zero.mp (Nat.le_zero.mp hlength)
    exact Finset.subset_empty.mp (hempty ▸ targets_subset hspec hinj hname o o')
  | cons t attempts ih =>
    rw [forall_mem_cons] at hattempts
    have hcard := card_targets_attempt hspec hinj hname o hattempts.1
    rw [length_cons] at hlength
    exact ih (carryNames_applyAll hname hspec fun _ => mem_of_mem_take) hattempts.2 (by omega)

end Run

/-- After as many attempts as there were actions in the beginning there is nothing left to do, if
every attempt gets through at least one. -/
theorem updateActions_attempts_eq_nil [DecidableEq RuleSet] (lib : Library RuleSet)
    (o o' : ChangeOrders) {r r' : RangeOrder.{0}} {svc : Service} {nodes : List Node}
    {subnets : List String} {sslConfig : Option SSLConfig} {versions : IpVersions}
    {spec : LBSpec RuleSet}
    (h : newLBSpec lib r r' svc nodes subnets sslConfig versions = .ok spec)
    (lb : LoadBalancerState RuleSet)
    (hname : ∀ name bs, lb.backendSets.lookup name = some bs → bs.name = name)
    (attempts : List Attempt) (hattempts : ∀ t ∈ attempts, 0 < t.taken)
    (hlength : (updateActions o lb spec).length ≤ attempts.length) :
    updateActions o' (attempts.foldl (attempt spec) lb) spec = [] := by
  have hspec : CarryNames spec.backendSets := by
    intro name bs hbs
    obtain ⟨q, v, -, -, hname, -⟩ := lookup_getBackendSets (newLBSpec_ok h).backendSets hbs
    exact hname
  have hcard : (targets o lb spec).card ≤ (updateActions o lb spec).length := by
    simpa [targets] using toFinset_card_le ((updateActions o lb spec).map Action.target)
  have hnone := targets_attempts hspec (wellNamed_of_newLBSpec h).sanitized_inj (hname _ _) o o' hattempts
    (hcard.trans hlength)
  simpa [targets] using hnone

/-- From a load balancer without listeners, in attempts that get through one action each. -/
theorem updateActions_oneByOne :
    ∃ spec, newLBSpec .simple .stored .stored webService [] [] none ipv4Only = .ok spec ∧
      updateActions {} ([⟨{}, 1⟩, ⟨{}, 1⟩].foldl (attempt spec) ⟨∅, ∅, ∅⟩) spec = [] := by
  obtain ⟨spec, h, hlength⟩ : ∃ spec,
      newLBSpec .simple .stored .stored webService [] [] none ipv4Only = .ok spec ∧
      (updateActions {} ⟨∅, ∅, ∅⟩ spec).length ≤ 2 := ⟨_, rfl, by decide +kernel⟩
  exact ⟨spec, h, updateActions_attempts_eq_nil .simple {} {} h _ (by simp) _ (by simp) hlength⟩

/-! ## References at any time -/

section References

variable {spec : LBSpec RuleSet} {lb : LoadBalancerState RuleSet} {a : Action RuleSet}

/-- Every listener names a backend set and rule sets that are there. -/
def Closed (lb : LoadBalancerState RuleSet) : Prop :=
  ∀ name l, lb.listeners.lookup name = some l →
    l.defaultBackendSetName ∈ lb.backendSets ∧ ∀ r ∈ l.namedRuleSets, r ∈ lb.ruleSets

theorem Closed.apply (h : Closed lb) (hsafe : SafeAction lb a) : Closed (lb.apply a) := by
  intro name l hl
  cases a with
  | backendSet b =>
    refine ⟨?_, (h name l hl).2⟩
    have hmem := (h name l hl).1
    by_cases htype : b.actionType = .delete
    · simpa [LoadBalancerState.apply, htype, hmem] using hsafe htype name l hl
    · simp [LoadBalancerState.apply, htype, hmem]
  | listener b =>
    by_cases htype : b.actionType = .delete
    · simp only [LoadBalancerState.apply, if_pos htype, GoMap.lookup_erase_eq_ite] at hl
      exact h name l (by grind)
    · simp only [LoadBalancerState.apply, if_neg htype, GoMap.lookup_insert_eq_ite] at hl
      split at hl
      · cases hl
        exact hsafe htype
      · exact h name l hl
  | ruleSet b =>
    refine ⟨(h name l hl).1, fun r hr => ?_⟩
    have hmem := (h name l hl).2 r hr
    by_cases htype : b.actionType = .delete
    · have hne : r ≠ b.name := by
        rintro rfl
        exact hsafe htype name l hl hr
      simpa [LoadBalancerState.apply, htype, hmem] using hne
    · simp [LoadBalancerState.apply, htype, hmem]

theorem Closed.applyAll {actions : List (Action RuleSet)} (h : Closed lb)
    (hsafe : NeverDangling lb actions) : Closed (lb.applyAll actions) := by
  induction actions using List.reverseRecOn with
  | nil => exact h
  | append_singleton actions a ih =>
    obtain ⟨hbefore, hlast⟩ := neverDangling_append.mp hsafe
    rw [applyAll_concat]
    exact (ih hbefore).apply (hlast [] a [] rfl)

theorem closed_ofSpec (h : WellNamed spec) (hnamed : NamedByBackendSet spec) :
    Closed (.ofSpec spec) := by
  intro name l hl
  refine ⟨(hnamed _ _ hl).2, fun r hr => ?_⟩
  obtain ⟨ruleSets, heq, hmem⟩ := h.ruleSetNames hl r hr
  simpa [LoadBalancerState.ofSpec, heq] using hmem

/-- The load balancer is as some well-named specification asks for. -/
def Stands (lb : LoadBalancerState RuleSet) : Prop :=
  ∃ s₀ : LBSpec RuleSet, .ofSpec s₀ = lb ∧ WellNamed s₀ ∧ NamedByBackendSet s₀

theorem Stands.attempt [DecidableEq RuleSet] (hlb : Stands lb) (h : WellNamed spec)
    (hnamed : NamedByBackendSet spec) (t : Attempt) : Stands (attempt spec lb t) := by
  obtain ⟨s₀, rfl, h₀, hnamed₀⟩ := hlb
  unfold LoadBalancer.attempt
  have hsafe := (neverDangling_updateActions_iff (o := t.orders) h₀ h).mpr
    (referencesOrdered_of_namedByBackendSet hnamed₀ hnamed)
  rw [← take_append_drop t.taken (updateActions _ _ _), neverDangling_append] at hsafe
  have hclosed := (closed_ofSpec h₀ hnamed₀).applyAll hsafe.1
  have htaken (a) : a ∈ (updateActions t.orders (.ofSpec s₀) spec).take t.taken →
      a ∈ updateActions t.orders (.ofSpec s₀) spec := mem_of_mem_take
  generalize (updateActions t.orders (.ofSpec s₀) spec).take t.taken = taken at hclosed htaken ⊢
  have hedits := isEdit_listener h.sanitized_inj htaken
  have hinj : SanitizedInj (LoadBalancerState.applyAll (.ofSpec s₀) taken).listeners := by
    rw [listeners_applyAll]
    exact NormInj.editAll h₀.sanitized_inj h.sanitized_inj hedits
  refine ⟨{ spec with listeners := _, backendSets := _, ruleSets := some _ }, rfl,
    ⟨carryNames_applyAll h₀.backendSet_name h.backendSet_name htaken, fun hmem => ?_,
      hinj, fun hl r hr => ⟨_, rfl, (hclosed _ _ hl).2 r hr⟩⟩,
    fun name l hl => ⟨?_, (hclosed _ _ hl).1⟩⟩
  · obtain ⟨bs, hbs⟩ := GoMap.mem_iff_exists_lookup.mp hmem
    rcases of_lookup_backendSets h₀.backendSet_name htaken hbs with hold | hnew
    · exact h₀.sanitized_backendSet (GoMap.mem_of_lookup hold)
    · exact h.sanitized_backendSet (GoMap.mem_of_lookup hnew)
  · change (LoadBalancerState.applyAll _ taken).listeners.lookup name = some l at hl
    rw [listeners_applyAll] at hl
    rcases (of_lookup_editAll h.sanitized_inj hedits hl).1 with hold | ⟨name', hnew, hnorm⟩
    · exact (hnamed₀ name l hold).1
    · exact (hnamed name' l hnew).1.trans hnorm

end References

/-- The specification of a load balancer whose listeners are named as the backend sets. -/
def NamedAlike (spec : LBSpec RuleSet) : Prop :=
  ∃ lib r r' svc nodes subnets sslConfig versions,
    newLBSpec lib r r' svc nodes subnets sslConfig versions = .ok spec ∧
    getLoadBalancerType svc = .lb ∧ SpelledAsProtocol svc ∧ NamesAgree svc [.ipv4] ∧
    convertOciIpVersionsToOciIpFamilies versions.listenerBackendIpVersion = [.ipv4]

theorem NamedAlike.named {spec : LBSpec RuleSet} (h : NamedAlike spec) :
    WellNamed spec ∧ NamedByBackendSet spec := by
  obtain ⟨lib, r, r', svc, nodes, subnets, sslConfig, versions, hspec, htype, hspell, hagree,
    hipv4⟩ := h
  exact ⟨newLBSpec_wellNamed hspec ((newLBSpec_ok hspec).type.trans htype),
    newLBSpec_namedByBackendSet hspec htype hspell hipv4 hagree⟩

/-- Through updates to one specification after the other, each of them interrupted anywhere, no
listener ever names a backend set or a rule set that is not there. -/
theorem closed_history [DecidableEq RuleSet] {spec₀ : LBSpec RuleSet} (h₀ : NamedAlike spec₀)
    (history : List (LBSpec RuleSet × Attempt)) (hhistory : ∀ t ∈ history, NamedAlike t.1) :
    Closed (history.foldl (fun lb t => attempt t.1 lb t.2) (.ofSpec spec₀)) := by
  have hstands : ∀ lb, Stands lb → Stands (history.foldl (fun lb t => attempt t.1 lb t.2) lb) := by
    induction history with
    | nil => exact fun _ h => h
    | cons t history ih =>
      rw [forall_mem_cons] at hhistory
      intro lb hlb
      obtain ⟨h, hnamed⟩ := hhistory.1.named
      exact ih hhistory.2 _ (hlb.attempt h hnamed t.2)
  obtain ⟨spec, hspec, h, hnamed⟩ := hstands _ ⟨spec₀, rfl, h₀.named⟩
  rw [← hspec]
  exact closed_ofSpec h hnamed

/-- A port is added, taken away again before it is done, and added once more. -/
theorem closed_webService :
    ∃ spec₀ spec₁,
      newLBSpec .simple .stored .stored webService [] [] none ipv4Only = .ok spec₀ ∧
      newLBSpec .simple .stored .stored secureWebService [] [] none ipv4Only = .ok spec₁ ∧
      Closed ([(spec₁, ⟨{}, 1⟩), (spec₀, ⟨{}, 2⟩), (spec₁, ⟨{}, 1⟩)].foldl
        (fun lb t => attempt t.1 lb t.2) (.ofSpec spec₀)) := by
  obtain ⟨spec₀, h₀⟩ : ∃ spec, newLBSpec .simple .stored .stored webService [] [] none ipv4Only =
    .ok spec := ⟨_, rfl⟩
  obtain ⟨spec₁, h₁⟩ : ∃ spec, newLBSpec .simple .stored .stored secureWebService [] [] none
    ipv4Only = .ok spec := ⟨_, rfl⟩
  have hnamed₀ : NamedAlike spec₀ := ⟨_, _, _, _, _, _, _, _, h₀, rfl, by decide, by decide, rfl⟩
  have hnamed₁ : NamedAlike spec₁ := ⟨_, _, _, _, _, _, _, _, h₁, rfl, by decide, by decide, rfl⟩
  exact ⟨spec₀, spec₁, h₀, h₁, closed_history hnamed₀ _ (by simp [hnamed₀, hnamed₁])⟩

end OciCcm.LoadBalancer
