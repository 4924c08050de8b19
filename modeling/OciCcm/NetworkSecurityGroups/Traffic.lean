import OciCcm.NetworkSecurityGroups.Convergence

/-! # Wanted traffic is not interrupted

A run may stop after any call. Until then it has kept every rule that matches a
generated one, and it has removed a rule from a group only after all generated
rules of the group were there. This needs every group to be passed once, or else
with the same generated rules each time: a group that is both the frontend group
and a backend group loses in the one pass what the other wants.
-/

namespace OciCcm.NetworkSecurityGroups

open Go LoadBalancer List
open Program (Ensures Along exec)

/-- The rules that a run generates for a group, in all its passes over it. -/
def generatedFor (o : RangeOrder) (c : SecurityRuleComponents) (nsg : String) :
    List SecurityRule :=
  (if nsg = c.frontendNsgOcid then c.frontendRules o else []) ++
    (c.backendNsgOcids.zipIdx.filter (·.1 = nsg)).flatMap fun e => c.backendIngressRules o e.2

/-- Of the rules that a group held at first, those that match a generated rule are still
there, and if any has gone then every generated rule is there. -/
structure Uninterrupted (generated : List SecurityRule) (rules rules' : List StoredRule) :
    Prop where
  kept : ∀ r ∈ rules, findSecurityRule generated r.toSecurityRule = true → r ∈ rules'
  complete : (∃ r ∈ rules, r ∉ rules') →
    ∀ g ∈ generated, findSecurityRule (rules'.map (·.toSecurityRule)) g = true

/-- No pass removes what another pass over the same group wants. -/
abbrev PassesAgree (c : SecurityRuleComponents) : Prop :=
  c.frontendNsgOcid ∉ c.backendNsgOcids ∧ (c.backendNsgOcids.Nodup ∨ HealthChecksAgree c.ports)

theorem Uninterrupted.refl (generated : List SecurityRule) (rules : List StoredRule) :
    Uninterrupted generated rules rules where
  kept _ hr _ := hr
  complete := fun ⟨_, hr, hgone⟩ => absurd hr hgone

theorem Uninterrupted.congr {generated generated' : List SecurityRule}
    {rules rules' : List StoredRule} (h : Uninterrupted generated rules rules')
    (hsame : ∀ g, g ∈ generated ↔ g ∈ generated') : Uninterrupted generated' rules rules' where
  kept r hr hfind := by
    obtain ⟨g, hg, hkey⟩ := findSecurityRule_iff.mp hfind
    exact h.kept r hr (findSecurityRule_iff.mpr ⟨g, (hsame g).mpr hg, hkey⟩)
  complete hgone g hg := h.complete hgone g ((hsame g).mpr hg)

section Pass

variable {uid nsg : String} {Managed : Direction → Prop} {generated : List SecurityRule}
  {s s' : Cloud} {changes : List SecurityRule × List String} {adds : List SecurityRule}
  {removes : List String}

/-- In every state of a pass: what is removed is not wanted, and it is removed last. -/
theorem uninterrupted_of_phase (h : Plans uid Managed generated (s.rules nsg) changes)
    (hs : s.WellFormed) (hphase : Phase changes.1 changes.2 adds removes)
    (hchanged : Changed s nsg adds removes s') :
    Uninterrupted generated (s.rules nsg) (s'.rules nsg) := by
  obtain ⟨ids, hlen, -, -, -, hrules⟩ := hchanged.rules
  have hsub : ∀ id ∈ removes, id ∈ changes.2 := by
    rcases hphase with ⟨-, rfl⟩ | ⟨-, hremoves⟩
    · simp
    · exact fun id hid => hremoves.subset hid
  have hkept : ∀ r ∈ s.rules nsg, findSecurityRule generated r.toSecurityRule = true →
      r ∈ s'.rules nsg := by
    intro r hr hfind
    rw [hrules]
    refine mem_append_left _ (mem_filter.mpr ⟨hr, decide_eq_true fun hid => ?_⟩)
    rw [(h.of_mem_remove hs hr (hsub _ hid)).2] at hfind
    cases hfind
  refine ⟨hkept, fun ⟨r, hr, hgone⟩ g hg => ?_⟩
  -- a rule has gone, so the removals have begun and the additions are complete
  have hadds : adds = changes.1 := by
    rcases hphase with ⟨-, rfl⟩ | ⟨hadds, -⟩
    · refine absurd ?_ hgone
      rw [hrules]
      exact mem_append_left _ (by simpa using hr)
    · exact hadds
  subst hadds
  by_cases hold : ∃ r ∈ s.rules nsg, r.description = some uid ∧
      ruleKey r.toSecurityRule = ruleKey g
  · obtain ⟨r, hr, -, hkey⟩ := hold
    have hmem := hkept r hr (findSecurityRule_iff.mpr ⟨g, hg, hkey.symm⟩)
    exact findSecurityRule_iff.mpr ⟨_, mem_map_of_mem hmem, hkey⟩
  · push Not at hold
    have hadd : g ∈ changes.1 := (h.add_iff g).mpr ⟨hg, hold⟩
    rw [← map_toSecurityRule_store hlen] at hadd
    refine findSecurityRule_of_mem ?_
    rw [hrules, map_append]
    exact mem_append_right _ hadd

end Pass

section Runs

variable {o : RangeOrder} {c : SecurityRuleComponents} {s : Cloud} {nsg : String}
  {adds : List SecurityRule} {removes : List String} {i : Nat} {passed after : List (String × Nat)}

theorem mem_generatedFor_frontend (h : c.frontendNsgOcid ∉ c.backendNsgOcids)
    (g : SecurityRule) : g ∈ c.frontendRules o ↔ g ∈ generatedFor o c c.frontendNsgOcid := by
  have hnone : c.backendNsgOcids.zipIdx.filter (·.1 = c.frontendNsgOcid) = [] := by
    refine filter_eq_nil_iff.mpr fun e he heq => h ?_
    rw [← of_decide_eq_true heq]
    exact fst_mem_of_mem_zipIdx he
  rw [generatedFor, if_pos rfl, hnone, flatMap_nil, append_nil]

theorem mem_generatedFor_backend (h : PassesAgree c) (hmem : (nsg, i) ∈ c.backendNsgOcids.zipIdx)
    (g : SecurityRule) :
    g ∈ c.backendIngressRules o i ↔ g ∈ generatedFor o c nsg := by
  have hne : nsg ≠ c.frontendNsgOcid := fun heq => h.1 (heq ▸ fst_mem_of_mem_zipIdx hmem)
  rw [generatedFor, if_neg hne, nil_append, mem_flatMap]
  constructor
  · intro hg
    exact ⟨(nsg, i), mem_filter.mpr ⟨hmem, by simp⟩, hg⟩
  · rintro ⟨⟨nsg', j⟩, hj, hg⟩
    obtain ⟨hmem', heq⟩ := mem_filter.mp hj
    obtain rfl : nsg' = nsg := of_decide_eq_true heq
    rcases h.2 with hnodup | hagree
    · rw [mk_mem_zipIdx_iff_getElem?] at hmem hmem'
      obtain ⟨_, hi⟩ := List.getElem?_eq_some_iff.mp hmem
      obtain ⟨_, hj⟩ := List.getElem?_eq_some_iff.mp hmem'
      rwa [hnodup.getElem_inj_iff.mp (hj.trans hi.symm)] at hg
    · exact mem_backendIngressRules_congr hagree hg

theorem not_mem_of_nodup_split {α : Type} {xs : List α} {before after : List (α × Nat)} {x : α}
    (hnodup : xs.Nodup) (hsplit : xs.zipIdx = before ++ (x, i) :: after) :
    x ∉ before.map Prod.fst := by
  have hxs : xs = before.map Prod.fst ++ x :: after.map Prod.fst := by
    rw [← zipIdx_map_fst 0 xs, hsplit, map_append, map_cons]
  rw [hxs] at hnodup
  exact fun hmem => (nodup_append.mp hnodup).2.2 x hmem x mem_cons_self rfl

/-- What holds between the passes: the passes so far have reached what they are for, nothing
has been interrupted, and groups not yet passed are as they were. -/
structure Between (o : RangeOrder) (c : SecurityRuleComponents) (s₀ : Cloud)
    (passed : List (String × Nat)) (s : Cloud) : Prop where
  reached : Reached o c s₀ passed s
  uninterrupted : ∀ nsg, Uninterrupted (generatedFor o c nsg) (s₀.rules nsg) (s.rules nsg)
  unchanged : ∀ nsg, nsg ≠ c.frontendNsgOcid → nsg ∉ passed.map Prod.fst →
    s.rules nsg = s₀.rules nsg

theorem uninterrupted_of_changed {s₁ s₂ : Cloud}
    (h : ∀ nsg, Uninterrupted (generatedFor o c nsg) (s.rules nsg) (s₁.rules nsg))
    (hchanged : Changed s₁ nsg adds removes s₂)
    (hself : Uninterrupted (generatedFor o c nsg) (s.rules nsg) (s₂.rules nsg)) (nsg' : String) :
    Uninterrupted (generatedFor o c nsg') (s.rules nsg') (s₂.rules nsg') := by
  by_cases heq : nsg' = nsg
  · rw [heq]
    exact hself
  · rw [hchanged.rules_of_ne nsg' heq]
    exact h nsg'

theorem uninterrupted_frontendPass (hagree : PassesAgree c) (hs : s.WellFormed) {s' : Cloud}
    (hphase : Phase (frontendPlan o c s).1 (frontendPlan o c s).2 adds removes)
    (hchanged : Changed s c.frontendNsgOcid adds removes s') (nsg : String) :
    Uninterrupted (generatedFor o c nsg) (s.rules nsg) (s'.rules nsg) :=
  uninterrupted_of_changed (fun _ => .refl _ _) hchanged
    ((uninterrupted_of_phase (plans_frontendPlan o c s) hs hphase hchanged).congr
      (mem_generatedFor_frontend hagree.1)) nsg

/-- The states of a pass over a backend group. -/
theorem Between.uninterrupted_backendPass {s₀ s' : Cloud} (h : Between o c s₀ passed s)
    (hagree : PassesAgree c) (hsplit : c.backendNsgOcids.zipIdx = passed ++ (nsg, i) :: after)
    (hphase : Phase (backendPlan o c nsg i s).1 (backendPlan o c nsg i s).2 adds removes)
    (hchanged : Changed s nsg adds removes s') (nsg' : String) :
    Uninterrupted (generatedFor o c nsg') (s₀.rules nsg') (s'.rules nsg') := by
  have hmem : (nsg, i) ∈ c.backendNsgOcids.zipIdx :=
    hsplit ▸ mem_append_right _ mem_cons_self
  have hne : nsg ≠ c.frontendNsgOcid := fun heq =>
    hagree.1 (heq ▸ fst_mem_of_mem_zipIdx hmem)
  have hplans := plans_backendPlan o c nsg i s
  refine uninterrupted_of_changed h.uninterrupted hchanged ?_ nsg'
  by_cases hpassed : nsg ∈ passed.map Prod.fst
  · -- the pass over a group that is listed again finds its rules as generated
    obtain ⟨⟨_, j⟩, hj, rfl⟩ := mem_map.mp hpassed
    have hports := hagree.2.resolve_left fun hnodup => not_mem_of_nodup_split hnodup hsplit hpassed
    have hmatches := ((h.reached.backends _ hj).2 hports).congr
      (mem_backendIngressRules_iff hports o o j i)
    obtain ⟨hadd, hremove⟩ := hmatches.changes_eq hplans
    obtain ⟨rfl, rfl⟩ : adds = [] ∧ removes = [] := by
      rw [hadd, hremove] at hphase
      exact hphase.elim (fun h => ⟨prefix_nil.mp h.1, h.2⟩) fun h =>
        ⟨h.1, prefix_nil.mp h.2⟩
    rw [hchanged.rules_eq]
    exact h.uninterrupted _
  · rw [← h.unchanged nsg hne hpassed]
    exact (uninterrupted_of_phase hplans h.reached.wellFormed hphase hchanged).congr
      (mem_generatedFor_backend hagree hmem)

theorem Between.pass {s₀ s' : Cloud} (h : Between o c s₀ passed s) (hagree : PassesAgree c)
    (hsplit : c.backendNsgOcids.zipIdx = passed ++ (nsg, i) :: after) (hid : nsg ≠ "")
    (hchanged : Changed s nsg (backendPlan o c nsg i s).1 (backendPlan o c nsg i s).2 s') :
    Between o c s₀ (passed ++ [(nsg, i)]) s' := by
  have hne : nsg ≠ c.frontendNsgOcid := fun heq => hagree.1
    (heq ▸ fst_mem_of_mem_zipIdx (hsplit ▸ mem_append_right _ mem_cons_self))
  refine ⟨h.reached.pass hne hid hchanged,
    h.uninterrupted_backendPass hagree hsplit (.inr ⟨rfl, prefix_rfl⟩) hchanged,
    fun nsg' hne' hnot => ?_⟩
  rw [map_append, mem_append, not_or] at hnot
  rw [hchanged.rules_of_ne nsg' fun heq => hnot.2 (by simp [heq])]
  exact h.unchanged nsg' hne' hnot.1

theorem ensures_uninterrupted (hagree : PassesAgree c) (hs : s.WellFormed) :
    Ensures serve Legal (fun _ _ s' => ∀ nsg, Uninterrupted (generatedFor o c nsg) (s.rules nsg)
      (s'.rules nsg)) (fun _ _ => True) (reconcileSecurityGroup o c) s := by
  refine Ensures.bind (ensures_frontendPass (fun _ _ _ => id) hs ⟨fun _ _ _ => .refl _ _,
    fun _ _ _ _ hwrite => ?_, fun s₁ hid hchanged => ?_,
    fun _ _ _ _ _ _ _ => trivial⟩)
  · obtain ⟨_, _, hphase, hchanged⟩ := hwrite.exists_phase
    exact uninterrupted_frontendPass hagree hs hphase hchanged
  have h₁ : Between o c s [] s₁ := ⟨.of_changed hs hid hchanged,
    uninterrupted_frontendPass hagree hs (.inr ⟨rfl, prefix_rfl⟩) hchanged,
    fun nsg hne _ => hchanged.rules_of_ne nsg hne⟩
  refine @Ensures.forM _ _ _ _ _ serve Legal _ s₁ _ _ _ _ (Between o c s) h₁ ?_
    (fun _ _ => trivial)
  rintro passed ⟨nsg, i⟩ after s₂ hsplit h₂
  refine ensures_backendPass (fun _ _ _ => id) h₂.reached.wellFormed ⟨fun _ _ => h₂.uninterrupted,
    fun _ _ _ _ hwrite => ?_, fun s₃ hid => h₂.pass hagree hsplit hid,
    fun _ _ _ _ _ _ _ => trivial⟩
  obtain ⟨_, _, hphase, hchanged⟩ := hwrite.exists_phase
  exact h₂.uninterrupted_backendPass hagree hsplit hphase hchanged

end Runs

/-- After every call of a run in which the passes agree, whichever calls fail, no wanted rule
has been removed, and no rule at all before every generated rule of its group was there. -/
theorem uninterrupted_exec (c : SecurityRuleComponents) (hagree : PassesAgree c) (s : Cloud)
    (hs : s.WellFormed) (o : RangeOrder) (fs : List Reply)
    (halong : Along serve Legal (reconcileSecurityGroup o c) s fs) (nsg : String) :
    Uninterrupted (generatedFor o c nsg) (s.rules nsg)
      ((exec serve (reconcileSecurityGroup o c) s fs).1.rules nsg) :=
  (ensures_uninterrupted hagree hs).inv_exec (fun _ => .refl _ _) halong nsg

/-- The group `shared` holds the rule of a service for its listener port and one for a port
that it no longer uses. -/
def stocked : Cloud where
  nsgs := GoMap.ofPairs [
    ("shared", ⟨"", "", ∅, "", [
      ⟨makeNsgSecurityRule .ingress "0.0.0.0/0" "service-uid-1" 80 .cidrBlock, "1"⟩,
      ⟨makeNsgSecurityRule .ingress "0.0.0.0/0" "service-uid-1" 8080 .cidrBlock, "2"⟩]⟩),
    ("backend", ⟨"", "", ∅, "", []⟩)]
  loadBalancers := ∅
  issued := ["1", "2"]
  retryTokens := ∅

/-- A service with one port whose frontend group is `shared`. -/
def onePort (backendNsgOcids : List String) : SecurityRuleComponents where
  frontendNsgOcid := "shared"
  backendNsgOcids
  ports := GoMap.ofPairs [("TCP-80", ⟨80, 30080, 10256⟩)]
  sourceCIDRs := ["0.0.0.0/0"]
  isPreserveSource := false
  serviceUid := "service-uid-1"

/-- The replies to a run of it: the two lists of the frontend group, an addition and a removal,
and the same for the backend group, whose removal may fail. -/
def onePortReplies (backend : List Reply) : List Reply :=
  [.ok, .ok, .ok, { ids := ["3", "4"] }, .ok, .ok, .ok] ++ backend

theorem uninterrupted_onePort :
    Uninterrupted (generatedFor .stored (onePort ["backend"]) "shared") (stocked.rules "shared")
      ((exec serve (reconcileSecurityGroup .stored (onePort ["backend"])) stocked
        (onePortReplies [{ error := some (.other "timeout"), ids := ["5", "6"] }])).1.rules
        "shared") :=
  uninterrupted_exec (onePort ["backend"]) (by decide) stocked (by decide +kernel) .stored _
    (by decide +kernel) "shared"

/-- The frontend group is also a backend group: the second pass removes the rule for the
listener port, which the first pass wants. -/
theorem interrupted_onePort :
    Along serve Legal (reconcileSecurityGroup .stored (onePort ["shared"])) stocked
      (onePortReplies [{ ids := ["5", "6"] }, .ok]) ∧
    ¬ Uninterrupted (generatedFor .stored (onePort ["shared"]) "shared") (stocked.rules "shared")
      ((exec serve (reconcileSecurityGroup .stored (onePort ["shared"])) stocked
        (onePortReplies [{ ids := ["5", "6"] }, .ok])).1.rules "shared") := by
  refine ⟨by decide +kernel, fun h => ?_⟩
  exact absurd (h.kept _ mem_cons_self (by decide +kernel)) (by decide +kernel)

end OciCcm.NetworkSecurityGroups
