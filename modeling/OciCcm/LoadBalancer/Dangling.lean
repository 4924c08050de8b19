import OciCcm.LoadBalancer.ActionOrder
import OciCcm.LoadBalancer.Closure
import OciCcm.LoadBalancer.Edits
import OciCcm.LoadBalancer.Names

/-! # References of listeners while a load balancer is updated

A listener names a default backend set and rule sets. The actions towards a new
specification are taken one at a time. This file says exactly when no step
leaves a listener that names something which does not exist.
-/

namespace OciCcm.LoadBalancer

open Go Kubernetes LoadBalancer.Action List GoMap

variable {RuleSet : Type}

/-- An action does not make or leave a dangling reference: a listener is created or updated
only if what it names exists, and nothing is deleted that a listener names. -/
def SafeAction (lb : LoadBalancerState RuleSet) : Action RuleSet → Prop
  | .listener a => a.actionType ≠ .delete →
      a.listener.defaultBackendSetName ∈ lb.backendSets ∧
        ∀ r ∈ a.listener.namedRuleSets, r ∈ lb.ruleSets
  | .backendSet a => a.actionType = .delete →
      ∀ name l, lb.listeners.lookup name = some l → l.defaultBackendSetName ≠ a.name
  | .ruleSet a => a.actionType = .delete →
      ∀ name l, lb.listeners.lookup name = some l → a.name ∉ l.namedRuleSets

/-- Every action of a run is safe at the moment it is taken. -/
def NeverDangling (lb : LoadBalancerState RuleSet) (actions : List (Action RuleSet)) : Prop :=
  ∀ before a after, actions = before ++ a :: after → SafeAction (lb.applyAll before) a

theorem neverDangling_append {lb : LoadBalancerState RuleSet} {xs ys : List (Action RuleSet)} :
    NeverDangling lb (xs ++ ys) ↔ NeverDangling lb xs ∧ NeverDangling (lb.applyAll xs) ys := by
  constructor
  · intro h
    refine ⟨fun before a after heq => h before a (after ++ ys) (by simp [heq]), ?_⟩
    intro before a after heq
    have hsafe := h (xs ++ before) a after (by simp [heq])
    rwa [LoadBalancerState.applyAll, foldl_append] at hsafe
  · rintro ⟨hxs, hys⟩ before a after heq
    rcases append_eq_append_iff.mp heq with ⟨mid, rfl, hmid⟩ | ⟨mid, rfl, hmid⟩
    · have hsafe := hys mid a after hmid
      rwa [LoadBalancerState.applyAll, LoadBalancerState.applyAll, ← foldl_append] at hsafe
    · cases mid with
      | nil =>
        rw [append_nil] at hxs hys
        exact hys [] a after hmid.symm
      | cons b mid =>
        obtain ⟨rfl, -⟩ := List.cons.inj hmid
        exact hxs before _ mid rfl

/-! ## Backend sets and listeners -/

section Main

variable {o : ChangeOrders} {s₀ s₁ : LBSpec RuleSet} {b : BackendSetAction} {a : ListenerAction}

/-- The actions on backend sets and listeners. -/
def mainActions (o : ChangeOrders) (s₀ s₁ : LBSpec RuleSet) : List (Action RuleSet) :=
  sortedActions (getBackendSetChanges o.backendSets s₀.backendSets s₁.backendSets)
    (getListenerChanges o.listeners s₀.listeners s₁.listeners s₁.ruleSets)

theorem backendSet_mem_mainActions :
    .backendSet b ∈ mainActions o s₀ s₁ ↔
      b ∈ getBackendSetChanges o.backendSets s₀.backendSets s₁.backendSets := by
  simp [mainActions, mem_sortedActions]

theorem listener_mem_mainActions :
    .listener a ∈ mainActions o s₀ s₁ ↔
      a ∈ getListenerChanges o.listeners s₀.listeners s₁.listeners s₁.ruleSets := by
  simp [mainActions, mem_sortedActions]

theorem ruleSet_notMem_mainActions (a : RuleSetAction RuleSet) :
    .ruleSet a ∉ mainActions o s₀ s₁ := by
  simp [mainActions, mem_sortedActions]

theorem sanitized_of_mem_backendSetChanges (h₀ : WellNamed s₀) (h₁ : WellNamed s₁)
    (hb : b ∈ getBackendSetChanges o.backendSets s₀.backendSets s₁.backendSets) :
    getSanitizedName b.name = b.name := by
  rcases mem_getBackendSetChanges.mp hb with ⟨name, bs, hbs, -, rfl⟩ |
    ⟨name, bs, bs', hbs, -, -, rfl⟩ | ⟨name, bs, -, hbs, rfl⟩
  · obtain rfl : bs.name = name := h₀.backendSet_name hbs
    exact h₀.sanitized_backendSet (mem_of_lookup hbs)
  · exact h₀.sanitized_backendSet (mem_of_lookup hbs)
  · exact h₁.sanitized_backendSet (mem_of_lookup hbs)

theorem exists_delete_iff (h₀ : WellNamed s₀) {name : String} :
    (∃ b, .backendSet b ∈ mainActions o s₀ s₁ ∧ b.name = name ∧ b.actionType = .delete) ↔
      name ∈ s₀.backendSets ∧ name ∉ s₁.backendSets := by
  constructor
  · rintro ⟨b, hb, rfl, hdel⟩
    rcases mem_getBackendSetChanges.mp (backendSet_mem_mainActions.mp hb) with
      ⟨name, bs, hbs, hno, rfl⟩ | ⟨name, bs, bs', -, -, -, rfl⟩ | ⟨name, bs, -, -, rfl⟩
    · obtain rfl : bs.name = name := h₀.backendSet_name hbs
      exact ⟨mem_of_lookup hbs, hno⟩
    · cases hdel
    · cases hdel
  · rintro ⟨hmem, hno⟩
    obtain ⟨bs, hbs⟩ := mem_iff_exists_lookup.mp hmem
    exact ⟨.ofDelete bs, backendSet_mem_mainActions.mpr
      (mem_getBackendSetChanges.mpr (.inl ⟨_, bs, hbs, hno, rfl⟩)), h₀.backendSet_name hbs, rfl⟩

theorem mainActions_sorted (h₀ : WellNamed s₀) (h₁ : WellNamed s₁) :
    (mainActions o s₀ s₁).Pairwise fun a b => a.key ≤ b.key := by
  refine sortedActions_sorted ?_ (pairwise_getListenerChanges h₀.sanitized_inj h₁.sanitized_inj)
  refine (pairwise_getBackendSetChanges h₀.backendSet_name).imp_of_mem fun ha hb hne => ?_
  rw [sanitized_of_mem_backendSetChanges h₀ h₁ ha, sanitized_of_mem_backendSetChanges h₀ h₁ hb]
  exact hne

theorem backendSet_unique (h₀ : WellNamed s₀) {b b' : BackendSetAction}
    (hb : .backendSet b ∈ mainActions o s₀ s₁) (hb' : .backendSet b' ∈ mainActions o s₀ s₁)
    (hname : b.name = b'.name) : b = b' := by
  refine inj_on_of_nodup_map ?_ (backendSet_mem_mainActions.mp hb)
    (backendSet_mem_mainActions.mp hb') hname
  exact pairwise_map.mpr (pairwise_getBackendSetChanges h₀.backendSet_name)

theorem listener_unique (h₀ : WellNamed s₀) (h₁ : WellNamed s₁) {a a' : ListenerAction}
    (ha : .listener a ∈ mainActions o s₀ s₁) (ha' : .listener a' ∈ mainActions o s₀ s₁)
    (hname : getSanitizedName a.name = getSanitizedName a'.name) : a = a' := by
  refine inj_on_of_nodup_map (f := fun a : ListenerAction => getSanitizedName a.name) ?_
    (listener_mem_mainActions.mp ha) (listener_mem_mainActions.mp ha') hname
  exact pairwise_map.mpr (pairwise_getListenerChanges h₀.sanitized_inj h₁.sanitized_inj)

variable {lb : LoadBalancerState RuleSet} {before after : List (Action RuleSet)}

/-- What is needed when a backend set is deleted: the listeners that name it are deleted
before. -/
def DeletedAfterListeners (s₀ s₁ : LBSpec RuleSet) (name : String) : Prop :=
  ∀ name₀ l, s₀.listeners.lookup name₀ = some l → l.defaultBackendSetName = name →
    (∀ name₁ ∈ s₁.listeners, getSanitizedName name₁ ≠ getSanitizedName name₀) ∧
      getSanitizedName name₀ ≤ name

theorem safeAction_deleteBackendSet_iff (h₀ : WellNamed s₀) (h₁ : WellNamed s₁)
    (hlb : lb.listeners = s₀.listeners) (htype : b.actionType = .delete)
    (hsplit : mainActions o s₀ s₁ = before ++ .backendSet b :: after) :
    SafeAction (lb.applyAll before) (.backendSet b) ↔ DeletedAfterListeners s₀ s₁ b.name := by
  have hsub : ∀ {a}, a ∈ before → a ∈ mainActions o s₀ s₁ := by
    intro a ha
    rw [hsplit]
    exact mem_append_left _ ha
  have hb : .backendSet b ∈ mainActions o s₀ s₁ := by
    rw [hsplit]
    simp
  have hsanitized := sanitized_of_mem_backendSetChanges h₀ h₁ (backendSet_mem_mainActions.mp hb)
  have hsorted := mainActions_sorted (o := o) h₀ h₁
  have hlisteners : ∀ {name l}, (lb.applyAll before).listeners.lookup name = some l ↔ _ :=
    lookup_listeners_applyAll fun a a' ha ha' hname =>
      listener_unique h₀ h₁ (hsub ha) (hsub ha') (congrArg _ hname)
  -- only deletions come before a deletion
  have hdelete : ∀ {a : ListenerAction}, .listener a ∈ before → a.actionType = .delete ∧
      getSanitizedName a.name ≤ b.name := by
    intro a ha
    rcases key_le.mp (key_le_of_mem_before hsorted hsplit ha) with ⟨-, hb⟩ | ⟨hiff, hle⟩
    · exact absurd htype hb
    · refine ⟨hiff.mpr htype, ?_⟩
      rw [← hsanitized]
      rcases nameKey_le.mp hle with hlt | ⟨heq, -⟩
      · exact hlt.le
      · exact heq.le
  constructor
  · intro hsafe name₀ l hl hdefault
    have hno := mt (hsafe htype name₀ l) (not_not.mpr hdefault)
    rw [hlisteners, not_or, not_and, hlb] at hno
    obtain ⟨a, ha, rfl⟩ : ∃ a, .listener a ∈ before ∧ a.name = name₀ := by
      by_contra hnone
      exact hno.2 hl fun a ha heq => hnone ⟨a, ha, heq⟩
    obtain ⟨hdel, hle⟩ := hdelete ha
    refine ⟨?_, hle⟩
    rcases (mem_getListenerChanges h₁.sanitized_inj).mp (listener_mem_mainActions.mp (hsub ha)) with
      ⟨name, l, -, hnone, rfl⟩ | ⟨name, name', l, l', -, -, -, -, rfl⟩ | ⟨name, l, -, -, rfl⟩
    · exact hnone
    · cases hdel
    · cases hdel
  · intro hcond _ name₀ l hl hdefault
    rcases hlisteners.mp hl with ⟨a, ha, -, hdel, -⟩ | ⟨hl, hnone⟩
    · exact hdel (hdelete ha).1
    rw [hlb] at hl
    obtain ⟨hgone, hle⟩ := hcond name₀ l hl hdefault
    have hmem : .listener (.ofDelete name₀ l) ∈ mainActions o s₀ s₁ :=
      listener_mem_mainActions.mpr
        ((mem_getListenerChanges h₁.sanitized_inj).mpr (.inl ⟨name₀, l, hl, hgone, rfl⟩))
    refine hnone _ (mem_before_of_lt hsorted hsplit hmem ?_) rfl
    refine key_lt.mpr (.inr ⟨iff_of_true rfl htype, nameKey_lt.mpr ?_⟩)
    rcases hle.lt_or_eq with hlt | heq
    · exact .inl (hlt.trans_eq hsanitized.symm)
    · exact .inr ⟨heq.trans hsanitized.symm, Nat.zero_lt_one⟩

/-- What is needed when a listener is created or updated: its backend set existed before and
stays, or is created earlier. -/
def DefaultExists (s₀ s₁ : LBSpec RuleSet) (a : ListenerAction) : Prop :=
  a.listener.defaultBackendSetName ∈ s₁.backendSets ∧
    (a.listener.defaultBackendSetName ∈ s₀.backendSets ∨
      a.listener.defaultBackendSetName < getSanitizedName a.name ∨
      (a.listener.defaultBackendSetName = getSanitizedName a.name ∧ a.actionType = .create))

theorem safeAction_listener_iff (h₀ : WellNamed s₀) (h₁ : WellNamed s₁)
    (hlb : lb.backendSets = s₀.backendSets) (htype : a.actionType ≠ .delete)
    (hrules : ∀ r ∈ a.listener.namedRuleSets, r ∈ lb.ruleSets)
    (hsplit : mainActions o s₀ s₁ = before ++ .listener a :: after) :
    SafeAction (lb.applyAll before) (.listener a) ↔ DefaultExists s₀ s₁ a := by
  have hsub : ∀ {a}, a ∈ before → a ∈ mainActions o s₀ s₁ := by
    intro a ha
    rw [hsplit]
    exact mem_append_left _ ha
  have hsorted := mainActions_sorted (o := o) h₀ h₁
  have hruleSets : (lb.applyAll before).ruleSets = lb.ruleSets :=
    ruleSets_applyAll_of_notMem fun r hr => ruleSet_notMem_mainActions r (hsub hr)
  have hsafe : SafeAction (lb.applyAll before) (.listener a) ↔
      a.listener.defaultBackendSetName ∈ (lb.applyAll before).backendSets := by
    refine ⟨fun h => (h htype).1, fun h _ => ⟨h, ?_⟩⟩
    rw [hruleSets]
    exact hrules
  rw [hsafe, mem_backendSets_applyAll fun b b' hb hb' => backendSet_unique h₀ (hsub hb) (hsub hb'),
    hlb]
  constructor
  · rintro (⟨b, hb, hname, hdel⟩ | ⟨hmem, hstays⟩)
    · have hchange := backendSet_mem_mainActions.mp (hsub hb)
      have hsanitized := sanitized_of_mem_backendSetChanges h₀ h₁ hchange
      rw [DefaultExists, ← hname]
      rcases mem_getBackendSetChanges.mp hchange with ⟨name, bs, -, -, rfl⟩ |
        ⟨name, bs, bs', hbs, hbs', -, rfl⟩ | ⟨name, bs, -, hbs, rfl⟩
      · exact absurd rfl hdel
      · exact ⟨mem_of_lookup hbs', .inl (mem_of_lookup hbs)⟩
      · refine ⟨mem_of_lookup hbs, .inr ?_⟩
        rcases key_le.mp (key_le_of_mem_before hsorted hsplit hb) with ⟨hd, -⟩ | ⟨-, hle⟩
        · cases hd
        rcases nameKey_le.mp hle with hlt | ⟨heq, hrank⟩
        · exact .inl (hsanitized ▸ hlt)
        · refine .inr ⟨hsanitized ▸ heq, ?_⟩
          by_contra hcreate
          simp [rank, hcreate] at hrank
    · refine ⟨?_, .inl hmem⟩
      by_contra hno
      obtain ⟨b, hb, hname, hdel⟩ := (exists_delete_iff (o := o) h₀).mpr ⟨hmem, hno⟩
      refine hstays b (mem_before_of_lt hsorted hsplit hb ?_) hname hdel
      exact key_lt.mpr (.inl ⟨hdel, htype⟩)
  · rintro ⟨hmem₁, hcases⟩
    by_cases hmem₀ : a.listener.defaultBackendSetName ∈ s₀.backendSets
    · refine .inr ⟨hmem₀, fun b hb hname hdel => ?_⟩
      exact ((exists_delete_iff h₀).mp ⟨b, hsub hb, hname, hdel⟩).2 hmem₁
    · obtain ⟨bs, hbs⟩ := mem_iff_exists_lookup.mp hmem₁
      have hchange := mem_getBackendSetChanges (o := o.backendSets).mpr
        (.inr (.inr ⟨_, bs, hmem₀, hbs, rfl⟩))
      have hsanitized := sanitized_of_mem_backendSetChanges h₀ h₁ hchange
      refine .inl ⟨_, mem_before_of_lt hsorted hsplit
        (backendSet_mem_mainActions.mpr hchange) ?_, rfl, by rintro ⟨⟩⟩
      refine key_lt.mpr (.inr
        ⟨iff_of_false (by rintro ⟨⟩) htype, nameKey_lt.mpr ?_⟩)
      rcases hcases.resolve_left hmem₀ with hlt | ⟨heq, hcreate⟩
      · exact .inl (hsanitized.trans_lt hlt)
      · refine .inr ⟨hsanitized.trans heq, ?_⟩
        simp [rank, hcreate]

end Main

/-- The condition on two specifications under which the actions are taken in a good order. -/
structure ReferencesOrdered (s₀ s₁ : LBSpec RuleSet) : Prop where
  deleted : ∀ name ∈ s₀.backendSets, name ∉ s₁.backendSets → DeletedAfterListeners s₀ s₁ name
  created : ∀ name l, s₁.listeners.lookup name = some l →
    (∀ name₀ ∈ s₀.listeners, getSanitizedName name₀ ≠ getSanitizedName name) →
    DefaultExists s₀ s₁ (.ofCreate name l)
  updated : ∀ name name₁ l l₁, s₀.listeners.lookup name = some l →
    s₁.listeners.lookup name₁ = some l₁ → getSanitizedName name₁ = getSanitizedName name →
    hasListenerChanged l l₁ s₁.ruleSets → DefaultExists s₀ s₁ (.ofUpdate name l₁)

section Whole

variable {o : ChangeOrders} {s₀ s₁ : LBSpec RuleSet} {lb : LoadBalancerState RuleSet}
  {actions : List (Action RuleSet)} {ruleSets : GoMap RuleSet}

theorem lookup_of_mem_listenerChanges (h₁ : WellNamed s₁) {a : ListenerAction}
    (ha : .listener a ∈ mainActions o s₀ s₁) (htype : a.actionType ≠ .delete) :
    ∃ name, s₁.listeners.lookup name = some a.listener := by
  rcases (mem_getListenerChanges h₁.sanitized_inj).mp (listener_mem_mainActions.mp ha) with
    ⟨name, l, -, -, rfl⟩ | ⟨name, name', l, l', -, hl', -, -, rfl⟩ | ⟨name, l, -, hl, rfl⟩
  · exact absurd rfl htype
  · exact ⟨name', hl'⟩
  · exact ⟨name, hl⟩

theorem neverDangling_mainActions_iff (h₀ : WellNamed s₀) (h₁ : WellNamed s₁)
    (hlisteners : lb.listeners = s₀.listeners) (hbackendSets : lb.backendSets = s₀.backendSets)
    (hruleSets : ∀ ruleSets, s₁.ruleSets = some ruleSets → ∀ r ∈ ruleSets, r ∈ lb.ruleSets) :
    NeverDangling lb (mainActions o s₀ s₁) ↔ ReferencesOrdered s₀ s₁ := by
  have hrules : ∀ {a : ListenerAction}, .listener a ∈ mainActions o s₀ s₁ →
      a.actionType ≠ .delete → ∀ r ∈ a.listener.namedRuleSets, r ∈ lb.ruleSets := by
    intro a ha htype r hr
    obtain ⟨name, hl⟩ := lookup_of_mem_listenerChanges h₁ ha htype
    obtain ⟨ruleSets, heq, hmem⟩ := h₁.ruleSetNames hl r hr
    exact hruleSets ruleSets heq r hmem
  constructor
  · intro h
    have hdefault : ∀ {a : ListenerAction}, .listener a ∈ mainActions o s₀ s₁ →
        a.actionType ≠ .delete → DefaultExists s₀ s₁ a := by
      intro a ha htype
      obtain ⟨before, after, hsplit⟩ := append_of_mem ha
      exact (safeAction_listener_iff h₀ h₁ hbackendSets htype (hrules ha htype) hsplit).mp
        (h before _ after hsplit)
    refine ⟨fun name hmem hno => ?_, fun name l hl hnew => ?_,
      fun name name₁ l l₁ hl hl₁ heq hchanged => ?_⟩
    · obtain ⟨b, hb, rfl, hdel⟩ := (exists_delete_iff (o := o) h₀).mpr ⟨hmem, hno⟩
      obtain ⟨before, after, hsplit⟩ := append_of_mem hb
      exact (safeAction_deleteBackendSet_iff h₀ h₁ hlisteners hdel hsplit).mp
        (h before _ after hsplit)
    · refine hdefault (listener_mem_mainActions.mpr ((mem_getListenerChanges
        h₁.sanitized_inj).mpr (.inr (.inr ⟨name, l, hnew, hl, rfl⟩)))) fun h => nomatch h
    · refine hdefault (listener_mem_mainActions.mpr ((mem_getListenerChanges
        h₁.sanitized_inj).mpr (.inr (.inl ⟨name, name₁, l, l₁, hl, hl₁, heq, hchanged, rfl⟩))))
        fun h => nomatch h
  · intro h before a after hsplit
    have ha : a ∈ mainActions o s₀ s₁ := by
      rw [hsplit]
      simp
    cases a with
    | backendSet b =>
      intro htype
      refine (safeAction_deleteBackendSet_iff h₀ h₁ hlisteners htype hsplit).mpr ?_ htype
      obtain ⟨hmem, hno⟩ := (exists_delete_iff h₀).mp ⟨b, ha, rfl, htype⟩
      exact h.deleted b.name hmem hno
    | listener a =>
      intro htype
      refine (safeAction_listener_iff h₀ h₁ hbackendSets htype (hrules ha htype) hsplit).mpr ?_
        htype
      rcases (mem_getListenerChanges h₁.sanitized_inj).mp (listener_mem_mainActions.mp ha) with
        ⟨name, l, -, -, rfl⟩ | ⟨name, name', l, l', hl, hl', heq, hchanged, rfl⟩ |
        ⟨name, l, hnew, hl, rfl⟩
      · exact absurd rfl htype
      · exact h.updated name name' l l' hl hl' heq hchanged
      · exact h.created name l hl hnew
    | ruleSet r => exact absurd ha (ruleSet_notMem_mainActions r)

/-! ## Rule sets -/

/-- Creating and updating rule sets is safe and leaves everything else alone. -/
theorem applyAll_ruleSetActions (h : ∀ a ∈ actions, ∃ r, a = .ruleSet r ∧ r.actionType ≠ .delete) :
    NeverDangling lb actions ∧ (lb.applyAll actions).listeners = lb.listeners ∧
      (lb.applyAll actions).backendSets = lb.backendSets ∧
      ∀ name, (name ∈ lb.ruleSets ∨ ∃ r, .ruleSet r ∈ actions ∧ r.name = name) →
        name ∈ (lb.applyAll actions).ruleSets := by
  induction actions using List.reverseRecOn with
  | nil => exact ⟨by simp [NeverDangling], rfl, rfl, by simp [LoadBalancerState.applyAll]⟩
  | append_singleton actions a ih =>
    obtain ⟨r, rfl, htype⟩ := h a (by simp)
    obtain ⟨hnever, hlisteners, hbackendSets, hruleSets⟩ :=
      ih fun a ha => h a (mem_append_left _ ha)
    rw [applyAll_concat]
    refine ⟨neverDangling_append.mpr ⟨hnever, ?_⟩, hlisteners, hbackendSets, ?_⟩
    · intro before a after heq
      cases before with
      | nil =>
        obtain ⟨rfl, -⟩ := List.cons.inj heq
        exact fun hdel => absurd hdel htype
      | cons b before =>
        have := (List.cons.inj heq).2
        simp at this
    · intro name hname
      simp only [LoadBalancerState.apply, if_neg htype, AList.mem_insert]
      simp only [mem_append, mem_singleton, ruleSet.injEq] at hname
      rcases hname with hname | ⟨r', hr' | rfl, hname⟩
      · exact .inr (hruleSets name (.inl hname))
      · exact .inr (hruleSets name (.inr ⟨r', hr', hname⟩))
      · exact .inl hname.symm

theorem neverDangling_deleteRuleSets (h : ∀ a ∈ actions, ∃ r, a = .ruleSet r ∧
      ∀ name l, lb.listeners.lookup name = some l → r.name ∉ l.namedRuleSets) :
    NeverDangling lb actions := by
  intro before a after heq
  obtain ⟨r, rfl, hr⟩ := h a (by simp [heq])
  have hlisteners : ∀ a, .listener a ∉ before := by
    intro a ha
    obtain ⟨r', hr', -⟩ := h (.listener a) (by simp [heq, ha])
    cases hr'
  intro _
  rw [listeners_applyAll_of_notMem hlisteners]
  exact hr

theorem ruleSetNames_of_not_hasListenerChanged {l l' : Listener}
    (h : ¬hasListenerChanged l l' (some ruleSets)) :
    l.namedRuleSets.toFinset = l'.namedRuleSets.toFinset := by
  by_contra hne
  simp [hasListenerChanged, hne] at h

/-- After the actions on listeners only rule sets of the new specification are named. -/
theorem mem_ruleSets_after_mainActions (h₀ : WellNamed s₀) (h₁ : WellNamed s₁)
    (hlisteners : lb.listeners = s₀.listeners) (hruleSets : s₁.ruleSets = some ruleSets)
    {name : String} {l : Listener}
    (hl : (lb.applyAll (mainActions o s₀ s₁)).listeners.lookup name = some l) :
    ∀ r ∈ l.namedRuleSets, r ∈ ruleSets := by
  have hdesired : ∀ {name l}, s₁.listeners.lookup name = some l →
      ∀ r ∈ l.namedRuleSets, r ∈ ruleSets := by
    intro name l hl r hr
    obtain ⟨ruleSets', heq, hmem⟩ := h₁.ruleSetNames hl r hr
    rwa [Option.some.inj (hruleSets.symm.trans heq)]
  rcases (lookup_listeners_applyAll fun _ _ ha ha' hname =>
      listener_unique h₀ h₁ ha ha' (congrArg _ hname)).mp hl with
    ⟨a, ha, -, htype, rfl⟩ | ⟨hl, hnone⟩
  · obtain ⟨name, hl⟩ := lookup_of_mem_listenerChanges h₁ ha htype
    exact hdesired hl
  · rw [hlisteners] at hl
    -- no action was taken on this listener: it is wanted, and as it was
    have hkept : ∃ name₁ ∈ s₁.listeners, getSanitizedName name₁ = getSanitizedName name := by
      by_contra hno
      refine hnone (.ofDelete name l) (listener_mem_mainActions.mpr
        ((mem_getListenerChanges h₁.sanitized_inj).mpr (.inl ⟨name, l, hl, ?_, rfl⟩))) rfl
      exact fun name₁ hmem heq => hno ⟨name₁, hmem, heq⟩
    obtain ⟨name₁, hmem, heq⟩ := hkept
    obtain ⟨l₁, hl₁⟩ := mem_iff_exists_lookup.mp hmem
    have hsame : ¬hasListenerChanged l l₁ s₁.ruleSets := fun hchanged =>
      hnone (.ofUpdate name l₁) (listener_mem_mainActions.mpr
        ((mem_getListenerChanges h₁.sanitized_inj).mpr
          (.inr (.inl ⟨name, name₁, l, l₁, hl, hl₁, heq, hchanged, rfl⟩)))) rfl
    rw [hruleSets] at hsame
    intro r hr
    rw [← mem_toFinset, ruleSetNames_of_not_hasListenerChanged hsame,
      mem_toFinset] at hr
    exact hdesired hl₁ r hr

theorem neverDangling_updateActions_iff [DecidableEq RuleSet] (h₀ : WellNamed s₀)
    (h₁ : WellNamed s₁) :
    NeverDangling (.ofSpec s₀) (updateActions o (.ofSpec s₀) s₁) ↔ ReferencesOrdered s₀ s₁ := by
  obtain ⟨ruleSetActions, hactions, hnone, hsome⟩ : ∃ ruleSetActions : List (RuleSetAction RuleSet),
      updateActions o (.ofSpec s₀) s₁ =
        ((ruleSetActions.map ruleSet).filter (·.type ≠ .delete)).reverse ++
          mainActions o s₀ s₁ ++ (ruleSetActions.map ruleSet).filter (·.type = .delete) ∧
      (s₁.ruleSets = none → ruleSetActions = []) ∧
      ∀ ruleSets, s₁.ruleSets = some ruleSets →
        ruleSetActions = getRuleSetChanges o.ruleSets (s₀.ruleSets.getD ∅) ruleSets :=
    ⟨_, sortAndCombineActions_eq _, fun h => by rw [h], fun _ h => by rw [h]; rfl⟩
  have hfront : ∀ a ∈ ((ruleSetActions.map ruleSet).filter (·.type ≠ .delete)).reverse,
      ∃ r, a = .ruleSet r ∧ r.actionType ≠ .delete := by
    intro a ha
    obtain ⟨ha, htype⟩ := mem_filter.mp (mem_reverse.mp ha)
    obtain ⟨r, -, rfl⟩ := mem_map.mp ha
    exact ⟨r, rfl, of_decide_eq_true htype⟩
  obtain ⟨hsafe, hlisteners, hbackendSets, hruleSets⟩ :=
    @applyAll_ruleSetActions _ (.ofSpec s₀) _ hfront
  rw [hactions, append_assoc, neverDangling_append, neverDangling_append,
    neverDangling_mainActions_iff h₀ h₁ hlisteners hbackendSets]
  · refine ⟨fun h => h.2.1, fun h => ⟨hsafe, h, neverDangling_deleteRuleSets fun a ha => ?_⟩⟩
    obtain ⟨ha, htype⟩ := mem_filter.mp ha
    obtain ⟨r, hr, rfl⟩ := mem_map.mp ha
    refine ⟨r, rfl, fun name l hl hname => ?_⟩
    cases hdesired : s₁.ruleSets with
    | none =>
      rw [hnone hdesired] at hr
      cases hr
    | some ruleSets =>
      rw [hsome ruleSets hdesired] at hr
      exact notMem_of_delete_ruleSet hr (of_decide_eq_true htype)
        (mem_ruleSets_after_mainActions h₀ h₁ hlisteners hdesired hl _ hname)
  · intro ruleSets hdesired r hr
    refine hruleSets r ?_
    rcases mem_or_exists_create_ruleSet (o := o.ruleSets) hr with hmem | ⟨a, ha, htype, hname⟩
    · exact .inl hmem
    · refine .inr ⟨a, mem_reverse.mpr (mem_filter.mpr ⟨?_, ?_⟩), hname⟩
      · rw [hsome ruleSets hdesired]
        exact mem_map_of_mem ha
      · simp [type, htype]

end Whole

/-! ## Services -/

/-- Every listener carries the name of its backend set, up to HTTP for TCP. -/
def NamedByBackendSet (spec : LBSpec RuleSet) : Prop :=
  ∀ name l, spec.listeners.lookup name = some l →
    l.defaultBackendSetName = getSanitizedName name ∧ l.defaultBackendSetName ∈ spec.backendSets

theorem referencesOrdered_of_namedByBackendSet {s₀ s₁ : LBSpec RuleSet}
    (h₀ : NamedByBackendSet s₀) (h₁ : NamedByBackendSet s₁) : ReferencesOrdered s₀ s₁ := by
  refine ⟨?_, ?_, ?_⟩
  · rintro _ - hno name₀ l hl rfl
    obtain ⟨hname, -⟩ := h₀ name₀ l hl
    refine ⟨fun name₁ hmem heq => hno ?_, hname.ge⟩
    obtain ⟨l₁, hl₁⟩ := mem_iff_exists_lookup.mp hmem
    obtain ⟨hname₁, hbs⟩ := h₁ name₁ l₁ hl₁
    rwa [hname, ← heq, ← hname₁]
  · intro name l hl hnew
    obtain ⟨hname, hbs⟩ := h₁ name l hl
    exact ⟨hbs, .inr (.inr ⟨hname, rfl⟩)⟩
  · intro name name₁ l l₁ hl hl₁ heq hchanged
    obtain ⟨hname, hbs⟩ := h₀ name l hl
    obtain ⟨hname₁, hbs₁⟩ := h₁ name₁ l₁ hl₁
    refine ⟨hbs₁, .inl ?_⟩
    change l₁.defaultBackendSetName ∈ s₀.backendSets
    rwa [hname₁, heq, ← hname]

/-- The annotation spells the protocol as the backend sets do, or as HTTP. -/
abbrev SpelledAsProtocol (svc : Service) : Prop :=
  ∀ p ∈ svc.ports, (if equalFold (listenerSpelling svc p.protocol) "HTTP" then "TCP"
    else listenerSpelling svc p.protocol) = p.protocol.str

theorem newLBSpec_namedByBackendSet {lib : Library RuleSet} {o o' : RangeOrder.{0}}
    {svc : Service} {nodes : List Node} {subnets : List String} {sslConfig : Option SSLConfig}
    {versions : IpVersions} {spec : LBSpec RuleSet}
    (h : newLBSpec lib o o' svc nodes subnets sslConfig versions = .ok spec)
    (htype : getLoadBalancerType svc = .lb) (hspell : SpelledAsProtocol svc)
    (hipv4 : convertOciIpVersionsToOciIpFamilies versions.listenerBackendIpVersion = [.ipv4])
    (hagree : NamesAgree svc [.ipv4]) : NamedByBackendSet spec := by
  obtain ⟨-, -, -, hlisteners, -, hbackendSets, hports, -⟩ := newLBSpec_ok h
  rw [getListeners, htype] at hlisteners
  rw [hipv4] at hbackendSets hports
  have hclosed := (referenceClosed_iff_lb htype hlisteners hbackendSets hports).mpr hagree
  intro name l hl
  refine ⟨?_, (hclosed.default_mem name l hl).1⟩
  obtain ⟨p, hp, -, rfl, hdefault, -⟩ := lookup_getListenersOciLoadBalancer hlisteners hl
  rw [getSanitizedName_dashed (mem_getListenersOciLoadBalancer hlisteners hp).1, hspell p hp,
    hdefault]

/-- Everything over IPv4. -/
def ipv4Only : IpVersions where
  ipFamilies := [.ipv4]
  ipFamilyPolicy := .singleStack
  lbEndpointIpVersion := .ipv4
  listenerBackendIpVersion := [.ipv4]

def secureWebService : Service where
  ports := [⟨.tcp, 80, 30080⟩, ⟨.tcp, 443, 30443⟩]

/-- From the state of one version of a service to the next version: no reference dangles at
any step exactly if the references are ordered. -/
theorem neverDangling_iff_referencesOrdered [DecidableEq RuleSet] (lib : Library RuleSet)
    (o : ChangeOrders) {o₀ o₀' o₁ o₁' : RangeOrder.{0}} {svc₀ svc₁ : Service}
    {nodes₀ nodes₁ : List Node} {subnets₀ subnets₁ : List String}
    {sslConfig₀ sslConfig₁ : Option SSLConfig} {versions₀ versions₁ : IpVersions}
    {s₀ s₁ : LBSpec RuleSet} (htype₀ : getLoadBalancerType svc₀ = .lb)
    (htype₁ : getLoadBalancerType svc₁ = .lb)
    (h₀ : newLBSpec lib o₀ o₀' svc₀ nodes₀ subnets₀ sslConfig₀ versions₀ = .ok s₀)
    (h₁ : newLBSpec lib o₁ o₁' svc₁ nodes₁ subnets₁ sslConfig₁ versions₁ = .ok s₁) :
    NeverDangling (.ofSpec s₀) (updateActions o (.ofSpec s₀) s₁) ↔ ReferencesOrdered s₀ s₁ := by
  have hspec₀ := (newLBSpec_ok h₀).type.trans htype₀
  have hspec₁ := (newLBSpec_ok h₁).type.trans htype₁
  exact neverDangling_updateActions_iff (newLBSpec_wellNamed h₀ hspec₀)
    (newLBSpec_wellNamed h₁ hspec₁)

/-- Adding a port to a service is safe. -/
theorem webService_addPort_neverDangling :
    ∃ s₀ s₁,
      newLBSpec .simple .stored .stored webService [] [] none ipv4Only = .ok s₀ ∧
      newLBSpec .simple .stored .stored secureWebService [] [] none ipv4Only = .ok s₁ ∧
      NeverDangling (.ofSpec s₀) (updateActions {} (.ofSpec s₀) s₁) := by
  obtain ⟨s₀, h₀⟩ : ∃ s₀, newLBSpec .simple .stored .stored webService [] [] none ipv4Only =
    .ok s₀ := ⟨_, rfl⟩
  obtain ⟨s₁, h₁⟩ : ∃ s₁, newLBSpec .simple .stored .stored secureWebService [] [] none ipv4Only =
    .ok s₁ := ⟨_, rfl⟩
  refine ⟨s₀, s₁, h₀, h₁, ?_⟩
  exact (neverDangling_iff_referencesOrdered .simple {} rfl rfl h₀ h₁).mpr
    (referencesOrdered_of_namedByBackendSet
      (newLBSpec_namedByBackendSet h₀ rfl (by decide) rfl (by decide))
      (newLBSpec_namedByBackendSet h₁ rfl (by decide) rfl (by decide)))

/-- A service with the backend protocol in lower case. -/
def lowerCaseService (ports : List ServicePort) : Service where
  annotations := .ofPairs [(serviceAnnotationLoadBalancerBEProtocol, "tcp")]
  ports := ports

/-- When its port goes, the backend set is deleted before the listener that names it:
`TCP-80` sorts before `tcp-80`. -/
theorem lowerCaseService_dangling :
    ∃ s₀ s₁,
      newLBSpec .simple .stored .stored
        (lowerCaseService [⟨.tcp, 80, 30080⟩, ⟨.tcp, 443, 30443⟩]) [] [] none ipv4Only = .ok s₀ ∧
      newLBSpec .simple .stored .stored (lowerCaseService [⟨.tcp, 443, 30443⟩]) [] [] none
        ipv4Only = .ok s₁ ∧
      ¬NeverDangling (.ofSpec s₀) (updateActions {} (.ofSpec s₀) s₁) := by
  refine ⟨_, _, rfl, rfl, fun h => ?_⟩
  -- the backend set goes first
  have hfirst := h [] (.backendSet _) _ rfl
  exact hfirst rfl "tcp-80" _ rfl rfl

end OciCcm.LoadBalancer
