import OciCcm.LoadBalancer.Actions
import Mathlib.Data.Prod.Lex

/-! # The order that the sorting of actions establishes

The first comparison is not an order: two updates of one name are each less
than the other. Still the result is sorted by a proper order, because backend
sets stand before listeners in the unsorted list and a name occurs at most once
among either.
-/

namespace OciCcm.LoadBalancer

open Go LoadBalancer.Action List

variable {RuleSet : Type} {y x : Action RuleSet} {a c : Action RuleSet}
  {actions before after : List (Action RuleSet)}

namespace Action

/-- The place of an action among those of one name: a listener comes after the backend set
when it is created, and else before. -/
def rank : Action RuleSet → Nat
  | .listener a => if a.actionType = .create then 2 else 0
  | _ => 1

def nameKey (a : Action RuleSet) : String ×ₗ Nat := toLex (getSanitizedName a.name, a.rank)

/-- The key by which the actions are sorted in the end: deletions first. -/
def key (a : Action RuleSet) : Bool ×ₗ (String ×ₗ Nat) := toLex (a.type ≠ .delete, a.nameKey)

variable {a b : Action RuleSet}

theorem nameKey_le :
    a.nameKey ≤ b.nameKey ↔ getSanitizedName a.name < getSanitizedName b.name ∨
      (getSanitizedName a.name = getSanitizedName b.name ∧ a.rank ≤ b.rank) := by
  rw [nameKey, nameKey, Prod.Lex.toLex_le_toLex]

instance : IsTrans (Action RuleSet) fun a b => a.nameKey ≤ b.nameKey := ⟨fun _ _ _ => le_trans⟩

instance : IsTrans (Action RuleSet) fun a b => a.key ≤ b.key := ⟨fun _ _ _ => le_trans⟩

theorem key_le :
    a.key ≤ b.key ↔ (a.type = .delete ∧ b.type ≠ .delete) ∨
      ((a.type = .delete ↔ b.type = .delete) ∧ a.nameKey ≤ b.nameKey) := by
  rw [key, key, Prod.Lex.toLex_le_toLex]
  by_cases ha : a.type = .delete <;> by_cases hb : b.type = .delete <;> simp [ha, hb]

theorem nameKey_lt :
    a.nameKey < b.nameKey ↔ getSanitizedName a.name < getSanitizedName b.name ∨
      (getSanitizedName a.name = getSanitizedName b.name ∧ a.rank < b.rank) := by
  rw [nameKey, nameKey, Prod.Lex.toLex_lt_toLex]

theorem key_lt :
    a.key < b.key ↔ (a.type = .delete ∧ b.type ≠ .delete) ∨
      ((a.type = .delete ↔ b.type = .delete) ∧ a.nameKey < b.nameKey) := by
  rw [key, key, Prod.Lex.toLex_lt_toLex]
  by_cases ha : a.type = .delete <;> by_cases hb : b.type = .delete <;> simp [ha, hb]

end Action

/-! ## Agreement of the comparisons with the keys -/

theorem agrees_lessByName_of_ne (hne : getSanitizedName y.name ≠ getSanitizedName x.name) :
    Agrees lessByName (fun a b => a.nameKey ≤ b.nameKey) y x := by
  have hless : lessByName x y = decide (getSanitizedName x.name < getSanitizedName y.name) := by
    rw [lessByName, if_pos hne.symm]
  rw [Agrees, hless, decide_eq_true_eq]
  refine ⟨fun h => nameKey_le.mpr (.inl h), fun h => nameKey_le.mpr (.inl ?_)⟩
  exact lt_of_le_of_ne (not_lt.mp h) hne

/-- A backend set and a listener after it, perhaps of the same name. -/
theorem agrees_lessByName_listener (b : BackendSetAction) (l : ListenerAction) :
    Agrees lessByName (fun a b => a.nameKey ≤ b.nameKey)
      (.backendSet b : Action RuleSet) (.listener l) := by
  by_cases hne : getSanitizedName b.name ≠ getSanitizedName l.name
  · exact agrees_lessByName_of_ne hne
  rw [not_not] at hne
  have hrank : ∀ {x y : Action RuleSet}, getSanitizedName x.name = getSanitizedName y.name →
      x.rank ≤ y.rank → x.nameKey ≤ y.nameKey :=
    fun hname hrank => nameKey_le.mpr (.inr ⟨hname, hrank⟩)
  unfold Agrees lessByName
  rw [if_neg (by simpa [name] using hne.symm)]
  cases htype : l.actionType with
  | create =>
    refine ⟨fun h => ?_, fun _ => hrank hne ?_⟩
    · simp [type, htype, isBackendSet] at h
    · simp [rank, htype]
  | update =>
    refine ⟨fun _ => hrank hne.symm ?_, fun h => ?_⟩
    · simp [rank, htype]
    · simp [type, htype] at h
  | delete =>
    refine ⟨fun _ => hrank hne.symm ?_, fun h => ?_⟩
    · simp [rank, htype]
    · simp [type, htype, isBackendSet] at h

theorem agrees_lessByType (h : y.nameKey ≤ x.nameKey) :
    Agrees lessByType (fun a b => a.key ≤ b.key) y x := by
  unfold Agrees lessByType
  by_cases htype : x.type = y.type
  · rw [if_neg (not_not.mpr htype)]
    refine ⟨fun h => absurd h (by decide), fun _ => key_le.mpr (.inr ⟨?_, h⟩)⟩
    rw [htype]
  · rw [if_pos htype, decide_eq_true_eq]
    refine ⟨fun hx => key_le.mpr (.inl ⟨hx, fun hy => htype (hx.trans hy.symm)⟩), fun hx => ?_⟩
    by_cases hy : y.type = .delete
    · exact key_le.mpr (.inl ⟨hy, hx⟩)
    · exact key_le.mpr (.inr ⟨iff_of_false hy hx, h⟩)

/-! ## The sorted list -/

/-- The actions on backend sets and listeners after both sorts. -/
def sortedActions (backendSetActions : List BackendSetAction)
    (listenerActions : List ListenerAction) : List (Action RuleSet) :=
  sliceStable lessByType (sliceStable lessByName
    (backendSetActions.map .backendSet ++ listenerActions.map .listener))

variable {backendSetActions : List BackendSetAction} {listenerActions : List ListenerAction}

theorem mem_sortedActions {a : Action RuleSet} :
    a ∈ sortedActions backendSetActions listenerActions ↔
      (∃ b ∈ backendSetActions, .backendSet b = a) ∨ ∃ l ∈ listenerActions, .listener l = a := by
  rw [sortedActions, (sliceStable_perm _ _).mem_iff, (sliceStable_perm _ _).mem_iff,
    mem_append, mem_map, mem_map]

theorem sortedActions_sorted
    (hbs : backendSetActions.Pairwise fun a b =>
      getSanitizedName a.name ≠ getSanitizedName b.name)
    (hls : listenerActions.Pairwise fun a b =>
      getSanitizedName a.name ≠ getSanitizedName b.name) :
    (sortedActions backendSetActions listenerActions : List (Action RuleSet)).Pairwise
      fun a b => a.key ≤ b.key := by
  have hagrees : (backendSetActions.map .backendSet ++ listenerActions.map .listener :
      List (Action RuleSet)).Pairwise (Agrees lessByName fun a b => a.nameKey ≤ b.nameKey) := by
    refine pairwise_append.mpr ⟨?_, ?_, ?_⟩
    · exact hbs.map _ fun _ _ hne => agrees_lessByName_of_ne hne
    · exact hls.map _ fun _ _ hne => agrees_lessByName_of_ne hne
    · intro y hy x hx
      obtain ⟨b, -, rfl⟩ := mem_map.mp hy
      obtain ⟨l, -, rfl⟩ := mem_map.mp hx
      exact agrees_lessByName_listener b l
  exact sliceStable_sorted ((sliceStable_sorted hagrees).imp agrees_lessByType)

theorem foldl_combineRuleSetAction (rs actions : List (Action RuleSet)) :
    rs.foldl combineRuleSetAction actions =
      (rs.filter (·.type ≠ .delete)).reverse ++ actions ++ rs.filter (·.type = .delete) := by
  induction rs generalizing actions with
  | nil => simp
  | cons a rs ih =>
    rw [foldl_cons, ih, combineRuleSetAction]
    by_cases ha : a.type = .delete <;> simp [ha]

/-- Rule sets are created and updated before everything else and deleted after it. -/
theorem sortAndCombineActions_eq (ruleSetActions : List (RuleSetAction RuleSet)) :
    sortAndCombineActions backendSetActions listenerActions ruleSetActions =
      ((ruleSetActions.map ruleSet).filter (·.type ≠ .delete)).reverse ++
        sortedActions backendSetActions listenerActions ++
        (ruleSetActions.map ruleSet).filter (·.type = .delete) :=
  foldl_combineRuleSetAction _ _

theorem mem_before_of_sorted {α K : Type} [Preorder K] {f : α → K} {l before after : List α}
    {a c : α} (hsorted : l.Pairwise fun a b => f a ≤ f b) (hsplit : l = before ++ c :: after)
    (ha : a ∈ l) (hlt : f a < f c) : a ∈ before ∧ a ∉ after := by
  subst hsplit
  have hafter : a ∉ after := fun ha =>
    not_le_of_gt hlt ((pairwise_cons.mp (pairwise_append.mp hsorted).2.1).1 a ha)
  rcases mem_append.mp ha with ha | ha
  · exact ⟨ha, hafter⟩
  · rcases mem_cons.mp ha with rfl | ha
    · exact absurd hlt (lt_irrefl _)
    · exact absurd ha hafter

theorem mem_before_of_lt (hsorted : actions.Pairwise fun a b => a.key ≤ b.key)
    (hsplit : actions = before ++ c :: after) (ha : a ∈ actions) (hlt : a.key < c.key) :
    a ∈ before :=
  (mem_before_of_sorted hsorted hsplit ha hlt).1

theorem key_le_of_mem_before (hsorted : actions.Pairwise fun a b => a.key ≤ b.key)
    (hsplit : actions = before ++ c :: after) (ha : a ∈ before) : a.key ≤ c.key := by
  subst hsplit
  exact (pairwise_append.mp hsorted).2.2 a ha c mem_cons_self

/-! ## Places in the combined list -/

namespace Action

/-- The key of an action in the combined list: rule sets that are created or updated, then the
sorted actions, then rule sets that are deleted. -/
def place : Action RuleSet → Nat ×ₗ (Bool ×ₗ (String ×ₗ Nat))
  | .ruleSet a => toLex (if a.actionType = .delete then 2 else 0, toLex (false, toLex ("", 0)))
  | a => toLex (1, a.key)

/-- Does the action create or update a rule set? -/
def SetsRuleSet (a : Action RuleSet) : Prop := ∃ r, a = .ruleSet r ∧ r.actionType ≠ .delete

def DeletesRuleSet (a : Action RuleSet) : Prop := ∃ r, a = .ruleSet r ∧ r.actionType = .delete

/-- Is the action on a backend set or a listener? -/
def IsMain (a : Action RuleSet) : Prop := ∀ r, a ≠ .ruleSet r

variable {a : Action RuleSet}

theorem place_of_setsRuleSet (h : a.SetsRuleSet) :
    a.place = toLex (0, toLex (false, toLex ("", 0))) := by
  obtain ⟨r, rfl, htype⟩ := h
  rw [place, if_neg htype]

theorem place_of_deletesRuleSet (h : a.DeletesRuleSet) :
    a.place = toLex (2, toLex (false, toLex ("", 0))) := by
  obtain ⟨r, rfl, htype⟩ := h
  rw [place, if_pos htype]

theorem place_of_isMain (h : a.IsMain) : a.place = toLex (1, a.key) := by
  cases a with
  | backendSet a => rfl
  | listener a => rfl
  | ruleSet a => exact absurd rfl (h a)

theorem kind_cases (a : Action RuleSet) : a.SetsRuleSet ∨ a.IsMain ∨ a.DeletesRuleSet := by
  cases a with
  | backendSet a => exact .inr (.inl fun _ => nofun)
  | listener a => exact .inr (.inl fun _ => nofun)
  | ruleSet a =>
    by_cases htype : a.actionType = .delete
    · exact .inr (.inr ⟨a, rfl, htype⟩)
    · exact .inl ⟨a, rfl, htype⟩

theorem place_lt_of_setsRuleSet {a b : Action RuleSet} (ha : a.SetsRuleSet)
    (hb : ¬b.SetsRuleSet) : a.place < b.place := by
  rw [place_of_setsRuleSet ha]
  rcases b.kind_cases with h | h | h
  · exact absurd h hb
  · rw [place_of_isMain h]
    exact Prod.Lex.toLex_lt_toLex.mpr (.inl Nat.zero_lt_one)
  · rw [place_of_deletesRuleSet h]
    exact Prod.Lex.toLex_lt_toLex.mpr (.inl Nat.zero_lt_two)

theorem place_lt_of_deletesRuleSet {a b : Action RuleSet} (ha : ¬a.DeletesRuleSet)
    (hb : b.DeletesRuleSet) : a.place < b.place := by
  rw [place_of_deletesRuleSet hb]
  rcases a.kind_cases with h | h | h
  · rw [place_of_setsRuleSet h]
    exact Prod.Lex.toLex_lt_toLex.mpr (.inl Nat.zero_lt_two)
  · rw [place_of_isMain h]
    exact Prod.Lex.toLex_lt_toLex.mpr (.inl Nat.one_lt_two)
  · exact absurd h ha

end Action

/-- Every `a` in the list comes before every `b`. -/
def ComesBefore (actions : List (Action RuleSet)) (a b : Action RuleSet) : Prop :=
  ∀ before after, actions = before ++ b :: after → a ∈ before ∧ a ∉ after

variable {ruleSetActions : List (RuleSetAction RuleSet)}

/-- Nothing is lost or added. -/
theorem sortAndCombineActions_perm :
    (sortAndCombineActions backendSetActions listenerActions ruleSetActions).Perm
      (backendSetActions.map .backendSet ++ listenerActions.map .listener ++
        ruleSetActions.map .ruleSet) := by
  have hsorted : (sortedActions backendSetActions listenerActions : List (Action RuleSet)).Perm
      (backendSetActions.map .backendSet ++ listenerActions.map .listener) :=
    (sliceStable_perm _ _).trans (sliceStable_perm _ _)
  have hruleSets : (((ruleSetActions.map ruleSet).filter (·.type ≠ .delete)).reverse ++
      (ruleSetActions.map ruleSet).filter (·.type = .delete)).Perm
      (ruleSetActions.map .ruleSet) := by
    have h := filter_append_perm (fun a : Action RuleSet => decide (a.type ≠ .delete))
      (ruleSetActions.map .ruleSet)
    simp only [ne_eq, decide_not, Bool.not_not] at h ⊢
    exact ((reverse_perm _).append_right _).trans h
  rw [sortAndCombineActions_eq]
  refine (perm_append_comm.append_right _).trans ?_
  rw [append_assoc]
  exact hsorted.append hruleSets

/-- The combined list is sorted by the places. -/
theorem sortAndCombineActions_sorted
    (hbs : backendSetActions.Pairwise fun a b =>
      getSanitizedName a.name ≠ getSanitizedName b.name)
    (hls : listenerActions.Pairwise fun a b =>
      getSanitizedName a.name ≠ getSanitizedName b.name) :
    (sortAndCombineActions backendSetActions listenerActions ruleSetActions).Pairwise
      fun a b => a.place ≤ b.place := by
  have hsets : ∀ a ∈ ((ruleSetActions.map ruleSet).filter (·.type ≠ .delete)).reverse,
      a.SetsRuleSet := by
    intro a ha
    obtain ⟨ha, htype⟩ := mem_filter.mp (mem_reverse.mp ha)
    obtain ⟨r, -, rfl⟩ := mem_map.mp ha
    exact ⟨r, rfl, of_decide_eq_true htype⟩
  have hdeletes : ∀ a ∈ (ruleSetActions.map ruleSet).filter (·.type = .delete),
      a.DeletesRuleSet := by
    intro a ha
    obtain ⟨ha, htype⟩ := mem_filter.mp ha
    obtain ⟨r, -, rfl⟩ := mem_map.mp ha
    exact ⟨r, rfl, of_decide_eq_true htype⟩
  have hmain : ∀ a ∈ (sortedActions backendSetActions listenerActions : List (Action RuleSet)),
      a.IsMain := by
    intro a ha
    rcases mem_sortedActions.mp ha with ⟨b, -, rfl⟩ | ⟨l, -, rfl⟩
    · exact fun _ => nofun
    · exact fun _ => nofun
  have hnot : ∀ a : Action RuleSet, a.IsMain ∨ a.DeletesRuleSet → ¬a.SetsRuleSet := by
    rintro a (h | ⟨r, rfl, htype⟩) ⟨r', hr', htype'⟩
    · exact h r' hr'
    · obtain rfl := ruleSet.inj hr'
      exact htype' htype
  rw [sortAndCombineActions_eq]
  refine pairwise_append.mpr ⟨pairwise_append.mpr ⟨?_, ?_, ?_⟩, ?_, ?_⟩
  · refine pairwise_of_forall_mem_list fun a ha b hb => ?_
    rw [place_of_setsRuleSet (hsets a ha), place_of_setsRuleSet (hsets b hb)]
  · refine (sortedActions_sorted hbs hls).imp_of_mem fun {a b} ha hb hle => ?_
    rw [place_of_isMain (hmain a ha), place_of_isMain (hmain b hb)]
    exact Prod.Lex.toLex_le_toLex.mpr (.inr ⟨rfl, hle⟩)
  · intro a ha b hb
    exact (place_lt_of_setsRuleSet (hsets a ha) (hnot b (.inl (hmain b hb)))).le
  · refine pairwise_of_forall_mem_list fun a ha b hb => ?_
    rw [place_of_deletesRuleSet (hdeletes a ha),
      place_of_deletesRuleSet (hdeletes b hb)]
  · intro a ha b hb
    refine (place_lt_of_deletesRuleSet (fun h => ?_) (hdeletes b hb)).le
    rcases mem_append.mp ha with ha | ha
    · exact hnot a (.inr h) (hsets a ha)
    · obtain ⟨r, hr, -⟩ := h
      exact hmain a ha r hr

/-- What the order of the actions has to ensure. -/
structure WellOrdered (backendSetActions : List BackendSetAction)
    (listenerActions : List ListenerAction) (ruleSetActions : List (RuleSetAction RuleSet))
    (actions : List (Action RuleSet)) : Prop where
  perm : actions.Perm (backendSetActions.map .backendSet ++ listenerActions.map .listener ++
    ruleSetActions.map .ruleSet)
  setRuleSetsFirst : ∀ a ∈ actions, a.SetsRuleSet → ∀ b ∈ actions, ¬b.SetsRuleSet →
    ComesBefore actions a b
  deleteRuleSetsLast : ∀ a ∈ actions, a.DeletesRuleSet → ∀ b ∈ actions, ¬b.DeletesRuleSet →
    ComesBefore actions b a
  deletesFirst : ∀ a ∈ actions, a.IsMain → a.type = .delete → ∀ b ∈ actions, b.IsMain →
    b.type ≠ .delete → ComesBefore actions a b
  creates : ∀ b ∈ backendSetActions, ∀ l ∈ listenerActions,
    getSanitizedName b.name = getSanitizedName l.name → b.actionType = .create →
    l.actionType = .create → ComesBefore actions (.backendSet b) (.listener l)
  deletes : ∀ b ∈ backendSetActions, ∀ l ∈ listenerActions,
    getSanitizedName b.name = getSanitizedName l.name → b.actionType = .delete →
    l.actionType = .delete → ComesBefore actions (.listener l) (.backendSet b)

/-- The actions are well ordered if no two on backend sets, nor two on listeners, have the same
name. -/
theorem sortAndCombineActions_wellOrdered (backendSetActions : List BackendSetAction)
    (listenerActions : List ListenerAction) (ruleSetActions : List (RuleSetAction RuleSet))
    (hbs : backendSetActions.Pairwise fun a b =>
      getSanitizedName a.name ≠ getSanitizedName b.name)
    (hls : listenerActions.Pairwise fun a b =>
      getSanitizedName a.name ≠ getSanitizedName b.name) :
    WellOrdered backendSetActions listenerActions ruleSetActions
      (sortAndCombineActions backendSetActions listenerActions ruleSetActions) := by
  have hsorted : (sortAndCombineActions backendSetActions listenerActions ruleSetActions).Pairwise
      fun a b => a.place ≤ b.place := sortAndCombineActions_sorted hbs hls
  have hbefore : ∀ {a b : Action RuleSet},
      a ∈ sortAndCombineActions backendSetActions listenerActions ruleSetActions →
      a.place < b.place →
      ComesBefore (sortAndCombineActions backendSetActions listenerActions ruleSetActions) a b :=
    fun ha hlt before after hsplit => mem_before_of_sorted hsorted hsplit ha hlt
  have hmain : ∀ {a b : Action RuleSet}, a.IsMain → b.IsMain → a.key < b.key →
      a.place < b.place := by
    intro a b ha hb hlt
    rw [place_of_isMain ha, place_of_isMain hb]
    exact Prod.Lex.toLex_lt_toLex.mpr (.inr ⟨rfl, hlt⟩)
  have hperm : (sortAndCombineActions backendSetActions listenerActions ruleSetActions).Perm _ :=
    sortAndCombineActions_perm
  refine ⟨hperm, fun a ha hsets b hb hnot => hbefore ha ?_,
    fun a ha hdeletes b hb hnot => hbefore hb ?_,
    fun a ha hamain hadelete b hb hbmain hbdelete => hbefore ha (hmain hamain hbmain ?_),
    fun b hb l hl hname hbcreate hlcreate => hbefore (hperm.mem_iff.mpr (by simp [hb]))
      (hmain (fun _ => nofun) (fun _ => nofun) ?_),
    fun b hb l hl hname hbdelete hldelete => hbefore (hperm.mem_iff.mpr (by simp [hl]))
      (hmain (fun _ => nofun) (fun _ => nofun) ?_)⟩
  · exact place_lt_of_setsRuleSet hsets hnot
  · exact place_lt_of_deletesRuleSet hnot hdeletes
  · exact key_lt.mpr (.inl ⟨hadelete, hbdelete⟩)
  · refine key_lt.mpr (.inr ⟨?_, nameKey_lt.mpr (.inr ⟨hname, ?_⟩)⟩)
    · simp [type, hbcreate, hlcreate]
    · simp [rank, hlcreate]
  · refine key_lt.mpr (.inr ⟨?_, nameKey_lt.mpr (.inr ⟨hname.symm, ?_⟩)⟩)
    · simp [type, hbdelete, hldelete]
    · simp [rank, hldelete]

/-- An action on the backend set of a port, which has no backends. -/
def emptyBackendSetAction (actionType : ActionType) (name : String) : BackendSetAction where
  actionType
  name
  backendSet :=
    { name, healthChecker := none, policy := none, backends := [], sslConfiguration := none
      isPreserveSource := none, ipVersion := none }
  ports := {}

def plainListenerAction (actionType : ActionType) (name : String) (port : Nat) :
    ListenerAction where
  actionType
  name
  listener := { name, defaultBackendSetName := name, port, protocol := "TCP" }

/-- A port is replaced by another one. -/
theorem wellOrdered_movedPort :
    WellOrdered
      [emptyBackendSetAction .delete "TCP-80", emptyBackendSetAction .create "TCP-443"]
      [plainListenerAction .delete "HTTP-80" 80, plainListenerAction .create "TCP-443" 443]
      ([] : List (RuleSetAction Unit))
      (sortAndCombineActions
        [emptyBackendSetAction .delete "TCP-80", emptyBackendSetAction .create "TCP-443"]
        [plainListenerAction .delete "HTTP-80" 80, plainListenerAction .create "TCP-443" 443] []) :=
  sortAndCombineActions_wellOrdered _ _ _ (by decide) (by decide)

end OciCcm.LoadBalancer
