import OciCcm.LoadBalancer.Actions
import OciCcm.LoadBalancer.ChangeFacts

/-! # The load balancer after a list of actions

An action edits one of the three maps of a load balancer, and the functions that
compare list the edits between the actual and the desired map.
-/

namespace OciCcm.LoadBalancer

open Go

variable {RuleSet : Type}

/-! ## Actions as edits -/

/-- The edit of an action of some type: the content is stored unless it is deleted. -/
def ActionType.edit {V : Type} (actionType : ActionType) (name : String) (content : V) : Edit V :=
  (name, if actionType = .delete then none else some content)

theorem ActionType.edit_eq_some {V : Type} {actionType : ActionType} {name k : String}
    {content v : V} :
    actionType.edit name content = (k, some v) ↔
      name = k ∧ actionType ≠ .delete ∧ content = v := by
  unfold ActionType.edit
  by_cases hdel : actionType = .delete <;> simp [hdel]

theorem edit_actionType {V : Type} (m : GoMap V) (actionType : ActionType) (name : String)
    (content : V) : m.edit (actionType.edit name content) =
      if actionType = .delete then m.erase name else m.insert name content := by
  unfold ActionType.edit GoMap.edit
  by_cases hdel : actionType = .delete <;> simp [hdel]

def BackendSetAction.edit (a : BackendSetAction) : Edit BackendSetDetails :=
  a.actionType.edit a.name a.backendSet

def ListenerAction.edit (a : ListenerAction) : Edit Listener :=
  a.actionType.edit a.name a.listener

def RuleSetAction.edit (a : RuleSetAction RuleSet) : Edit RuleSet :=
  a.actionType.edit a.name a.ruleSetDetails

namespace Action

def backendSetEdit : Action RuleSet → Option (Edit BackendSetDetails)
  | .backendSet a => some a.edit
  | _ => none

def listenerEdit : Action RuleSet → Option (Edit Listener)
  | .listener a => some a.edit
  | _ => none

def ruleSetEdit : Action RuleSet → Option (Edit RuleSet)
  | .ruleSet a => some a.edit
  | _ => none

variable {a : Action RuleSet}

theorem backendSetEdit_eq_some {e : Edit BackendSetDetails} :
    a.backendSetEdit = some e ↔ ∃ b, a = .backendSet b ∧ b.edit = e := by
  cases a <;> simp [backendSetEdit]

theorem listenerEdit_eq_some {e : Edit Listener} :
    a.listenerEdit = some e ↔ ∃ l, a = .listener l ∧ l.edit = e := by
  cases a <;> simp [listenerEdit]

theorem ruleSetEdit_eq_some {e : Edit RuleSet} :
    a.ruleSetEdit = some e ↔ ∃ r, a = .ruleSet r ∧ r.edit = e := by
  cases a <;> simp [ruleSetEdit]

end Action

section Run

variable {lb : LoadBalancerState RuleSet} {actions : List (Action RuleSet)}

theorem applyAll_concat (actions : List (Action RuleSet)) (a : Action RuleSet) :
    lb.applyAll (actions ++ [a]) = (lb.applyAll actions).apply a := by
  simp [LoadBalancerState.applyAll]

theorem backendSets_applyAll : (lb.applyAll actions).backendSets =
    lb.backendSets.editAll (actions.filterMap Action.backendSetEdit) := by
  refine GoMap.foldl_eq_editAll (fun lb a => ?_) lb actions
  cases a with
  | backendSet a => exact (edit_actionType _ a.actionType a.name a.backendSet).symm
  | listener _ => rfl
  | ruleSet _ => rfl

theorem listeners_applyAll : (lb.applyAll actions).listeners =
    lb.listeners.editAll (actions.filterMap Action.listenerEdit) := by
  refine GoMap.foldl_eq_editAll (fun lb a => ?_) lb actions
  cases a with
  | listener a => exact (edit_actionType _ a.actionType a.name a.listener).symm
  | backendSet _ => rfl
  | ruleSet _ => rfl

theorem ruleSets_applyAll : (lb.applyAll actions).ruleSets =
    lb.ruleSets.editAll (actions.filterMap Action.ruleSetEdit) := by
  refine GoMap.foldl_eq_editAll (fun lb a => ?_) lb actions
  cases a with
  | ruleSet a => exact (edit_actionType _ a.actionType a.name a.ruleSetDetails).symm
  | backendSet _ => rfl
  | listener _ => rfl

theorem listeners_applyAll_of_notMem (h : ∀ a, .listener a ∉ actions) :
    (lb.applyAll actions).listeners = lb.listeners := by
  rw [listeners_applyAll]
  exact editAll_filterMap_eq_self Action.listenerEdit_eq_some h

theorem ruleSets_applyAll_of_notMem (h : ∀ a, .ruleSet a ∉ actions) :
    (lb.applyAll actions).ruleSets = lb.ruleSets := by
  rw [ruleSets_applyAll]
  exact editAll_filterMap_eq_self Action.ruleSetEdit_eq_some h

theorem lookup_backendSets_applyAll {name : String} {bs : BackendSetDetails}
    (huniq : ∀ b b', .backendSet b ∈ actions → .backendSet b' ∈ actions → b.name = b'.name →
      b = b') :
    (lb.applyAll actions).backendSets.lookup name = some bs ↔
      (∃ b, .backendSet b ∈ actions ∧ b.name = name ∧ b.actionType ≠ .delete ∧
        b.backendSet = bs) ∨
      (lb.backendSets.lookup name = some bs ∧ ∀ b, .backendSet b ∈ actions → b.name ≠ name) := by
  rw [backendSets_applyAll, lookup_editAll_filterMap Action.backendSetEdit_eq_some huniq]
  simp only [BackendSetAction.edit, ActionType.edit_eq_some]
  rfl

theorem mem_backendSets_applyAll {name : String}
    (huniq : ∀ b b', .backendSet b ∈ actions → .backendSet b' ∈ actions → b.name = b'.name →
      b = b') :
    name ∈ (lb.applyAll actions).backendSets ↔
      (∃ b, .backendSet b ∈ actions ∧ b.name = name ∧ b.actionType ≠ .delete) ∨
      (name ∈ lb.backendSets ∧
        ∀ b, .backendSet b ∈ actions → b.name = name → b.actionType ≠ .delete) := by
  simp only [GoMap.mem_iff_exists_lookup, lookup_backendSets_applyAll huniq]
  constructor
  · rintro ⟨bs, ⟨b, hb, hname, htype, -⟩ | ⟨hlookup, hno⟩⟩
    · exact .inl ⟨b, hb, hname, htype⟩
    · exact .inr ⟨⟨bs, hlookup⟩, fun b hb hname => absurd hname (hno b hb)⟩
  · rintro (⟨b, hb, hname, htype⟩ | ⟨⟨bs, hlookup⟩, hkept⟩)
    · exact ⟨b.backendSet, .inl ⟨b, hb, hname, htype, rfl⟩⟩
    · by_cases haction : ∃ b, .backendSet b ∈ actions ∧ b.name = name
      · obtain ⟨b, hb, hname⟩ := haction
        exact ⟨b.backendSet, .inl ⟨b, hb, hname, hkept b hb hname, rfl⟩⟩
      · exact ⟨bs, .inr ⟨hlookup, fun b hb hname => haction ⟨b, hb, hname⟩⟩⟩

theorem lookup_listeners_applyAll {name : String} {l : Listener}
    (huniq : ∀ a a', .listener a ∈ actions → .listener a' ∈ actions → a.name = a'.name →
      a = a') :
    (lb.applyAll actions).listeners.lookup name = some l ↔
      (∃ a, .listener a ∈ actions ∧ a.name = name ∧ a.actionType ≠ .delete ∧ a.listener = l) ∨
      (lb.listeners.lookup name = some l ∧ ∀ a, .listener a ∈ actions → a.name ≠ name) := by
  rw [listeners_applyAll, lookup_editAll_filterMap Action.listenerEdit_eq_some huniq]
  simp only [ListenerAction.edit, ActionType.edit_eq_some]
  rfl

end Run

/-! ## Changes as edits -/

section Changes

variable {o : RangeOrder.{0}}

theorem forall_id_ne_iff {V : Type} {m : GoMap V} {name : String} :
    (∀ name' ∈ m, id name' ≠ id name) ↔ name ∉ m := by
  constructor
  · exact fun h hmem => h name hmem rfl
  · rintro hno name' hmem rfl
    exact hno hmem

section BackendSets

variable {actual desired : GoMap BackendSetDetails}

theorem exists_isEdit_of_mem_getBackendSetChanges {b : BackendSetAction}
    (hb : b ∈ getBackendSetChanges o actual desired) :
    ∃ e, IsEdit id hasBackendSetChanged actual desired e := by
  rcases mem_getBackendSetChanges.mp hb with ⟨name, bs, hbs, hno, -⟩ |
    ⟨name, bs, bs', hbs, hbs', hchanged, -⟩ | ⟨name, bs, hno, hbs, -⟩
  · exact ⟨_, .remove hbs (forall_id_ne_iff.mpr hno)⟩
  · exact ⟨_, .replace hbs hbs' rfl hchanged⟩
  · exact ⟨_, .add (forall_id_ne_iff.mpr hno) hbs⟩

theorem edit_getBackendSetChanges_iff
    (hname : ∀ {name bs}, actual.lookup name = some bs → bs.name = name)
    {e : Edit BackendSetDetails} :
    (∃ b ∈ getBackendSetChanges o actual desired, b.edit = e) ↔
      IsEdit id hasBackendSetChanged actual desired e := by
  constructor
  · rintro ⟨b, hb, rfl⟩
    rcases mem_getBackendSetChanges.mp hb with ⟨name, bs, hbs, hno, rfl⟩ |
      ⟨name, bs, bs', hbs, hbs', hchanged, rfl⟩ | ⟨name, bs, hno, hbs, rfl⟩
    · obtain rfl := hname hbs
      exact .remove hbs (forall_id_ne_iff.mpr hno)
    · exact .replace hbs hbs' rfl hchanged
    · exact .add (forall_id_ne_iff.mpr hno) hbs
  · intro h
    simp only [mem_getBackendSetChanges]
    cases h with
    | @remove name bs hbs hno =>
      refine ⟨.ofDelete bs, .inl ⟨name, bs, hbs, forall_id_ne_iff.mp hno, rfl⟩, ?_⟩
      exact Prod.ext (hname hbs) rfl
    | @replace name name' bs bs' hbs hbs' hnorm hchanged =>
      obtain rfl : name' = name := hnorm
      exact ⟨.ofUpdate name' bs bs', .inr (.inl ⟨name', bs, bs', hbs, hbs', hchanged, rfl⟩), rfl⟩
    | @add name bs hno hbs =>
      exact ⟨.ofCreate name bs, .inr (.inr ⟨name, bs, forall_id_ne_iff.mp hno, hbs, rfl⟩), rfl⟩

end BackendSets

section Listeners

variable {actual desired : GoMap Listener} {ruleSets : Option (GoMap RuleSet)}

theorem edit_getListenerChanges_iff (hdesired : SanitizedInj desired) {e : Edit Listener} :
    (∃ a ∈ getListenerChanges o actual desired ruleSets, a.edit = e) ↔
      IsEdit getSanitizedName (hasListenerChanged · · ruleSets) actual desired e := by
  simp only [mem_getListenerChanges hdesired]
  constructor
  · rintro ⟨a, ⟨name, l, hl, hno, rfl⟩ | ⟨name, name', l, l', hl, hl', hnorm, hchanged, rfl⟩ |
      ⟨name, l, hno, hl, rfl⟩, rfl⟩
    · exact .remove hl hno
    · exact .replace hl hl' hnorm hchanged
    · exact .add hno hl
  · intro h
    cases h with
    | @remove name l hl hno => exact ⟨.ofDelete name l, .inl ⟨name, l, hl, hno, rfl⟩, rfl⟩
    | @replace name name' l l' hl hl' hnorm hchanged =>
      exact ⟨.ofUpdate name l',
        .inr (.inl ⟨name, name', l, l', hl, hl', hnorm, hchanged, rfl⟩), rfl⟩
    | @add name l hno hl => exact ⟨.ofCreate name l, .inr (.inr ⟨name, l, hno, hl, rfl⟩), rfl⟩

end Listeners

section RuleSets

variable [DecidableEq RuleSet] {actual desired : GoMap RuleSet}

/-- The actions on rule sets are the edits. -/
theorem edit_getRuleSetChanges_iff {e : Edit RuleSet} :
    (∃ r ∈ getRuleSetChanges o actual desired, r.edit = e) ↔
      IsEdit id (fun r r' => decide (r ≠ r')) actual desired e := by
  simp only [mem_getRuleSetChanges]
  constructor
  · rintro ⟨r, ⟨name, rs, hrs, hno, rfl⟩ | ⟨name, rs, rs', hrs, hrs', hne, rfl⟩ |
      ⟨name, rs, hno, hrs, rfl⟩, rfl⟩
    · exact .remove hrs (forall_id_ne_iff.mpr hno)
    · exact .replace hrs hrs' rfl (decide_eq_true hne)
    · exact .add (forall_id_ne_iff.mpr hno) hrs
  · intro h
    cases h with
    | @remove name rs hrs hno =>
      exact ⟨⟨.delete, name, rs⟩, .inl ⟨name, rs, hrs, forall_id_ne_iff.mp hno, rfl⟩, rfl⟩
    | @replace name name' rs rs' hrs hrs' hnorm hne =>
      obtain rfl : name' = name := hnorm
      exact ⟨⟨.update, name', rs'⟩,
        .inr (.inl ⟨name', rs, rs', hrs, hrs', of_decide_eq_true hne, rfl⟩), rfl⟩
    | @add name rs hno hrs =>
      exact ⟨⟨.create, name, rs⟩,
        .inr (.inr ⟨name, rs, forall_id_ne_iff.mp hno, hrs, rfl⟩), rfl⟩

end RuleSets

end Changes

end OciCcm.LoadBalancer
