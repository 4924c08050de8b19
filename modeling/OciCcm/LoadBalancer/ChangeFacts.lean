import OciCcm.Go.Diff
import OciCcm.LoadBalancer.Changes

/-! # What the lists of changes contain -/

namespace OciCcm.LoadBalancer

open Go List GoMap

variable {RuleSet : Type}

theorem pairwise_fst_range {V : Type} (o : RangeOrder.{0}) (loop : Nat) (m : GoMap V) :
    (o.range loop m).Pairwise fun e e' => e.1 ≠ e'.1 :=
  pairwise_map.mp (o.nodup_range loop m)

/-- An entry leads to one action if its name is missing in the other map, and to another one if
the two entries differ. -/
theorem eq_some_iff_of_lookup {V A : Type} {m : GoMap V} {name : String} {missing a : A}
    {other : V → A} {Differs : V → Prop} [DecidablePred Differs] {action : Option A}
    (hnone : m.lookup name = none → action = some missing)
    (hsome : ∀ v, m.lookup name = some v → action = if Differs v then some (other v) else none) :
    action = some a ↔
      (name ∉ m ∧ a = missing) ∨ ∃ v, m.lookup name = some v ∧ Differs v ∧ a = other v := by
  cases hm : m.lookup name with
  | none => simp [hnone hm, AList.lookup_eq_none.mp hm, eq_comm]
  | some v => simp [hsome v hm, mem_of_lookup hm, eq_comm]

theorem ite_none_some_eq_some_iff {c : Prop} [Decidable c] {A : Type} {x a : A} :
    (if c then none else some x) = some a ↔ ¬c ∧ a = x := by
  rw [Option.ite_none_left_eq_some, Option.some.injEq, eq_comm]

/-! ## Backend sets -/

section BackendSets

variable {o : RangeOrder.{0}} {actual desired : GoMap BackendSetDetails} {a : BackendSetAction}
  {entry : String × BackendSetDetails}

theorem actualBackendSetAction_eq_some :
    actualBackendSetAction desired entry = some a ↔
      (entry.1 ∉ desired ∧ a = .ofDelete entry.2) ∨
      ∃ bs, desired.lookup entry.1 = some bs ∧ hasBackendSetChanged entry.2 bs ∧
        a = .ofUpdate entry.1 entry.2 bs :=
  eq_some_iff_of_lookup (fun h => by rw [actualBackendSetAction, h])
    fun bs h => by rw [actualBackendSetAction, h]

theorem desiredBackendSetAction_eq_some :
    desiredBackendSetAction actual entry = some a ↔
      entry.1 ∉ actual ∧ a = .ofCreate entry.1 entry.2 := ite_none_some_eq_some_iff

theorem mem_getBackendSetChanges :
    a ∈ getBackendSetChanges o actual desired ↔
      (∃ name bs, actual.lookup name = some bs ∧ name ∉ desired ∧ a = .ofDelete bs) ∨
      (∃ name bs bs', actual.lookup name = some bs ∧ desired.lookup name = some bs' ∧
        hasBackendSetChanged bs bs' ∧ a = .ofUpdate name bs bs') ∨
      (∃ name bs, name ∉ actual ∧ desired.lookup name = some bs ∧ a = .ofCreate name bs) := by
  unfold getBackendSetChanges
  simp only [mem_append, mem_filterMap, Prod.exists, RangeOrder.mem_range,
    actualBackendSetAction_eq_some, desiredBackendSetAction_eq_some]
  constructor
  · rintro (⟨name, bs, hbs, hdel | ⟨bs', hbs', hchanged, rfl⟩⟩ | ⟨name, bs, hbs, hcreate⟩)
    · exact .inl ⟨name, bs, hbs, hdel⟩
    · exact .inr (.inl ⟨name, bs, bs', hbs, hbs', hchanged, rfl⟩)
    · exact .inr (.inr ⟨name, bs, hcreate.1, hbs, hcreate.2⟩)
  · rintro (⟨name, bs, hbs, hdel⟩ | ⟨name, bs, bs', hbs, hbs', hchanged, rfl⟩ |
      ⟨name, bs, hmem, hbs, rfl⟩)
    · exact .inl ⟨name, bs, hbs, .inl hdel⟩
    · exact .inl ⟨name, bs, hbs, .inr ⟨bs', hbs', hchanged, rfl⟩⟩
    · exact .inr ⟨name, bs, hbs, hmem, rfl⟩

/-- No two actions are on the same backend set. -/
theorem pairwise_getBackendSetChanges
    (hname : ∀ {name bs}, actual.lookup name = some bs → bs.name = name) :
    (getBackendSetChanges o actual desired).Pairwise fun a b => a.name ≠ b.name := by
  have hactual : ∀ {entry a}, entry ∈ o.range 0 actual →
      actualBackendSetAction desired entry = some a → a.name = entry.1 := by
    rintro ⟨name, bs⟩ a hentry ha
    rcases actualBackendSetAction_eq_some.mp ha with ⟨-, rfl⟩ | ⟨bs', -, -, rfl⟩
    · exact hname (RangeOrder.mem_range.mp hentry)
    · rfl
  refine pairwise_append.mpr ⟨?_, ?_, ?_⟩
  · refine pairwise_filterMap.mpr ((pairwise_fst_range o 0 actual).imp_of_mem ?_)
    intro e e' he he' hne a ha a' ha'
    rw [hactual he ha, hactual he' ha']
    exact hne
  · refine pairwise_filterMap.mpr ((pairwise_fst_range o 1 desired).imp ?_)
    intro e e' hne a ha a' ha'
    rw [(desiredBackendSetAction_eq_some.mp ha).2, (desiredBackendSetAction_eq_some.mp ha').2]
    exact hne
  · intro a ha a' ha' heq
    obtain ⟨⟨name, bs⟩, he, ha⟩ := mem_filterMap.mp ha
    obtain ⟨⟨name', bs'⟩, -, ha'⟩ := mem_filterMap.mp ha'
    obtain ⟨hmem, rfl⟩ := desiredBackendSetAction_eq_some.mp ha'
    obtain rfl : name = name' := (hactual he ha).symm.trans heq
    exact hmem (mem_of_lookup (RangeOrder.mem_range.mp he))

end BackendSets

/-! ## Listeners -/

section Listeners

variable {o : RangeOrder.{0}} {actual desired : GoMap Listener} {a : ListenerAction}
  {ruleSets : Option (GoMap RuleSet)} {entry : String × Listener} {name : String}

/-- No two listeners share a sanitized name. -/
def SanitizedInj (listeners : GoMap Listener) : Prop := NormInj getSanitizedName listeners

theorem lookup_sanitizedDesiredListeners (hdesired : SanitizedInj desired) {l : Listener} :
    (sanitizedDesiredListeners o desired).lookup name = some l ↔
      ∃ name', getSanitizedName name' = name ∧ desired.lookup name' = some l := by
  unfold sanitizedDesiredListeners
  rw [lookup_insertAll]
  · simp only [AList.lookup_empty, reduceCtorEq, and_false, or_false, mem_map, Prod.exists,
      Prod.mk.injEq, RangeOrder.mem_range]
    constructor
    · rintro ⟨name', l', hl, rfl, rfl⟩
      exact ⟨name', rfl, hl⟩
    · rintro ⟨name', rfl, hl⟩
      exact ⟨name', l, hl, rfl, rfl⟩
  · rw [map_map]
    refine pairwise_map.mpr ((pairwise_fst_range o 0 desired).imp_of_mem ?_)
    rintro ⟨name, l⟩ ⟨name', l'⟩ he he' hne
    have hname := mem_of_lookup (RangeOrder.mem_range.mp he)
    have hname' := mem_of_lookup (RangeOrder.mem_range.mp he')
    dsimp only [Function.comp_apply]
    exact fun heq => hne (hdesired name hname name' hname' heq)

theorem mem_sanitizedDesiredListeners (hdesired : SanitizedInj desired) :
    name ∈ sanitizedDesiredListeners o desired ↔
      ∃ name' ∈ desired, getSanitizedName name' = name := by
  simp only [mem_iff_exists_lookup, lookup_sanitizedDesiredListeners hdesired]
  constructor
  · rintro ⟨l, name', hname, hl⟩
    exact ⟨name', ⟨l, hl⟩, hname⟩
  · rintro ⟨name', ⟨l, hl⟩, hname⟩
    exact ⟨l, name', hname, hl⟩

/-- A listener on the load balancer is deleted if none is desired under its sanitized name, and
updated if one is desired and differs. -/
theorem actualListenerAction_eq_some (hdesired : SanitizedInj desired) :
    actualListenerAction (sanitizedDesiredListeners o desired) ruleSets entry = some a ↔
      ((∀ name' ∈ desired, getSanitizedName name' ≠ getSanitizedName entry.1) ∧
        a = .ofDelete entry.1 entry.2) ∨
      ∃ name' l', desired.lookup name' = some l' ∧
        getSanitizedName name' = getSanitizedName entry.1 ∧
        hasListenerChanged entry.2 l' ruleSets ∧ a = .ofUpdate entry.1 l' := by
  refine (eq_some_iff_of_lookup (fun h => by rw [actualListenerAction, h])
    fun l h => by rw [actualListenerAction, h]).trans (or_congr (and_congr_left fun _ => ?_) ?_)
  · rw [mem_sanitizedDesiredListeners hdesired]
    simp
  · simp only [lookup_sanitizedDesiredListeners hdesired]
    constructor
    · rintro ⟨l', ⟨name', hname', hl'⟩, h⟩
      exact ⟨name', l', hl', hname', h⟩
    · rintro ⟨name', l', hl', hname', h⟩
      exact ⟨l', ⟨name', hname', hl'⟩, h⟩

theorem desiredListenerAction_eq_some {existing : List String} :
    desiredListenerAction existing entry = some a ↔
      getSanitizedName entry.1 ∉ existing ∧ a = .ofCreate entry.1 entry.2 := ite_none_some_eq_some_iff

theorem sanitizedName_mem_existing_iff (hdesired : SanitizedInj desired) (hname : name ∈ desired) :
    getSanitizedName name ∈
      (actual.keys.map getSanitizedName).filter (· ∈ sanitizedDesiredListeners o desired) ↔
        ∃ name' ∈ actual, getSanitizedName name' = getSanitizedName name := by
  rw [mem_filter, mem_map, decide_eq_true_eq, mem_sanitizedDesiredListeners hdesired]
  exact ⟨fun h => h.1, fun h => ⟨h, name, hname, rfl⟩⟩

/-- The three kinds of actions on listeners. -/
theorem mem_getListenerChanges (hdesired : SanitizedInj desired) :
    a ∈ getListenerChanges o actual desired ruleSets ↔
      (∃ name l, actual.lookup name = some l ∧
        (∀ name' ∈ desired, getSanitizedName name' ≠ getSanitizedName name) ∧
        a = .ofDelete name l) ∨
      (∃ name name' l l', actual.lookup name = some l ∧ desired.lookup name' = some l' ∧
        getSanitizedName name' = getSanitizedName name ∧ hasListenerChanged l l' ruleSets ∧
        a = .ofUpdate name l') ∨
      (∃ name l, (∀ name' ∈ actual, getSanitizedName name' ≠ getSanitizedName name) ∧
        desired.lookup name = some l ∧ a = .ofCreate name l) := by
  unfold getListenerChanges
  simp only [mem_append, mem_filterMap, Prod.exists, RangeOrder.mem_range,
    actualListenerAction_eq_some hdesired]
  constructor
  · rintro (⟨name, l, hl, hdel | ⟨name', l', hl', heq, hchanged, rfl⟩⟩ | ⟨name, l, hl, h⟩)
    · exact .inl ⟨name, l, hl, hdel⟩
    · exact .inr (.inl ⟨name, name', l, l', hl, hl', heq, hchanged, rfl⟩)
    · obtain ⟨hno, rfl⟩ := desiredListenerAction_eq_some.mp h
      rw [sanitizedName_mem_existing_iff hdesired (mem_of_lookup hl)] at hno
      exact .inr (.inr ⟨name, l, fun name' hmem heq => hno ⟨name', hmem, heq⟩, hl, rfl⟩)
  · rintro (⟨name, l, hl, hdel⟩ | ⟨name, name', l, l', hl, hl', heq, hchanged, rfl⟩ |
      ⟨name, l, hno, hl, rfl⟩)
    · exact .inl ⟨name, l, hl, .inl hdel⟩
    · exact .inl ⟨name, l, hl, .inr ⟨name', l', hl', heq, hchanged, rfl⟩⟩
    · refine .inr ⟨name, l, hl, desiredListenerAction_eq_some.mpr ⟨?_, rfl⟩⟩
      rw [sanitizedName_mem_existing_iff hdesired (mem_of_lookup hl)]
      rintro ⟨name', hmem, heq⟩
      exact hno name' hmem heq

theorem name_of_actualListenerAction {sanitizedDesired : GoMap Listener}
    (h : actualListenerAction sanitizedDesired ruleSets entry = some a) : a.name = entry.1 := by
  unfold actualListenerAction at h
  split at h
  · rw [← Option.some.inj h]
    rfl
  split at h
  · rw [← Option.some.inj h]
    rfl
  · cases h

/-- No two actions are on listeners that share a sanitized name. -/
theorem pairwise_getListenerChanges (hactual : SanitizedInj actual)
    (hdesired : SanitizedInj desired) :
    (getListenerChanges o actual desired ruleSets).Pairwise fun a b =>
      getSanitizedName a.name ≠ getSanitizedName b.name := by
  have hpairs : ∀ {m : GoMap Listener} (loop : Nat), SanitizedInj m →
      (o.range loop m).Pairwise fun e e' => getSanitizedName e.1 ≠ getSanitizedName e'.1 := by
    intro m loop hm
    refine (pairwise_fst_range o loop m).imp_of_mem ?_
    rintro ⟨name, l⟩ ⟨name', l'⟩ he he' hne heq
    exact hne (hm name (mem_of_lookup (RangeOrder.mem_range.mp he)) name'
      (mem_of_lookup (RangeOrder.mem_range.mp he')) heq)
  refine pairwise_append.mpr ⟨?_, ?_, ?_⟩
  · refine pairwise_filterMap.mpr ((hpairs 1 hactual).imp ?_)
    intro e e' hne a ha a' ha'
    rw [name_of_actualListenerAction ha, name_of_actualListenerAction ha']
    exact hne
  · refine pairwise_filterMap.mpr ((hpairs 2 hdesired).imp ?_)
    intro e e' hne a ha a' ha'
    rw [(desiredListenerAction_eq_some.mp ha).2, (desiredListenerAction_eq_some.mp ha').2]
    exact hne
  · intro a ha a' ha' heq
    obtain ⟨⟨name, l⟩, he, ha⟩ := mem_filterMap.mp ha
    obtain ⟨⟨name', l'⟩, he', ha'⟩ := mem_filterMap.mp ha'
    obtain ⟨hno, rfl⟩ := desiredListenerAction_eq_some.mp ha'
    rw [name_of_actualListenerAction ha] at heq
    refine hno ((sanitizedName_mem_existing_iff hdesired
      (mem_of_lookup (RangeOrder.mem_range.mp he'))).mpr ⟨name, ?_, heq⟩)
    exact mem_of_lookup (RangeOrder.mem_range.mp he)

end Listeners

/-! ## Rule sets -/

section RuleSets

variable {o : RangeOrder.{0}} {actual desired : GoMap RuleSet} {a : RuleSetAction RuleSet}
  {entry : String × RuleSet}

theorem actualRuleSetAction_eq_some :
    actualRuleSetAction desired entry = some a ↔
      entry.1 ∉ desired ∧ a = ⟨.delete, entry.1, entry.2⟩ := ite_none_some_eq_some_iff

variable [DecidableEq RuleSet]

theorem desiredRuleSetAction_eq_some :
    desiredRuleSetAction actual entry = some a ↔
      (entry.1 ∉ actual ∧ a = ⟨.create, entry.1, entry.2⟩) ∨
      ∃ rs, actual.lookup entry.1 = some rs ∧ rs ≠ entry.2 ∧ a = ⟨.update, entry.1, entry.2⟩ :=
  eq_some_iff_of_lookup (fun h => by rw [desiredRuleSetAction, h])
    fun rs h => by rw [desiredRuleSetAction, h]

theorem mem_getRuleSetChanges :
    a ∈ getRuleSetChanges o actual desired ↔
      (∃ name rs, actual.lookup name = some rs ∧ name ∉ desired ∧ a = ⟨.delete, name, rs⟩) ∨
      (∃ name rs rs', actual.lookup name = some rs ∧ desired.lookup name = some rs' ∧ rs ≠ rs' ∧
        a = ⟨.update, name, rs'⟩) ∨
      (∃ name rs, name ∉ actual ∧ desired.lookup name = some rs ∧ a = ⟨.create, name, rs⟩) := by
  unfold getRuleSetChanges
  simp only [mem_append, mem_filterMap, Prod.exists, RangeOrder.mem_range,
    actualRuleSetAction_eq_some, desiredRuleSetAction_eq_some]
  constructor
  · rintro (⟨name, rs, hrs, hdel⟩ | ⟨name, rs', hrs', hcreate | ⟨rs, hrs, hne, rfl⟩⟩)
    · exact .inl ⟨name, rs, hrs, hdel⟩
    · exact .inr (.inr ⟨name, rs', hcreate.1, hrs', hcreate.2⟩)
    · exact .inr (.inl ⟨name, rs, rs', hrs, hrs', hne, rfl⟩)
  · rintro (⟨name, rs, hrs, hdel⟩ | ⟨name, rs, rs', hrs, hrs', hne, rfl⟩ |
      ⟨name, rs, hno, hrs, rfl⟩)
    · exact .inl ⟨name, rs, hrs, hdel⟩
    · exact .inr ⟨name, rs', hrs', .inr ⟨rs, hrs, hne, rfl⟩⟩
    · exact .inr ⟨name, rs, hrs, .inl ⟨hno, rfl⟩⟩

theorem notMem_of_delete_ruleSet (h : a ∈ getRuleSetChanges o actual desired)
    (htype : a.actionType = .delete) :
    a.name ∉ desired := by
  rcases mem_getRuleSetChanges.mp h with ⟨name, rs, -, hno, rfl⟩ |
    ⟨name, rs, rs', -, -, -, rfl⟩ | ⟨name, rs, -, -, rfl⟩
  · exact hno
  · cases htype
  · cases htype

theorem mem_or_exists_create_ruleSet {name : String} (h : name ∈ desired) :
    name ∈ actual ∨ ∃ a ∈ getRuleSetChanges o actual desired,
      a.actionType = .create ∧ a.name = name := by
  obtain ⟨rs, hrs⟩ := mem_iff_exists_lookup.mp h
  by_cases hactual : name ∈ actual
  · exact .inl hactual
  · exact .inr ⟨_, mem_getRuleSetChanges.mpr (.inr (.inr ⟨name, rs, hactual, hrs, rfl⟩)), rfl, rfl⟩

end RuleSets

end OciCcm.LoadBalancer
