import OciCcm.Go.Map

/-! # Differences of maps

A map is compared with the one that it should become, and the edits that lead
there are collected. Entries of the two maps belong together if their keys have
the same normal form; an entry keeps its key when its value is replaced. If no
value is taken to differ from itself, one round of edits is enough.
-/

namespace OciCcm.Go

open List GoMap

universe u

variable {V : Type u}

/-! ## Edits -/

/-- A key with its new value, or without a value if it is removed. -/
abbrev Edit (V : Type u) := String × Option V

namespace GoMap

def edit (m : GoMap V) (e : Edit V) : GoMap V :=
  match e.2 with
  | some v => m.insert e.1 v
  | none => m.erase e.1

def editAll (m : GoMap V) (es : List (Edit V)) : GoMap V := es.foldl edit m

theorem lookup_edit (m : GoMap V) (e : Edit V) (k : String) :
    (m.edit e).lookup k = if k = e.1 then e.2 else m.lookup k := by
  obtain ⟨key, value⟩ := e
  cases value with
  | none => exact lookup_erase_eq_ite m key k
  | some v => exact lookup_insert_eq_ite m key k v

/-- An entry is as its edit has made it, or as it was. -/
theorem lookup_editAll {m : GoMap V} {es : List (Edit V)}
    (huniq : ∀ e ∈ es, ∀ e' ∈ es, e.1 = e'.1 → e = e') {k : String} {v : V} :
    (m.editAll es).lookup k = some v ↔
      (k, some v) ∈ es ∨ (m.lookup k = some v ∧ ∀ e ∈ es, e.1 ≠ k) := by
  induction es using List.reverseRecOn with
  | nil => simp [editAll]
  | append_singleton es e ih =>
    have ih := ih fun e he e' he' =>
      huniq e (mem_append_left _ he) e' (mem_append_left _ he')
    have hlast : e ∈ es ++ [e] := by simp
    rw [editAll, foldl_append, foldl_cons, foldl_nil, lookup_edit]
    by_cases hk : k = e.1
    · subst hk
      rw [if_pos rfl]
      constructor
      · intro hv
        refine .inl (mem_append_right _ ?_)
        rw [← hv]
        simp
      · rintro (hmem | ⟨-, hno⟩)
        · exact (congrArg Prod.snd (huniq _ hmem e hlast rfl)).symm
        · exact absurd rfl (hno e hlast)
    · have hne : (k, some v) ≠ e := fun h => hk (congrArg Prod.fst h)
      have hmem : (k, some v) ∈ es ++ [e] ↔ (k, some v) ∈ es := by simp [hne]
      have hkeys : (∀ e' ∈ es ++ [e], e'.1 ≠ k) ↔ ∀ e' ∈ es, e'.1 ≠ k := by
        rw [forall_mem_append, forall_mem_singleton]
        exact and_iff_left (Ne.symm hk)
      rw [if_neg hk, ← editAll, ih, hmem, hkeys]

theorem foldl_eq_editAll {σ α : Type*} {step : σ → α → σ} {part : σ → GoMap V}
    {edit? : α → Option (Edit V)}
    (hstep : ∀ s a, part (step s a) = (edit? a).elim (part s) (part s).edit) (s : σ)
    (as : List α) : part (as.foldl step s) = (part s).editAll (as.filterMap edit?) := by
  induction as generalizing s with
  | nil => rfl
  | cons a as ih =>
    rw [foldl_cons, ih, hstep]
    cases h : edit? a with
    | none => rw [filterMap_cons_none h, Option.elim_none]
    | some e =>
      rw [filterMap_cons_some h, Option.elim_some]
      rfl

end GoMap

section Constructor

/-! The edits among steps of several kinds, where those of one kind are edits of the map. -/

variable {α γ : Type*} {edit? : α → Option (Edit V)} {kind : γ → α} {edit : γ → Edit V}
  {as : List α}

section

variable (hedit : ∀ {a e}, edit? a = some e ↔ ∃ x, a = kind x ∧ edit x = e)

include hedit

theorem mem_filterMap_edit {e : Edit V} :
    e ∈ as.filterMap edit? ↔ ∃ x, kind x ∈ as ∧ edit x = e := by
  simp only [mem_filterMap, hedit]
  constructor
  · rintro ⟨a, ha, x, rfl, he⟩
    exact ⟨x, ha, he⟩
  · rintro ⟨x, hx, he⟩
    exact ⟨kind x, hx, x, rfl, he⟩

theorem lookup_editAll_filterMap {m : GoMap V}
    (huniq : ∀ x x', kind x ∈ as → kind x' ∈ as → (edit x).1 = (edit x').1 → x = x') {k : String}
    {v : V} :
    (m.editAll (as.filterMap edit?)).lookup k = some v ↔
      (∃ x, kind x ∈ as ∧ edit x = (k, some v)) ∨
      (m.lookup k = some v ∧ ∀ x, kind x ∈ as → (edit x).1 ≠ k) := by
  rw [lookup_editAll]
  · simp only [mem_filterMap_edit hedit]
    refine or_congr_right (and_congr_right fun _ => ⟨fun h x hx => h _ ⟨x, hx, rfl⟩, ?_⟩)
    rintro h e ⟨x, hx, rfl⟩
    exact h x hx
  · intro e he e' he' hkey
    obtain ⟨x, hx, rfl⟩ := (mem_filterMap_edit hedit).mp he
    obtain ⟨x', hx', rfl⟩ := (mem_filterMap_edit hedit).mp he'
    rw [huniq x x' hx hx' hkey]

theorem editAll_filterMap_eq_self {m : GoMap V} (hno : ∀ x, kind x ∉ as) :
    m.editAll (as.filterMap edit?) = m := by
  have hnil : as.filterMap edit? = [] := by
    refine eq_nil_iff_forall_not_mem.mpr fun e he => ?_
    obtain ⟨x, hx, -⟩ := (mem_filterMap_edit hedit).mp he
    exact hno x hx
  rw [hnil]
  rfl

end

end Constructor

/-! ## The edits between two maps -/

section Diff

variable (norm : String → String) (changed : V → V → Bool)

/-- Different keys of the map have different normal forms. -/
def NormInj (m : GoMap V) : Prop := ∀ k ∈ m, ∀ k' ∈ m, norm k = norm k' → k = k'

inductive IsEdit (actual desired : GoMap V) : Edit V → Prop
  | remove {k : String} {v : V} : actual.lookup k = some v →
    (∀ k' ∈ desired, norm k' ≠ norm k) → IsEdit actual desired (k, none)
  | replace {k k' : String} {v v' : V} : actual.lookup k = some v → desired.lookup k' = some v' →
    norm k' = norm k → changed v v' → IsEdit actual desired (k, some v')
  | add {k : String} {v : V} : (∀ k' ∈ actual, norm k' ≠ norm k) → desired.lookup k = some v →
    IsEdit actual desired (k, some v)

variable {norm changed} {actual desired : GoMap V} {es : List (Edit V)} {e e' : Edit V}

theorem NormInj.lookup_eq {k k' : String} {v v' : V} (h : NormInj norm desired)
    (hk : desired.lookup k = some v) (hk' : desired.lookup k' = some v')
    (hnorm : norm k = norm k') : v = v' := by
  obtain rfl := h k (mem_of_lookup hk) k' (mem_of_lookup hk') hnorm
  exact Option.some.inj (hk.symm.trans hk')

/-- No key is edited in two ways. -/
theorem IsEdit.eq_of_key (hdesired : NormInj norm desired)
    (h : IsEdit norm changed actual desired e) (h' : IsEdit norm changed actual desired e')
    (hkey : e.1 = e'.1) : e = e' := by
  cases h with
  | remove hk hno =>
    cases h' with
    | remove hk' hno' => exact Prod.ext hkey rfl
    | replace hk' hd hnorm _ =>
      obtain rfl := hkey
      exact absurd hnorm (hno _ (mem_of_lookup hd))
    | add hno' hd =>
      obtain rfl := hkey
      exact absurd rfl (hno' _ (mem_of_lookup hk))
  | replace hk hd hnorm _ =>
    cases h' with
    | remove hk' hno' =>
      obtain rfl := hkey
      exact absurd hnorm (hno' _ (mem_of_lookup hd))
    | replace hk' hd' hnorm' _ =>
      obtain rfl := hkey
      rw [hdesired.lookup_eq hd hd' (hnorm.trans hnorm'.symm)]
    | add hno' hd' =>
      obtain rfl := hkey
      exact absurd rfl (hno' _ (mem_of_lookup hk))
  | add hno hd =>
    cases h' with
    | remove hk' hno' =>
      obtain rfl := hkey
      exact absurd rfl (hno _ (mem_of_lookup hk'))
    | replace hk' hd' hnorm' _ =>
      obtain rfl := hkey
      exact absurd rfl (hno _ (mem_of_lookup hk'))
    | add hno' hd' =>
      obtain rfl := hkey
      rw [hdesired.lookup_eq hd hd' rfl]

/-- After all edits, an entry that was there before has its desired value if a difference was
seen and its old value otherwise, and the entries without a counterpart have been added. -/
theorem lookup_editAll_of_isEdit (hdesired : NormInj norm desired)
    (hes : ∀ e, e ∈ es ↔ IsEdit norm changed actual desired e) {k : String} {v : V} :
    (actual.editAll es).lookup k = some v ↔
      (∃ k' v₀ v₁, actual.lookup k = some v₀ ∧ desired.lookup k' = some v₁ ∧
        norm k' = norm k ∧ v = if changed v₀ v₁ then v₁ else v₀) ∨
      ((∀ k' ∈ actual, norm k' ≠ norm k) ∧ desired.lookup k = some v) := by
  rw [lookup_editAll fun e he e' he' =>
    ((hes e).mp he).eq_of_key hdesired ((hes e').mp he')]
  constructor
  · rintro (hmem | ⟨hk, hno⟩)
    · cases (hes _).mp hmem with
      | replace hk hd hnorm hchanged =>
        exact .inl ⟨_, _, v, hk, hd, hnorm, (if_pos hchanged).symm⟩
      | add hnew hd => exact .inr ⟨hnew, hd⟩
    · -- an entry without an edit has a counterpart, and no difference was seen
      by_cases hcounterpart : ∃ k' ∈ desired, norm k' = norm k
      · obtain ⟨k', hmem, hnorm⟩ := hcounterpart
        obtain ⟨v₁, hd⟩ := mem_iff_exists_lookup.mp hmem
        refine .inl ⟨k', v, v₁, hk, hd, hnorm, (if_neg fun hchanged => ?_).symm⟩
        exact hno _ ((hes _).mpr (.replace hk hd hnorm hchanged)) rfl
      · refine absurd rfl (hno (k, none) ((hes _).mpr (.remove hk fun k' hmem hnorm => ?_)))
        exact hcounterpart ⟨k', hmem, hnorm⟩
  · rintro (⟨k', v₀, v₁, hk, hd, hnorm, rfl⟩ | ⟨hnew, hd⟩)
    · by_cases hchanged : changed v₀ v₁
      · rw [if_pos hchanged]
        exact .inl ((hes _).mpr (.replace hk hd hnorm hchanged))
      · rw [if_neg hchanged]
        refine .inr ⟨hk, fun e he hkey => ?_⟩
        cases (hes e).mp he with
        | remove hk' hno =>
          obtain rfl := hkey
          exact hno k' (mem_of_lookup hd) hnorm
        | replace hk' hd' hnorm' hchanged' =>
          obtain rfl := hkey
          obtain rfl := Option.some.inj (hk.symm.trans hk')
          obtain rfl := hdesired.lookup_eq hd hd' (hnorm.trans hnorm'.symm)
          exact hchanged hchanged'
        | add hnew hd' =>
          obtain rfl := hkey
          exact hnew _ (mem_of_lookup hk) rfl
    · exact .inl ((hes _).mpr (.add hnew hd))

/-- An entry after some of the edits was there before or is a desired one, and its key is an old
one or new. -/
theorem of_lookup_editAll (hdesired : NormInj norm desired)
    (hes : ∀ e ∈ es, IsEdit norm changed actual desired e) {k : String} {v : V}
    (h : (actual.editAll es).lookup k = some v) :
    (actual.lookup k = some v ∨ ∃ k', desired.lookup k' = some v ∧ norm k' = norm k) ∧
      (k ∈ actual ∨ k ∈ desired ∧ ∀ k' ∈ actual, norm k' ≠ norm k) := by
  rw [lookup_editAll fun e he e' he' => (hes e he).eq_of_key hdesired (hes e' he')] at h
  rcases h with hmem | ⟨hk, -⟩
  · cases hes _ hmem with
    | replace hk hd hnorm _ => exact ⟨.inr ⟨_, hd, hnorm⟩, .inl (mem_of_lookup hk)⟩
    | add hno hd => exact ⟨.inr ⟨k, hd, rfl⟩, .inr ⟨mem_of_lookup hd, hno⟩⟩
  · exact ⟨.inl hk, .inl (mem_of_lookup hk)⟩

theorem NormInj.editAll (hactual : NormInj norm actual) (hdesired : NormInj norm desired)
    (hes : ∀ e ∈ es, IsEdit norm changed actual desired e) : NormInj norm (actual.editAll es) := by
  intro k hk k' hk' hnorm
  obtain ⟨v, hv⟩ := mem_iff_exists_lookup.mp hk
  obtain ⟨v', hv'⟩ := mem_iff_exists_lookup.mp hk'
  rcases (of_lookup_editAll hdesired hes hv).2 with hold | ⟨hnew, hno⟩
  · rcases (of_lookup_editAll hdesired hes hv').2 with hold' | ⟨-, hno'⟩
    · exact hactual k hold k' hold' hnorm
    · exact absurd hnorm (hno' k hold)
  · rcases (of_lookup_editAll hdesired hes hv').2 with hold' | ⟨hnew', -⟩
    · exact absurd hnorm.symm (hno k' hold')
    · exact hdesired k hnew k' hnew' hnorm

/-- After some of the edits, those that are left are edits of other keys. -/
theorem IsEdit.of_editAll (hchanged : ∀ v, changed v v = false) (hdesired : NormInj norm desired)
    (hes : ∀ e ∈ es, IsEdit norm changed actual desired e)
    (h : IsEdit norm changed (actual.editAll es) desired e) :
    IsEdit norm changed actual desired e ∧ ∀ e' ∈ es, e'.1 ≠ e.1 := by
  have hlookup {k v} := lookup_editAll (m := actual) (k := k) (v := v)
    fun e he e' he' => (hes e he).eq_of_key hdesired (hes e' he')
  cases h with
  | @remove k v hk hno =>
    rcases hlookup.mp hk with hmem | ⟨hk, hother⟩
    · cases hes _ hmem with
      | replace _ hd hnorm _ => exact absurd hnorm (hno _ (mem_of_lookup hd))
      | add _ hd => exact absurd rfl (hno _ (mem_of_lookup hd))
    · exact ⟨.remove hk hno, hother⟩
  | @replace k k' v v' hk hd hnorm hdiffer =>
    rcases hlookup.mp hk with hmem | ⟨hk, hother⟩
    · -- the entry has its desired value already
      have hv : v = v' := by
        cases hes _ hmem with
        | replace _ hd' hnorm' _ => exact hdesired.lookup_eq hd' hd (hnorm'.trans hnorm.symm)
        | add _ hd' => exact hdesired.lookup_eq hd' hd hnorm.symm
      rw [hv, hchanged] at hdiffer
      cases hdiffer
    · exact ⟨.replace hk hd hnorm hdiffer, hother⟩
  | @add k v hno hd =>
    have hadded (k' v') (hnorm : norm k' = norm k) : (k', some v') ∉ es := by
      intro hmem
      exact hno k' (mem_of_lookup (hlookup.mpr (.inl hmem))) hnorm
    have hother : ∀ e' ∈ es, norm e'.1 ≠ norm k := by
      intro e' he' hnorm
      cases hes e' he' with
      | remove _ hno' => exact hno' k (mem_of_lookup hd) hnorm.symm
      | replace _ _ _ _ | add _ _ => exact hadded _ _ hnorm he'
    refine ⟨.add (fun k' hmem hnorm => ?_) hd, fun e' he' hkey => hother e' he' (congrArg norm hkey)⟩
    obtain ⟨v₀, hk'⟩ := mem_iff_exists_lookup.mp hmem
    refine hno k' (mem_of_lookup (hlookup.mpr (.inr ⟨hk', fun e' he' hkey => ?_⟩))) hnorm
    exact hother e' he' (hkey ▸ hnorm)

/-- One round is enough: after all edits there is nothing left to edit. -/
theorem not_isEdit_editAll (hchanged : ∀ v, changed v v = false) (hdesired : NormInj norm desired)
    (hes : ∀ e, e ∈ es ↔ IsEdit norm changed actual desired e) (e : Edit V) :
    ¬IsEdit norm changed (actual.editAll es) desired e := by
  intro h
  obtain ⟨hedit, hother⟩ := h.of_editAll hchanged hdesired fun e he => (hes e).mp he
  exact hother e ((hes e).mpr hedit) rfl

end Diff

end OciCcm.Go
