import Mathlib.Data.Finset.Sum
import Mathlib.Data.List.Perm.Subperm

/-! # Scans that consume a set of wanted keys

A list of existing items is compared with a set of wanted keys. An item lists
the keys it can stand for, in order of preference. An item that stands for a
key still wanted is kept and the key is crossed off; any other item is kept or
dropped by a rule of its own. What is left of the wanted keys has no item yet.
-/

namespace OciCcm.Go.Scan

open List

universe u v

variable {ρ : Type u} {κ : Type v} [DecidableEq κ]

/-- One item: `claims` are the keys it can stand for, `fallback` says whether it is kept
when none of them is wanted. -/
def step (claims : ρ → List κ) (fallback : ρ → Bool) (st : List ρ × Finset κ) (r : ρ) :
    List ρ × Finset κ :=
  match (claims r).find? (· ∈ st.2) with
  | some k => (st.1 ++ [r], st.2.erase k)
  | none => if fallback r then (st.1 ++ [r], st.2) else st

/-- The kept items and the keys that are left. -/
def scan (claims : ρ → List κ) (fallback : ρ → Bool) (items : List ρ) (wanted : Finset κ) :
    List ρ × Finset κ :=
  items.foldl (step claims fallback) ([], wanted)

/-- A scan of items for wanted keys, with the items that it keeps and the keys that are left. -/
inductive Scans (claims : ρ → List κ) (fallback : ρ → Bool) :
    List ρ → Finset κ → List ρ → Finset κ → Prop where
  | nil {wanted} : Scans claims fallback [] wanted [] wanted
  | takes {r k items wanted kept left} (hfind : (claims r).find? (· ∈ wanted) = some k)
    (h : Scans claims fallback items (wanted.erase k) kept left) :
    Scans claims fallback (r :: items) wanted (r :: kept) left
  | keeps {r items wanted kept left} (hnone : ∀ k ∈ claims r, k ∉ wanted) (hf : fallback r)
    (h : Scans claims fallback items wanted kept left) :
    Scans claims fallback (r :: items) wanted (r :: kept) left
  | drops {r items wanted kept left} (hnone : ∀ k ∈ claims r, k ∉ wanted) (hf : ¬fallback r)
    (h : Scans claims fallback items wanted kept left) :
    Scans claims fallback (r :: items) wanted kept left

variable {claims : ρ → List κ} {fallback : ρ → Bool} {items items' kept kept' : List ρ}
  {wanted left left' : Finset κ} {r : ρ} {k : κ} {new : Finset κ → List ρ}

theorem exists_scans (items : List ρ) (wanted : Finset κ) :
    ∃ kept left, Scans claims fallback items wanted kept left := by
  induction items generalizing wanted with
  | nil => exact ⟨[], wanted, .nil⟩
  | cons r items ih =>
    cases hfind : (claims r).find? (· ∈ wanted) with
    | some k =>
      obtain ⟨kept, left, h⟩ := ih (wanted.erase k)
      exact ⟨r :: kept, left, .takes hfind h⟩
    | none =>
      have hnone : ∀ k ∈ claims r, k ∉ wanted := by simpa using List.find?_eq_none.mp hfind
      obtain ⟨kept, left, h⟩ := ih wanted
      by_cases hf : fallback r
      · exact ⟨r :: kept, left, .keeps hnone hf h⟩
      · exact ⟨kept, left, .drops hnone hf h⟩

namespace Scans

theorem find?_eq_none_of_forall (h : ∀ k ∈ claims r, k ∉ wanted) :
    (claims r).find? (· ∈ wanted) = none := by
  simpa using h

variable (h : Scans claims fallback items wanted kept left)

include h

theorem foldl_step (before : List ρ) :
    items.foldl (step claims fallback) (before, wanted) = (before ++ kept, left) := by
  induction h generalizing before with
  | nil => simp
  | takes hfind h ih => simp [step, hfind, ih]
  | keeps hnone hf h ih => simp [step, find?_eq_none_of_forall hnone, hf, ih]
  | drops hnone hf h ih => simp [step, find?_eq_none_of_forall hnone, hf, ih]

theorem scan_eq : scan claims fallback items wanted = (kept, left) := h.foldl_step []

theorem append
    (h' : Scans claims fallback items' left kept' left') :
    Scans claims fallback (items ++ items') wanted (kept ++ kept') left' := by
  induction h with
  | nil => exact h'
  | takes hfind _ ih => exact .takes hfind (ih h')
  | keeps hnone hf _ ih => exact .keeps hnone hf (ih h')
  | drops hnone hf _ ih => exact .drops hnone hf (ih h')

/-- Dropped items leave no trace, so a scan of the kept ones meets the same states. -/
theorem again : Scans claims fallback kept wanted kept left := by
  induction h with
  | nil => exact .nil
  | takes hfind _ ih => exact .takes hfind ih
  | keeps hnone hf _ ih => exact .keeps hnone hf ih
  | drops _ _ _ ih => exact ih

theorem left_subset : left ⊆ wanted := by
  induction h with
  | nil => exact fun _ h => h
  | takes _ _ ih => exact ih.trans (Finset.erase_subset _ _)
  | keeps _ _ _ ih | drops _ _ _ ih => exact ih

theorem kept_sublist : kept.Sublist items := by
  induction h with
  | nil => exact .slnil
  | takes _ _ ih | keeps _ _ _ ih => exact ih.cons_cons _
  | drops _ _ _ ih => exact ih.cons _

theorem mem_kept_of_fallback (hr : r ∈ items) (hf : fallback r) : r ∈ kept := by
  induction h with
  | nil => exact hr
  | takes _ _ ih | keeps _ _ _ ih => exact mem_cons.mpr ((mem_cons.mp hr).imp_right ih)
  | drops _ hno _ ih =>
    rcases mem_cons.mp hr with rfl | hr
    · exact absurd hf hno
    · exact ih hr

theorem fallback_or_claims (hr : r ∈ kept) : fallback r ∨ ∃ k ∈ claims r, k ∈ wanted := by
  induction h with
  | nil => cases hr
  | takes hfind _ ih =>
    rcases mem_cons.mp hr with rfl | hr
    · exact .inr ⟨_, mem_of_find?_eq_some hfind, by simpa using List.find?_some hfind⟩
    · exact (ih hr).imp_right fun ⟨k, hk, hwanted⟩ => ⟨k, hk, Finset.mem_of_mem_erase hwanted⟩
  | keeps _ hf _ ih =>
    rcases mem_cons.mp hr with rfl | hr
    · exact .inl hf
    · exact ih hr
  | drops _ _ _ ih => exact ih hr

theorem left_or_kept (hk : k ∈ wanted) : k ∈ left ∨ ∃ r ∈ kept, k ∈ claims r := by
  induction h with
  | nil => exact .inl hk
  | @takes r k' _ _ _ _ hfind _ ih =>
    by_cases heq : k = k'
    · exact .inr ⟨r, mem_cons_self, heq ▸ mem_of_find?_eq_some hfind⟩
    · exact (ih (Finset.mem_erase.mpr ⟨heq, hk⟩)).imp_right fun ⟨r, hr, hkr⟩ =>
        ⟨r, mem_cons_of_mem _ hr, hkr⟩
  | keeps _ _ _ ih =>
    exact (ih hk).imp_right fun ⟨r, hr, hkr⟩ => ⟨r, mem_cons_of_mem _ hr, hkr⟩
  | drops _ _ _ ih => exact ih hk

/-- A key that is left has no item that can stand for it, other than kept ones that stand
for a key they prefer. -/
theorem mem_kept_of_left (hr : r ∈ items) (hkr : k ∈ claims r) (hk : k ∈ left) :
    r ∈ kept ∧ claims r ≠ [k] := by
  induction h with
  | nil => cases hr
  | @takes r' k' _ _ _ _ hfind h ih =>
    rcases mem_cons.mp hr with rfl | hr
    · refine ⟨mem_cons_self, fun hsingle => Finset.ne_of_mem_erase (h.left_subset hk) ?_⟩
      have hk' := mem_of_find?_eq_some hfind
      rw [hsingle] at hk'
      exact (mem_singleton.mp hk').symm
    · exact (ih hr hk).imp_left (mem_cons_of_mem _)
  | keeps hnone _ h ih =>
    rcases mem_cons.mp hr with rfl | hr
    · exact absurd (h.left_subset hk) (hnone k hkr)
    · exact (ih hr hk).imp_left (mem_cons_of_mem _)
  | drops hnone _ h ih =>
    rcases mem_cons.mp hr with rfl | hr
    · exact absurd (h.left_subset hk) (hnone k hkr)
    · exact ih hr hk

/-- Among the items that stand for one key exclusively, the first one is kept if the key is
wanted, and no other. -/
theorem mem_kept_iff_first (hr : r ∈ items) (hkr : k ∈ claims r) (hf : ¬fallback r)
    (honly : ∀ r' ∈ items, k ∈ claims r' → claims r' = [k]) :
    r ∈ kept ↔ k ∈ wanted ∧ items.find? (fun r' => k ∈ claims r') = some r := by
  have hclaims : claims r = [k] := honly r hr hkr
  -- a kept item that stands for the key has taken it
  have hwanted {items wanted kept left} (h : Scans claims fallback items wanted kept left)
      (hmem : r ∈ kept) : k ∈ wanted := by
    obtain ⟨k', hk', hwanted⟩ := (h.fallback_or_claims hmem).resolve_left hf
    rw [hclaims] at hk'
    exact mem_singleton.mp hk' ▸ hwanted
  induction h with
  | nil => cases hr
  | @takes x k' items wanted kept left hfind h ih =>
    have hk' := mem_of_find?_eq_some hfind
    by_cases hkx : k ∈ claims x
    · obtain rfl : k' = k := by
        rw [honly x mem_cons_self hkx] at hk'
        exact mem_singleton.mp hk'
      have hmem : k' ∈ wanted := by simpa using List.find?_some hfind
      have hnot : r ∉ kept := fun hmem => Finset.notMem_erase k' _ (hwanted h hmem)
      simp [hkx, hmem, hnot, eq_comm]
    · have hrx : r ≠ x := fun heq => hkx (heq ▸ hkr)
      have hne : k ≠ k' := fun heq => hkx (heq ▸ hk')
      have hmem : r ∈ items := by simpa [hrx] using hr
      have ih := ih hmem fun r' hr' => honly r' (mem_cons_of_mem _ hr')
      simp [hkx, hrx, ih, hne]
  | @keeps x items wanted kept left hnone hfx h ih =>
    have hrx : r ≠ x := fun heq => hf (heq ▸ hfx)
    have hmem : r ∈ items := by simpa [hrx] using hr
    have ih := ih hmem fun r' hr' => honly r' (mem_cons_of_mem _ hr')
    by_cases hkx : k ∈ claims x
    · have hno := hnone k hkx
      exact iff_of_false (fun h' => hno (hwanted h (by simpa [hrx] using h'))) (fun h' => hno h'.1)
    · simp [hkx, hrx, ih]
  | @drops x items wanted kept left hnone hfx h ih =>
    by_cases hkx : k ∈ claims x
    · have hno := hnone k hkx
      exact iff_of_false (fun h' => hno (hwanted h h')) (fun h' => hno h'.1)
    · have hrx : r ≠ x := fun heq => hkx (heq ▸ hkr)
      have hmem : r ∈ items := by simpa [hrx] using hr
      have ih := ih hmem fun r' hr' => honly r' (mem_cons_of_mem _ hr')
      simp [hkx, ih]

/-- Items that stand for no key, or are kept without one, are kept or dropped by their own rule
alone. -/
theorem filter_kept {p : ρ → Bool} (hp : ∀ r ∈ items, p r → claims r = [] ∨ fallback r) :
    kept.filter p = items.filter fun r => p r && fallback r := by
  induction h with
  | nil => rfl
  | @takes r _ _ _ _ _ hfind _ ih =>
    have ih := ih fun r' hr' => hp r' (mem_cons_of_mem _ hr')
    have hne : claims r ≠ [] := fun hnil => by simp [hnil] at hfind
    have hpr : p r → fallback r := fun hpr => (hp r mem_cons_self hpr).resolve_left hne
    by_cases hr : p r
    · simp [ih, hr, hpr hr]
    · simp [ih, hr]
  | keeps _ hf _ ih =>
    simp [ih fun r' hr' => hp r' (mem_cons_of_mem _ hr'), hf, filter_cons]
  | drops _ hno _ ih => simp [ih fun r' hr' => hp r' (mem_cons_of_mem _ hr'), hno]

theorem kept_eq_filter (hf : ∀ r ∈ items, claims r = [] ∨ fallback r) :
    kept = items.filter fallback := by
  simpa using h.filter_kept (p := fun _ => true) fun r hr _ => hf r hr

/-- If only items without keys are kept for their own sake, each of the others takes a key. -/
theorem length_kept_add_card (hf : ∀ r ∈ items, fallback r → claims r = []) :
    kept.length + left.card = wanted.card + items.countP fallback := by
  induction h with
  | nil => simp
  | @takes r k items wanted _ _ hfind _ ih =>
    have ih := ih fun r' hr' => hf r' (mem_cons_of_mem _ hr')
    have hk : k ∈ wanted := by simpa using List.find?_some hfind
    have hcard := Finset.card_erase_add_one hk
    have hr : ¬fallback r := fun hr => by simp [hf r mem_cons_self hr] at hfind
    rw [countP_cons_of_neg hr, length_cons]
    omega
  | keeps _ hr _ ih =>
    have ih := ih fun r' hr' => hf r' (mem_cons_of_mem _ hr')
    rw [countP_cons_of_pos hr, length_cons]
    omega
  | drops _ hr _ ih =>
    rw [countP_cons_of_neg hr]
    exact ih fun r' hr' => hf r' (mem_cons_of_mem _ hr')

omit h in
/-- Where items stand for pairs of keys, the first item takes the left key of its pair and the
second one the right key. -/
theorem mem_left_iff {α : Type*} [DecidableEq α] {claims : ρ → List (α ⊕ α)}
    {wanted left : Finset (α ⊕ α)} (h : Scans claims fallback items wanted kept left)
    (hclaims : ∀ r ∈ items, ∀ k ∈ claims r, ∃ a, claims r = [.inl a, .inr a]) (a : α) :
    (.inl a ∈ left ↔ .inl a ∈ wanted ∧ items.countP (claims · = [.inl a, .inr a]) = 0) ∧
    (.inr a ∈ left ↔ .inr a ∈ wanted ∧
      items.countP (claims · = [.inl a, .inr a]) ≤ if .inl a ∈ wanted then 1 else 0) := by
  induction h with
  | nil => simp
  | @takes r k items wanted _ _ hfind _ ih =>
    have ih := ih fun r' hr' => hclaims r' (mem_cons_of_mem _ hr')
    obtain ⟨b, hb⟩ := hclaims r mem_cons_self k (mem_of_find?_eq_some hfind)
    rw [hb] at hfind
    simp only [countP_cons, hb]
    grind
  | @keeps r items wanted _ _ hnone _ _ ih | @drops r items wanted _ _ hnone _ _ ih =>
    have ih := ih fun r' hr' => hclaims r' (mem_cons_of_mem _ hr')
    by_cases ha : claims r = [.inl a, .inr a]
    · have hl := hnone (.inl a) (by simp [ha])
      have hr := hnone (.inr a) (by simp [ha])
      simp [ih, hl, hr]
    · simp [ih, ha]

end Scans

theorem scans : Scans claims fallback items wanted (scan claims fallback items wanted).1
    (scan claims fallback items wanted).2 := by
  obtain ⟨kept, left, h⟩ := @exists_scans _ _ _ claims fallback items wanted
  rwa [h.scan_eq]

theorem scan_empty : scan claims fallback items ∅ = (items.filter fallback, ∅) := by
  refine Scans.scan_eq ?_
  induction items with
  | nil => exact .nil
  | cons r items ih =>
    by_cases hf : fallback r
    · rw [filter_cons_of_pos hf]
      exact .keeps (by simp) hf ih
    · rw [filter_cons_of_neg hf]
      exact .drops (by simp) hf ih

/-- Items that are made for distinct wanted keys are kept, and take these keys. -/
theorem scans_map {α : Type*} {make : α → ρ} {key : α → κ} {xs : List α} (hnodup : (xs.map key).Nodup)
    (hwanted : ∀ x ∈ xs, key x ∈ wanted)
    (htakes : ∀ x ∈ xs, ∀ left ⊆ wanted, key x ∈ left →
      (claims (make x)).find? (· ∈ left) = some (key x)) :
    Scans claims fallback (xs.map make) wanted (xs.map make) (wanted \ (xs.map key).toFinset) := by
  induction xs generalizing wanted with
  | nil => simpa using .nil
  | cons x xs ih =>
    obtain ⟨hx, hnodup⟩ := nodup_cons.mp hnodup
    refine .takes (htakes x mem_cons_self wanted (Finset.Subset.refl _)
      (hwanted x mem_cons_self)) ?_
    rw [map_cons, toFinset_cons, Finset.sdiff_insert, ← Finset.erase_sdiff_comm]
    refine ih hnodup (fun y hy => ?_) fun y hy left hsub => ?_
    · refine Finset.mem_erase.mpr ⟨fun heq => hx ?_, hwanted y (mem_cons_of_mem _ hy)⟩
      exact heq ▸ mem_map_of_mem hy
    · exact htakes y (mem_cons_of_mem _ hy) left (hsub.trans (Finset.erase_subset _ _))

/-- The kept items, and new ones for the keys that are left. -/
def rebuild (claims : ρ → List κ) (fallback : ρ → Bool) (new : Finset κ → List ρ)
    (items : List ρ) (wanted : Finset κ) : List ρ :=
  (scan claims fallback items wanted).1 ++ new (scan claims fallback items wanted).2

theorem mem_rebuild_of_fallback (hr : r ∈ items) (hf : fallback r) :
    r ∈ rebuild claims fallback new items wanted :=
  mem_append_left _ (scans.mem_kept_of_fallback hr hf)

theorem rebuild_empty (hnew : new ∅ = []) :
    rebuild claims fallback new items ∅ = items.filter fallback := by
  rw [rebuild, scan_empty, hnew, append_nil]

theorem exists_rebuild (hk : k ∈ wanted) (hnew : ∀ left, k ∈ left → ∃ r ∈ new left, k ∈ claims r) :
    ∃ r ∈ rebuild claims fallback new items wanted, k ∈ claims r := by
  rcases scans.left_or_kept hk with hleft | ⟨r, hr, hkr⟩
  · obtain ⟨r, hr, hkr⟩ := hnew _ hleft
    exact ⟨r, mem_append_right _ hr, hkr⟩
  · exact ⟨r, mem_append_left _ hr, hkr⟩

theorem filter_rebuild {p : ρ → Bool} (hclaims : ∀ r ∈ items, p r → claims r = [])
    (hnew : ∀ r ∈ new (scan claims fallback items wanted).2, ¬p r) :
    (rebuild claims fallback new items wanted).filter p =
      items.filter fun r => p r && fallback r := by
  rw [rebuild, filter_append, scans.filter_kept fun r hr h => .inl (hclaims r hr h),
    filter_eq_nil_iff.mpr hnew, append_nil]

/-- Rebuilding again has no effect if the new items are found again and no further ones are
made after them. -/
theorem rebuild_rebuild (hnew : ∀ left ⊆ wanted, ∃ left',
      Scans claims fallback (new left) left (new left) left' ∧ new left' = []) :
    rebuild claims fallback new (rebuild claims fallback new items wanted) wanted =
      rebuild claims fallback new items wanted := by
  obtain ⟨left', hscans, hnil⟩ := hnew (scan claims fallback items wanted).2 scans.left_subset
  have hscan := (scans.again.append hscans).scan_eq
  rw [← rebuild] at hscan
  rw [rebuild, hscan, hnil, append_nil]

/-! ## Rebuilt lists -/

section Rebuilt

variable [DecidableEq ρ]

/-- No item occurs more often than in the old list, unless it occurs once. -/
def Rebuilt (old new : List ρ) : Prop := ∀ x, new.count x ≤ max (old.count x) 1

theorem Rebuilt.trans {old mid new : List ρ} (h : Rebuilt old mid) (h' : Rebuilt mid new) :
    Rebuilt old new := by
  intro x
  have hmid := h x
  have hnew := h' x
  omega

theorem rebuilt_append {old kept added : List ρ} (hkept : kept.Sublist old) (hadded : added.Nodup)
    (hdisjoint : kept.Disjoint added) : Rebuilt old (kept ++ added) := by
  intro x
  rw [count_append]
  by_cases hx : x ∈ added
  · have hzero : kept.count x = 0 := count_eq_zero.mpr fun h => hdisjoint h hx
    have hone := nodup_iff_count_le_one.mp hadded x
    omega
  · rw [count_eq_zero.mpr hx]
    have hle := hkept.count_le x
    omega

theorem Rebuilt.perm {old new : List ρ} (h : Rebuilt old new)
    (hlength : new.length = old.length) (hsub : ∀ x ∈ new, x ∈ old) : new.Perm old := by
  refine List.Subperm.perm_of_length_le (subperm_ext_iff.mpr fun x hx => ?_) hlength.ge
  have hpos := count_pos_iff.mpr (hsub x hx)
  have hle := h x
  omega

end Rebuilt

end OciCcm.Go.Scan
