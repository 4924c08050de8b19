import Mathlib.Data.List.AList
import Mathlib.Data.List.Induction
import Mathlib.Data.List.Perm.Basic

/-! # Go maps and loops that fill them

A map with string keys is a list of entries without duplicate keys. The order
of the entries carries no meaning: a `range` statement visits the entries in an
order of its own choosing, which `RangeOrder` makes explicit.
-/

namespace OciCcm.Go

open List

universe u v w

/-- A Go `map[string]V`. -/
abbrev GoMap (V : Type u) := AList (fun _ : String => V)

namespace GoMap

variable {V : Type u} {k : String} {m : GoMap V}

def toPairs (m : GoMap V) : List (String × V) := m.entries.map fun e => (e.1, e.2)

theorem map_fst_toPairs (m : GoMap V) : m.toPairs.map Prod.fst = m.keys := by
  simp [toPairs, AList.keys, List.keys, Function.comp_def]

theorem nodup_toPairs (m : GoMap V) : (m.toPairs.map Prod.fst).Nodup := by
  rw [map_fst_toPairs]
  exact m.keys_nodup

theorem mem_toPairs {v : V} :
    (k, v) ∈ m.toPairs ↔ m.lookup k = some v := by
  have h : (k, v) ∈ m.toPairs ↔ (⟨k, v⟩ : Sigma fun _ : String => V) ∈ m.entries := by
    constructor
    · intro hk
      obtain ⟨⟨a, b⟩, he, heq⟩ := mem_map.mp hk
      obtain ⟨rfl, rfl⟩ := Prod.mk.inj heq
      exact he
    · intro he
      exact mem_map.mpr ⟨_, he, rfl⟩
  rw [h, ← AList.mem_lookup_iff, Option.mem_def]

theorem toPairs_eq_singleton_iff {v : V} :
    m.toPairs = [(k, v)] ↔ ∀ k' v', m.lookup k' = some v' ↔ k' = k ∧ v' = v := by
  constructor
  · intro h k' v'
    rw [← mem_toPairs, h, mem_singleton, Prod.mk.injEq]
  · intro h
    have hperm : m.toPairs.Perm [(k, v)] := by
      refine (perm_ext_iff_of_nodup m.nodup_toPairs.of_map (nodup_singleton _)).mpr ?_
      rintro ⟨k', v'⟩
      rw [mem_toPairs, h, mem_singleton, Prod.mk.injEq]
    exact perm_singleton.mp hperm

theorem mem_iff_exists_lookup :
    k ∈ m ↔ ∃ v, m.lookup k = some v := by
  rw [← AList.lookup_isSome, Option.isSome_iff_exists]

theorem mem_of_lookup {v : V} (h : m.lookup k = some v) : k ∈ m :=
  mem_iff_exists_lookup.mpr ⟨v, h⟩

theorem lookup_insert_eq_ite (m : GoMap V) (k k' : String) (v : V) :
    (m.insert k v).lookup k' = if k' = k then some v else m.lookup k' := by
  by_cases h : k' = k
  · subst h
    simp
  · simp [h, AList.lookup_insert_ne h]

theorem lookup_erase_eq_ite (m : GoMap V) (k k' : String) :
    (m.erase k).lookup k' = if k' = k then none else m.lookup k' := by
  by_cases h : k' = k
  · subst h
    simp
  · simp [h, AList.lookup_erase_ne h]

/-- `reflect.DeepEqual(m, m')`. -/
def deepEqual [DecidableEq V] (m m' : GoMap V) : Bool := decide (m.toPairs.Perm m'.toPairs)

theorem deepEqual_iff [DecidableEq V] {m m' : GoMap V} :
    m.deepEqual m' = true ↔ ∀ k, m.lookup k = m'.lookup k := by
  have hnodup : ∀ m : GoMap V, m.toPairs.Nodup := fun m => .of_map _ m.nodup_toPairs
  rw [deepEqual, decide_eq_true_eq, perm_ext_iff_of_nodup (hnodup m) (hnodup m')]
  constructor
  · intro h k
    ext v
    simpa only [Option.mem_def, mem_toPairs] using h (k, v)
  · rintro h ⟨k, v⟩
    rw [mem_toPairs, mem_toPairs, h k]

def ofPairs (l : List (String × V)) : GoMap V := (l.map fun e => Sigma.mk e.1 e.2).toAList

end GoMap

/-- The orders in which the `range` statements of one call visit their maps.
The statements of a function body are numbered from zero. -/
structure RangeOrder where
  range : Nat → {V : Type u} → GoMap V → List (String × V)
  perm : ∀ (loop : Nat) {V : Type u} (m : GoMap V), (range loop m).Perm m.toPairs

theorem GoMap.filter_toPairs {V : Type u} {m : GoMap V} {k : String} {v : V}
    (h : m.lookup k = some v) : m.toPairs.filter (·.1 = k) = [(k, v)] := by
  have hmem : (k, v) ∈ m.toPairs := GoMap.mem_toPairs.mpr h
  have hnodup := (List.Nodup.of_map _ m.nodup_toPairs).filter (·.1 = k)
  refine perm_singleton.mp
    ((perm_ext_iff_of_nodup hnodup (nodup_singleton _)).mpr fun e => ?_)
  rw [mem_filter, mem_singleton]
  constructor
  · rintro ⟨he, hkey⟩
    exact inj_on_of_nodup_map m.nodup_toPairs he hmem (of_decide_eq_true hkey)
  · rintro rfl
    exact ⟨hmem, decide_eq_true rfl⟩

namespace RangeOrder

variable {V : Type u}

/-- Every `range` statement visits the entries as they are stored. -/
def stored : RangeOrder.{u} where
  range _ _ m := m.toPairs
  perm _ _ _ := .refl _

/-- Every `range` statement visits the entries with certain keys first. -/
def first (o : RangeOrder.{u}) (p : String → Bool) : RangeOrder.{u} where
  range loop _ m := (o.range loop m).filter (p ·.1) ++ (o.range loop m).filter (!p ·.1)
  perm loop _ m := (filter_append_perm _ _).trans (o.perm loop m)

/-- Every `range` statement visits the entry with the given key first. -/
def keyFirst (k : String) : RangeOrder.{u} :=
  stored.first (· = k)

theorem mem_range {o : RangeOrder.{u}} {loop : Nat} {m : GoMap V} {k : String} {v : V} :
    (k, v) ∈ o.range loop m ↔ m.lookup k = some v := by
  rw [(o.perm loop m).mem_iff, GoMap.mem_toPairs]

theorem nodup_range (o : RangeOrder.{u}) (loop : Nat) (m : GoMap V) :
    ((o.range loop m).map Prod.fst).Nodup :=
  ((o.perm loop m).map Prod.fst).nodup_iff.mpr m.nodup_toPairs

end RangeOrder

/-! ## Filling a map

`fill f xs` is the loop `for x := range xs` whose body either fails, skips the
iteration or writes one entry into the map being built.
-/

section Fill

variable {α : Type u} {ε : Type v} {V : Type w} {f : α → Except ε (Option (String × V))}

theorem bind_eq_ok {α β : Type u} {x : Except ε α} {f : α → Except ε β} {b : β} :
    (x >>= f) = .ok b ↔ ∃ a, x = .ok a ∧ f a = .ok b := by
  cases x with
  | error e => simp [bind, Except.bind]
  | ok a => simp [bind, Except.bind]

theorem bind_ok {α β : Type u} {x : Except ε α} {f : α → Except ε β} {b : β}
    (h : (x >>= f) = .ok b) : ∃ a, x = .ok a ∧ f a = .ok b :=
  bind_eq_ok.mp h

theorem ok_bind {α β : Type u} (a : α) (f : α → Except ε β) : (Except.ok a >>= f) = f a := rfl

theorem error_bind {α β : Type u} (err : ε) (f : α → Except ε β) :
    (Except.error err >>= f) = .error err := rfl

theorem map_ok {α β : Type u} {x : Except ε α} {f : α → β} {b : β} (h : x.map f = .ok b) :
    ∃ a, x = .ok a ∧ f a = b := by
  cases x with
  | error e => cases h
  | ok a => exact ⟨a, rfl, Except.ok.inj h⟩

theorem mapError_ok {α : Type u} {ε' : Type v} {x : Except ε α} {f : ε → ε'} {a : α} :
    x.mapError f = .ok a ↔ x = .ok a := by
  cases x with
  | error err => exact ⟨fun h => (nomatch h), fun h => (nomatch h)⟩
  | ok b => exact ⟨fun h => congrArg _ (Except.ok.inj h), fun h => congrArg _ (Except.ok.inj h)⟩

theorem toOption_ok {α : Type u} {x : Except ε α} {a : α} (h : x.toOption = some a) :
    x = .ok a := by
  cases x with
  | error err => cases h
  | ok b => exact congrArg Except.ok (Option.some.inj h)

def fillStep (f : α → Except ε (Option (String × V))) (m : GoMap V) (x : α) :
    Except ε (GoMap V) :=
  match f x with
  | .error e => .error e
  | .ok none => .ok m
  | .ok (some (k, v)) => .ok (m.insert k v)

/-- Run the loop body over all of `xs`, starting with the empty map. -/
def fill (f : α → Except ε (Option (String × V))) (xs : List α) : Except ε (GoMap V) :=
  xs.foldlM (fillStep f) ∅

theorem fillStep_ok {m₀ m : GoMap V} {x : α} (h : fillStep f m₀ x = .ok m) :
    (f x = .ok none ∧ m = m₀) ∨ ∃ k v, f x = .ok (some (k, v)) ∧ m = m₀.insert k v := by
  unfold fillStep at h
  split at h
  · cases h
  · next hx => exact .inl ⟨hx, (Except.ok.inj h).symm⟩
  · next k v hx => exact .inr ⟨k, v, hx, (Except.ok.inj h).symm⟩

theorem foldlM_cons_ok {σ : Type w} {step : σ → α → Except ε σ} {x : α} {xs : List α} {s₀ s : σ}
    (h : (x :: xs).foldlM step s₀ = .ok s) :
    ∃ s₁, step s₀ x = .ok s₁ ∧ xs.foldlM step s₁ = .ok s := by
  rw [foldlM_cons] at h
  exact bind_ok h

/-- The loop invariant: iterations have succeeded, entries are old or written by
an iteration, and keys that are old or written are present. -/
theorem foldlM_fillStep_inv {xs : List α} {m₀ m : GoMap V} (h : xs.foldlM (fillStep f) m₀ = .ok m) :
    (∀ x ∈ xs, ∃ r, f x = .ok r) ∧
    (∀ k v, m.lookup k = some v → m₀.lookup k = some v ∨ ∃ x ∈ xs, f x = .ok (some (k, v))) ∧
    (∀ k, (k ∈ m₀ ∨ ∃ x ∈ xs, ∃ v, f x = .ok (some (k, v))) → k ∈ m) := by
  induction xs generalizing m₀ with
  | nil =>
    obtain rfl : m₀ = m := Except.ok.inj h
    exact ⟨by simp, fun k v hk => .inl hk, by simp⟩
  | cons x xs ih =>
    obtain ⟨m₁, hx, hxs⟩ := foldlM_cons_ok h
    obtain ⟨hok, hval, hkey⟩ := ih hxs
    rcases fillStep_ok hx with ⟨hfx, rfl⟩ | ⟨k, v, hfx, rfl⟩
    · refine ⟨by simpa [hfx] using hok, fun k v hk => ?_, fun k hk => hkey k ?_⟩
      · rcases hval k v hk with h₀ | ⟨y, hy, hfy⟩
        · exact .inl h₀
        · exact .inr ⟨y, mem_cons_of_mem _ hy, hfy⟩
      · simpa [hfx] using hk
    · refine ⟨by simpa [hfx] using hok, fun k' v' hk => ?_, fun k' hk => hkey k' ?_⟩
      · rcases hval k' v' hk with h₁ | ⟨y, hy, hfy⟩
        · rw [GoMap.lookup_insert_eq_ite] at h₁
          split at h₁
          · next heq =>
              cases h₁
              exact .inr ⟨x, mem_cons_self, heq ▸ hfx⟩
          · exact .inl h₁
        · exact .inr ⟨y, mem_cons_of_mem _ hy, hfy⟩
      · rw [AList.mem_insert]
        rcases hk with hk | ⟨y, hy, v', hfy⟩
        · exact .inl (.inr hk)
        · rcases mem_cons.mp hy with rfl | hy
          · rw [hfx] at hfy
            simp only [Except.ok.injEq, Option.some.injEq, Prod.mk.injEq] at hfy
            exact .inl (.inl hfy.1.symm)
          · exact .inr ⟨y, hy, v', hfy⟩

variable {f : α → Except ε (Option (String × V))} {xs : List α} {m : GoMap V}

theorem fill_ok_iterations (h : fill f xs = .ok m) : ∀ x ∈ xs, ∃ r, f x = .ok r :=
  (foldlM_fillStep_inv h).1

theorem fill_of_iterations (h : ∀ x ∈ xs, ∃ r, f x = .ok r) : ∃ m, fill f xs = .ok m := by
  suffices ∀ m₀ : GoMap V, ∃ m, xs.foldlM (fillStep f) m₀ = .ok m from this ∅
  intro m₀
  induction xs generalizing m₀ with
  | nil => exact ⟨m₀, rfl⟩
  | cons x xs ih =>
    obtain ⟨r, hr⟩ := h x mem_cons_self
    obtain ⟨m₁, hstep⟩ : ∃ m₁, fillStep f m₀ x = .ok m₁ := by
      rw [fillStep, hr]
      cases r with
      | none => exact ⟨_, rfl⟩
      | some e => exact ⟨_, rfl⟩
    obtain ⟨m, hm⟩ := ih (fun y hy => h y (mem_cons_of_mem x hy)) m₁
    refine ⟨m, ?_⟩
    rw [foldlM_cons, hstep]
    exact hm

theorem exists_of_lookup_fill (h : fill f xs = .ok m) {k : String} {v : V}
    (hk : m.lookup k = some v) : ∃ x ∈ xs, f x = .ok (some (k, v)) := by
  rcases (foldlM_fillStep_inv h).2.1 k v hk with h₀ | hx
  · simp at h₀
  · exact hx

theorem mem_fill (h : fill f xs = .ok m) {k : String} {v : V} {x : α} (hx : x ∈ xs)
    (hfx : f x = .ok (some (k, v))) : k ∈ m :=
  (foldlM_fillStep_inv h).2.2 k (.inr ⟨x, hx, v, hfx⟩)

/-- When iterations never disagree about a key, the result holds exactly what
the iterations write. -/
theorem lookup_fill (h : fill f xs = .ok m)
    (hagree : ∀ x ∈ xs, ∀ y ∈ xs, ∀ k v v', f x = .ok (some (k, v)) →
      f y = .ok (some (k, v')) → v = v') (k : String) (v : V) :
    m.lookup k = some v ↔ ∃ x ∈ xs, f x = .ok (some (k, v)) := by
  refine ⟨exists_of_lookup_fill h, ?_⟩
  rintro ⟨x, hx, hfx⟩
  obtain ⟨v', hv'⟩ := GoMap.mem_iff_exists_lookup.mp (mem_fill h hx hfx)
  obtain ⟨y, hy, hfy⟩ := exists_of_lookup_fill h hv'
  rw [hv', hagree x hx y hy k v v' hfx hfy]

theorem lookup_fill_range {W : Type u} {o : RangeOrder.{u}} {loop : Nat} {src : GoMap W}
    {f : String × W → Except ε (Option (String × V))}
    (hkey : ∀ k w k' v, f (k, w) = .ok (some (k', v)) → k' = k)
    (h : fill f (o.range loop src) = .ok m) (k : String) (v : V) :
    m.lookup k = some v ↔ ∃ w, src.lookup k = some w ∧ f (k, w) = .ok (some (k, v)) := by
  rw [lookup_fill h]
  · constructor
    · rintro ⟨⟨k', w⟩, hmem, hf⟩
      obtain rfl := hkey k' w k v hf
      exact ⟨w, RangeOrder.mem_range.mp hmem, hf⟩
    · rintro ⟨w, hw, hf⟩
      exact ⟨(k, w), RangeOrder.mem_range.mpr hw, hf⟩
  · rintro ⟨k₁, w₁⟩ h₁ ⟨k₂, w₂⟩ h₂ k v v' hf₁ hf₂
    obtain rfl := hkey _ _ _ _ hf₁
    obtain rfl := hkey _ _ _ _ hf₂
    have hw : w₁ = w₂ := by
      have := (RangeOrder.mem_range.mp h₁).symm.trans (RangeOrder.mem_range.mp h₂)
      exact Option.some.inj this
    subst hw
    have := hf₁.symm.trans hf₂
    simpa using this

/-- Two loops over one map whose iterations differ in a function of the value: whatever the two
orders, so do the results. -/
theorem fill_range_congr {W : Type u} {V' : Type w} {o o' : RangeOrder.{u}} {loop loop' : Nat}
    {src : GoMap W} {f : String × W → Except ε (Option (String × V))}
    {g : String × W → Except ε (Option (String × V'))} {c : V → V'}
    (hkey : ∀ k w k' v, f (k, w) = .ok (some (k', v)) → k' = k)
    (hg : ∀ e, g e = (f e).map (Option.map (Prod.map id c)))
    (h : fill f (o.range loop src) = .ok m) :
    ∃ m', fill g (o'.range loop' src) = .ok m' ∧ ∀ k, m'.lookup k = (m.lookup k).map c := by
  have hg_ok : ∀ k w k' v', g (k, w) = .ok (some (k', v')) ↔
      ∃ v, f (k, w) = .ok (some (k', v)) ∧ c v = v' := by
    intro k w k' v'
    rw [hg]
    rcases f (k, w) with err | _ | ⟨k₁, v₁⟩
    · simp [Except.map]
    · simp [Except.map]
    · simp [Except.map, and_assoc]
  obtain ⟨m', hm'⟩ : ∃ m', fill g (o'.range loop' src) = .ok m' := by
    refine fill_of_iterations fun e he => ?_
    obtain ⟨r, hr⟩ := fill_ok_iterations h e
      ((o.perm loop src).mem_iff.mpr ((o'.perm loop' src).mem_iff.mp he))
    rw [hg, hr]
    exact ⟨_, rfl⟩
  refine ⟨m', hm', fun k => ?_⟩
  ext v'
  have hkey' : ∀ k w k' v', g (k, w) = .ok (some (k', v')) → k' = k := by
    intro k w k' v' hkv
    obtain ⟨v, hv, -⟩ := (hg_ok k w k' v').mp hkv
    exact hkey k w k' v hv
  rw [lookup_fill_range hkey' hm', Option.map_eq_some_iff]
  simp only [lookup_fill_range hkey h, hg_ok]
  constructor
  · rintro ⟨w, hw, v, hv, rfl⟩
    exact ⟨v, ⟨w, hw, hv⟩, rfl⟩
  · rintro ⟨v, ⟨w, hw, hv⟩, rfl⟩
    exact ⟨w, hw, v, hv, rfl⟩

end Fill

/-! ## Entering each key once

A loop that remembers which keys it has met and writes the entries of an element
only when its key is new.
-/

section EnterOnce

variable {α : Type u} {κ : Type v} {V : Type w} [DecidableEq κ]

/-- Write the given entries one after another. -/
def insertAll (m : GoMap V) (es : List (String × V)) : GoMap V :=
  es.foldl (fun m e => m.insert e.1 e.2) m

theorem lookup_insertAll (m : GoMap V) {es : List (String × V)} (hes : (es.map Prod.fst).Nodup)
    (k : String) (v : V) :
    (insertAll m es).lookup k = some v ↔
      (k, v) ∈ es ∨ (k ∉ es.map Prod.fst ∧ m.lookup k = some v) := by
  induction es generalizing m with
  | nil => simp [insertAll]
  | cons e es ih =>
    obtain ⟨k', v'⟩ := e
    rw [map_cons, nodup_cons] at hes
    change (insertAll (m.insert k' v') es).lookup k = some v ↔ _
    rw [ih _ hes.2, GoMap.lookup_insert_eq_ite]
    by_cases hk : k = k'
    · subst hk
      have hnot : (k, v) ∉ es := fun hmem => hes.1 (mem_map.mpr ⟨_, hmem, rfl⟩)
      simp [hnot, hes.1, eq_comm]
    · simp [hk]

/-- A loop that writes to a new map a value for every entry. Every key is written once, so the
order of the loop does not matter. -/
def GoMap.convert {W : Type w} (f : String → V → W) (m : GoMap V) : GoMap W :=
  insertAll ∅ (m.toPairs.map fun e => (e.1, f e.1 e.2))

theorem GoMap.lookup_convert {W : Type w} (f : String → V → W) (m : GoMap V) (k : String) :
    (m.convert f).lookup k = (m.lookup k).map (f k) := by
  ext w
  have hnodup : ((m.toPairs.map fun e => (e.1, f e.1 e.2)).map Prod.fst).Nodup := by
    rw [map_map]
    exact m.nodup_toPairs
  rw [convert, lookup_insertAll _ hnodup, Option.map_eq_some_iff]
  constructor
  · rintro (hmem | ⟨-, hempty⟩)
    · obtain ⟨⟨k', v⟩, hv, heq⟩ := mem_map.mp hmem
      obtain ⟨rfl, rfl⟩ := Prod.mk.inj heq
      exact ⟨v, GoMap.mem_toPairs.mp hv, rfl⟩
    · cases hempty
  · rintro ⟨v, hv, rfl⟩
    exact .inl (mem_map.mpr ⟨(k, v), GoMap.mem_toPairs.mpr hv, rfl⟩)

/-- Loops that write the entries of maps to a new one, later ones over earlier ones. -/
def GoMap.mergeAll (ms : List (GoMap V)) : GoMap V :=
  ms.foldl (fun merged m => insertAll merged m.toPairs) ∅

theorem lookup_insertAll_toPairs (m m' : GoMap V) (k : String) :
    (insertAll m m'.toPairs).lookup k = (m'.lookup k).or (m.lookup k) := by
  ext v
  rw [lookup_insertAll _ m'.nodup_toPairs, GoMap.mem_toPairs, GoMap.map_fst_toPairs,
    AList.mem_keys.symm.not, ← AList.lookup_eq_none, Option.or_eq_some_iff]

theorem GoMap.lookup_mergeAll_pair (m m' : GoMap V) (k : String) :
    (GoMap.mergeAll [m, m']).lookup k = (m'.lookup k).or (m.lookup k) := by
  simp only [mergeAll, foldl_cons, foldl_nil, lookup_insertAll_toPairs,
    AList.lookup_empty, Option.or_none]

/-- One iteration: skip a key that has been met, else write the entries. -/
def enterStep (key : α → κ) (entries : α → List (String × V)) (st : GoMap V × List κ) (x : α) :
    GoMap V × List κ :=
  if key x ∈ st.2 then st else (insertAll st.1 (entries x), key x :: st.2)

theorem mem_foldl_enterStep (key : α → κ) (entries : α → List (String × V)) (xs : List α)
    (n : κ) : n ∈ (xs.foldl (enterStep key entries) (∅, [])).2 ↔ ∃ x ∈ xs, key x = n := by
  induction xs using List.reverseRecOn with
  | nil => simp
  | append_singleton xs x ih =>
    rw [foldl_append, foldl_cons, foldl_nil]
    have hsnd : ∀ st : GoMap V × List κ,
        n ∈ (enterStep key entries st x).2 ↔ n ∈ st.2 ∨ key x = n := by
      intro st
      unfold enterStep
      split
      · next hmem => exact ⟨.inl, fun h => h.elim id fun e => e ▸ hmem⟩
      · simp [or_comm, eq_comm]
    rw [hsnd, ih]
    simp [or_and_right, exists_or]

theorem find?_concat_iff (key : α → κ) (xs : List α) (x q : α) :
    (xs ++ [x]).find? (fun y => key y = key q) = some q ↔
      xs.find? (fun y => key y = key q) = some q ∨
        (x = q ∧ ∀ y ∈ xs, key y ≠ key q) := by
  rw [List.find?_append]
  cases h : xs.find? (fun y => key y = key q) with
  | some q' =>
    have hq' : q' ∈ xs ∧ key q' = key q :=
      ⟨mem_of_find?_eq_some h, by simpa using List.find?_some h⟩
    simp only [Option.some_or, Option.some.injEq]
    exact ⟨.inl, fun hor => hor.elim id fun hx => absurd hq'.2 (hx.2 q' hq'.1)⟩
  | none =>
    have hnone : ∀ y ∈ xs, key y ≠ key q := by
      simpa using List.find?_eq_none.mp h
    simp only [Option.none_or, reduceCtorEq, false_or]
    constructor
    · intro hx
      have hxq : x = q := by
        simpa using mem_of_find?_eq_some hx |> mem_singleton.mp |>.symm
      exact ⟨hxq, hnone⟩
    · rintro ⟨rfl, -⟩
      simp

/-- When different keys write different names, the result of the loop holds the
entries of the first element of every key. -/
theorem lookup_foldl_enterStep {key : α → κ} {entries : α → List (String × V)} {xs : List α}
    (hnodup : ∀ x ∈ xs, ((entries x).map Prod.fst).Nodup)
    (hdisj : ∀ x ∈ xs, ∀ y ∈ xs, ∀ k, k ∈ (entries x).map Prod.fst →
      k ∈ (entries y).map Prod.fst → key x = key y) (k : String) (v : V) :
    (xs.foldl (enterStep key entries) (∅, [])).1.lookup k = some v ↔
      ∃ q, xs.find? (fun y => key y = key q) = some q ∧ (k, v) ∈ entries q := by
  induction xs using List.reverseRecOn with
  | nil => simp
  | append_singleton xs x ih =>
    have ih := ih (fun y hy => hnodup y (mem_append_left _ hy))
      (fun y hy z hz => hdisj y (mem_append_left _ hy) z (mem_append_left _ hz))
    have hx : x ∈ xs ++ [x] := by simp
    have hmet := mem_foldl_enterStep key entries xs (key x)
    rw [foldl_append, foldl_cons, foldl_nil]
    generalize xs.foldl (enterStep key entries) (∅, []) = st at ih hmet ⊢
    simp only [find?_concat_iff]
    unfold enterStep
    split
    · next hmem =>
        -- the key has been met: nothing is written and `x` is no first element
        rw [ih]
        refine exists_congr fun q => and_congr_left fun _ => ⟨.inl, fun h => h.elim id ?_⟩
        rintro ⟨rfl, hno⟩
        obtain ⟨y, hy, hyx⟩ := hmet.mp hmem
        exact absurd hyx (hno y hy)
    · next hmem =>
        have hfresh : ∀ y ∈ xs, key y ≠ key x := fun y hy h => hmem (hmet.mpr ⟨y, hy, h⟩)
        rw [lookup_insertAll _ (hnodup x hx), ih]
        constructor
        · rintro (hkv | ⟨-, q, hq, hkv⟩)
          · exact ⟨x, .inr ⟨rfl, hfresh⟩, hkv⟩
          · exact ⟨q, .inl hq, hkv⟩
        · rintro ⟨q, hq | ⟨rfl, -⟩, hkv⟩
          · refine .inr ⟨fun hk => ?_, q, hq, hkv⟩
            have hqxs := mem_of_find?_eq_some hq
            exact hfresh q hqxs (hdisj q (mem_append_left _ hqxs) x hx k
              (mem_map_of_mem hkv) hk)
          · exact .inl hkv

end EnterOnce

end OciCcm.Go
