import Mathlib.Data.List.Pairwise
import OciCcm.Go.Heap
import OciCcm.Go.Runs

/-! # Slices of parts of arrays

A slice may begin anywhere in its array, and its capacity says how far `append`
may write. Slices of one array are independent of each other if they are apart
with their whole capacities.
-/

namespace OciCcm.Go

open List

universe u

variable {α : Type u} {memory : Heap α} {xs : List α} {p q : Nat}

/-- The values are written from the address on. -/
def Heap.fill (memory : Heap α) (p : Nat) : List α → Heap α
  | [] => memory
  | x :: xs => (memory.store p x).fill (p + 1) xs

theorem Heap.load_fill (h : q < p ∨ p + xs.length ≤ q) :
    (memory.fill p xs).load q = memory.load q := by
  induction xs generalizing memory p with
  | nil => rfl
  | cons x xs ih =>
    rw [length_cons] at h
    have hne : q ≠ p := by omega
    rw [fill, ih (by omega), load_store_of_ne hne]

theorem Heap.map_load_fill : (List.range' p xs.length).map (memory.fill p xs).load = xs := by
  induction xs generalizing memory p with
  | nil => rfl
  | cons x xs ih =>
    rw [length_cons, List.range'_succ, map_cons, fill, ih, load_fill (by omega),
      load_store_self]

@[simp] theorem Heap.next_fill : (memory.fill p xs).next = memory.next := by
  induction xs generalizing memory p with
  | nil => rfl
  | cons x xs ih => exact ih

/-- A slice of type `[]α`. -/
structure View (α : Type u) where
  first : Nat
  len : Nat
  cap : Nat
  len_le : len ≤ cap

/-- The capacity of a new array, by that of the old one and the number of elements. -/
abbrev Growth := Nat → Nat → Nat

namespace View

/-- `s[low:high:max]`, which panics if the bounds are not in order. -/
def slice (s : View α) (low high max : Nat) : Option (View α) :=
  if h : low ≤ high ∧ high ≤ max ∧ max ≤ s.cap then
    some ⟨s.first + low, high - low, max - low, by omega⟩
  else none

def read (memory : Heap α) (s : View α) : List α := (List.range' s.first s.len).map memory.load

/-- A new array with the elements, and with more room if asked for. -/
def new (memory : Heap α) (cap : Nat) (xs : List α) : Heap α × View α :=
  ({ memory with next := memory.next + max xs.length cap }.fill memory.next xs,
    ⟨memory.next, xs.length, max xs.length cap, Nat.le_max_left ..⟩)

/-- `make([]T, 0, cap)`. -/
def make (memory : Heap α) (cap : Nat) : Heap α × View α := new memory cap []

/-- `append(s, xs...)`. -/
def append (grow : Growth) (memory : Heap α) (s : View α) (xs : List α) : Heap α × View α :=
  if h : s.len + xs.length ≤ s.cap then
    (memory.fill (s.first + s.len) xs, ⟨s.first, s.len + xs.length, s.cap, h⟩)
  else new memory (grow s.cap (s.len + xs.length)) (s.read memory ++ xs)

variable {grow : Growth} {s t : View α}

theorem length_read : (s.read memory).length = s.len := by
  rw [read, length_map, length_range']

variable {low high max : Nat}

theorem exists_slice (hlow : low ≤ high) (hhigh : high ≤ max) (hmax : max ≤ s.cap) :
    ∃ t, s.slice low high max = some t ∧ t.first = s.first + low ∧ t.len = high - low ∧
      t.cap = max - low := ⟨_, dif_pos ⟨hlow, hhigh, hmax⟩, rfl, rfl, rfl⟩

theorem read_slice (hfirst : t.first = s.first + low) (hlen : t.len = high - low)
    (hhigh : high ≤ s.len) : t.read memory = ((s.read memory).take high).drop low := by
  rw [read, read, ← map_take, ← map_drop, take_range'_of_length_ge hhigh,
    drop_range', Nat.mul_one, hfirst, hlen]

theorem read_append :
    (append grow memory s xs).2.read (append grow memory s xs).1 = s.read memory ++ xs := by
  unfold append
  split
  · rw [read, ← List.range'_append_1, map_append, Heap.map_load_fill]
    congr 1
    refine map_congr_left fun p hp => Heap.load_fill ?_
    have hp : s.first ≤ p ∧ p < s.first + s.len := mem_range'_1.mp hp
    exact .inl hp.2
  · exact Heap.map_load_fill

/-! ## Slices that are apart -/

def InUse (memory : Heap α) (s : View α) : Prop := s.first + s.cap ≤ memory.next

def Apart (s t : View α) : Prop := s.first + s.cap ≤ t.first ∨ t.first + t.cap ≤ s.first

theorem InUse.append (ht : t.InUse memory) : t.InUse (append grow memory s xs).1 := by
  unfold View.append
  split
  · rwa [InUse, Heap.next_fill]
  · rw [InUse, new, Heap.next_fill]
    exact Nat.le_add_right_of_le ht

theorem inUse_append (hs : s.InUse memory) :
    (append grow memory s xs).2.InUse (append grow memory s xs).1 := by
  unfold append
  split
  · rwa [InUse, Heap.next_fill]
  · simp [InUse, new]

theorem Apart.append (h : s.Apart t) (ht : t.InUse memory) :
    (append grow memory s xs).2.Apart t := by
  unfold View.append
  split
  · exact h
  · exact .inr ht

/-- An append writes within the capacity of its slice, or where nothing is in use. -/
theorem read_append_of_apart (h : s.Apart t) (ht : t.InUse memory) :
    t.read (append grow memory s xs).1 = t.read memory := by
  refine map_congr_left fun p hp => ?_
  have hp := mem_range'_1.mp hp
  have hlen := t.len_le
  unfold Apart InUse at *
  unfold append
  split
  · exact Heap.load_fill (by omega)
  · exact Heap.load_fill (by omega)

end View

/-! ## Appends to several slices -/

/-- Slices with the number of the slice that each was made from by appends. -/
structure Views (α : Type u) where
  memory : Heap α
  views : List (View α × Nat)

namespace Views

/-- An append to one of the slices; the new slice is kept beside the others. -/
def append (grow : Growth) (s : Views α) (e : Nat × List α) : Views α :=
  match s.views[e.1]? with
  | none => s
  | some (v, i) =>
    let (memory, v') := v.append grow s.memory e.2
    ⟨memory, (v', i) :: s.views⟩

/-- The append does not write into slices that were made from another one. -/
def Spares (grow : Growth) (s : Views α) (e : Nat × List α) : Prop :=
  ∀ v ∈ s.views[e.1]?, ∀ w ∈ s.views, v.2 ≠ w.2 →
    w.1.read (s.append grow e).memory = w.1.read s.memory

structure Separate (s : Views α) : Prop where
  inUse : ∀ v ∈ s.views, v.1.InUse s.memory
  pairwise : s.views.Pairwise fun v w => v.2 ≠ w.2 → v.1.Apart w.1

variable {grow : Growth} {s : Views α} {e : Nat × List α} {v w : View α × Nat}

theorem Separate.apart (h : s.Separate) (hv : v ∈ s.views) (hw : w ∈ s.views) (hne : v.2 ≠ w.2) :
    v.1.Apart w.1 := by
  have : Std.Symm fun v w : View α × Nat => v.2 ≠ w.2 → v.1.Apart w.1 :=
    ⟨fun _ _ hapart hne => (hapart hne.symm).symm⟩
  exact h.pairwise.forall_of_forall (fun _ _ hne => absurd rfl hne) hv hw hne

theorem Separate.spares (h : s.Separate) : s.Spares grow e := by
  rintro ⟨v, i⟩ hv w hw hne
  rw [append, Option.mem_def.mp hv]
  exact View.read_append_of_apart (h.apart (mem_of_getElem? hv) hw hne) (h.inUse w hw)

theorem Separate.append (h : s.Separate) : (s.append grow e).Separate := by
  unfold Views.append
  split
  · exact h
  · rename_i v i hv
    have hmem : (v, i) ∈ s.views := mem_of_getElem? hv
    refine ⟨forall_mem_cons.mpr ⟨View.inUse_append (h.inUse _ hmem),
      fun w hw => (h.inUse w hw).append⟩, pairwise_cons.mpr ⟨fun w hw hne => ?_, h.pairwise⟩⟩
    exact (h.apart hmem hw hne).append (h.inUse w hw)

end Views

end OciCcm.Go
