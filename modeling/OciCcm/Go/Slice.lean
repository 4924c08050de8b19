import OciCcm.Go.Heap

/-! # Slices that share their memory

A slice is a view of the first elements of an array. `append` writes after them if
the array has room, and several slices of one array then see what was written.
-/

namespace OciCcm.Go

open List

universe u

/-- A slice from the start of an array. -/
structure Slice where
  array : Pointer
  len : Nat
  cap : Nat
deriving DecidableEq, Repr

namespace Slice

variable {α : Type u}

/-- The element with the given number is written; the array is written without gaps. -/
def write (elements : List α) (i : Nat) (x : α) : List α :=
  elements.take i ++ x :: elements.drop (i + 1)

/-- `make([]T, 0)`. -/
def make (memory : Heap (List α)) : Heap (List α) × Slice :=
  (memory.alloc [], ⟨memory.next, 0, 0⟩)

/-- `append(s, x)`, where `grow` gives the room of a new array for so many elements. -/
def append (grow : Nat → Nat) (memory : Heap (List α)) (s : Slice) (x : α) :
    Heap (List α) × Slice :=
  if s.len < s.cap then
    (memory.store s.array (write (memory.load s.array) s.len x), { s with len := s.len + 1 })
  else
    (memory.alloc ((memory.load s.array).take s.len ++ [x]),
      ⟨memory.next, s.len + 1, max (s.len + 1) (grow (s.len + 1))⟩)

def read (memory : Heap (List α)) (s : Slice) : List α := (memory.load s.array).take s.len

/-! ## What an append writes -/

/-- The array of the slice is in use and has the elements of the slice. -/
structure Valid (memory : Heap (List α)) (s : Slice) : Prop where
  inUse : s.array < memory.next
  len_le : s.len ≤ (memory.load s.array).length

variable {grow : Nat → Nat} {memory : Heap (List α)} {s t : Slice} {x : α} {k : Nat}
  {elements : List α} {i : Nat}

theorem take_write (hi : i ≤ elements.length) :
    (write elements i x).take i = elements.take i := by
  rw [write, take_append_of_le_length (by rw [length_take]; omega), take_take,
    Nat.min_self]

theorem take_succ_write (hi : i ≤ elements.length) :
    (write elements i x).take (i + 1) = elements.take i ++ [x] := by
  have hlength : (elements.take i).length = i := length_take_of_le hi
  rw [write, take_append, hlength, take_of_length_le (by omega), Nat.add_sub_cancel_left,
    take_succ_cons, take_zero]

theorem length_le_write (hi : i ≤ elements.length) :
    i + 1 ≤ (write elements i x).length ∧ elements.length ≤ (write elements i x).length := by
  rw [write, length_append, length_take_of_le hi, length_cons, length_drop]
  omega

theorem length_read (hs : s.Valid memory) : (s.read memory).length = s.len :=
  length_take_of_le hs.len_le

theorem valid_append (hs : s.Valid memory) :
    (append grow memory s x).2.Valid (append grow memory s x).1 := by
  unfold append
  split
  · refine ⟨hs.inUse, ?_⟩
    rw [Heap.load_store_self]
    exact (length_le_write hs.len_le).1
  · refine ⟨Nat.lt_succ_self _, ?_⟩
    rw [Heap.load_alloc_self, length_append, length_take_of_le hs.len_le]
    exact Nat.le_refl _

theorem read_append (hs : s.Valid memory) :
    (append grow memory s x).2.read (append grow memory s x).1 = s.read memory ++ [x] := by
  unfold append read
  split
  · rw [Heap.load_store_self]
    exact take_succ_write hs.len_le
  · rw [Heap.load_alloc_self]
    refine take_of_length_le ?_
    rw [length_append, length_take_of_le hs.len_le]
    exact Nat.le_refl _

theorem Valid.append (ht : t.Valid memory) (hs : s.Valid memory) :
    t.Valid (append grow memory s x).1 := by
  unfold Slice.append
  split
  · refine ⟨ht.inUse, ?_⟩
    by_cases heq : t.array = s.array
    · rw [heq, Heap.load_store_self]
      exact Nat.le_trans (heq ▸ ht.len_le) (length_le_write hs.len_le).2
    · rw [Heap.load_store_of_ne heq]
      exact ht.len_le
  · refine ⟨Nat.lt_succ_of_lt ht.inUse, ?_⟩
    rw [Heap.load_alloc_of_lt ht.inUse]
    exact ht.len_le

theorem take_read_append (ht : t.Valid memory) (hs : s.Valid memory) (hk : k ≤ s.len) :
    (t.read (append grow memory s x).1).take k = (t.read memory).take k := by
  unfold append read
  split
  · by_cases heq : t.array = s.array
    · have hmin : min (min k t.len) s.len = min k t.len := by omega
      have htake (l : List α) : (l.take t.len).take k = (l.take s.len).take (min k t.len) := by
        rw [take_take, take_take, hmin]
      rw [heq, Heap.load_store_self, htake, htake, take_write hs.len_le]
    · rw [Heap.load_store_of_ne heq]
  · rw [Heap.load_alloc_of_lt ht.inUse]

theorem read_append_self (hs : s.Valid memory) :
    s.read (append grow memory s x).1 = s.read memory := by
  have htake : (s.read (append grow memory s x).1).take s.len = (s.read memory).take s.len :=
    take_read_append hs hs (Nat.le_refl _)
  rwa [take_of_length_le (Nat.le_of_eq (length_read (hs.append hs))),
    take_of_length_le (Nat.le_of_eq (length_read hs))] at htake

theorem read_append_of_ne (ht : t.Valid memory) (hne : t.array ≠ s.array) :
    t.read (append grow memory s x).1 = t.read memory := by
  unfold append read
  split
  · rw [Heap.load_store_of_ne hne]
  · rw [Heap.load_alloc_of_lt ht.inUse]

theorem array_ne_append (ht : t.Valid memory) (hne : t.array ≠ s.array) :
    t.array ≠ (append grow memory s x).2.array := by
  unfold append
  split
  · exact hne
  · exact Nat.ne_of_lt ht.inUse

theorem array_append_of_full (hfull : s.cap ≤ s.len) :
    (append grow memory s x).2.array = memory.next := by
  rw [append, if_neg (Nat.not_lt.mpr hfull)]

end Slice

end OciCcm.Go
