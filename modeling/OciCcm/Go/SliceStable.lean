import Mathlib.Data.List.Basic
import Mathlib.Data.List.Pairwise
import Mathlib.Data.List.Perm.Basic
import Mathlib.Order.Basic

/-! # The stable sort of Go

`sort.SliceStable` sorts blocks of twenty elements by insertion and merges
neighbouring blocks by the SymMerge algorithm. It calls `less` only with an
element and one that stood before it in the unsorted slice. So the result is
sorted by every order that `less` agrees with on such pairs, even if `less`
itself is not an order.
-/

namespace OciCcm.Go

open List

universe u

variable {α : Type u}

/-! ## Binary search -/

/-- The binary search of SymMerge, as `sort.Search` does it. -/
def search (p : Nat → Bool) (i j : Nat) : Nat :=
  if i < j then
    let h := (i + j) / 2
    if p h then search p (h + 1) j else search p i h
  else i
termination_by j - i

/-- The predicate holds just before the result and fails at it, the ends apart. -/
theorem search_spec (p : Nat → Bool) {i j : Nat} (hij : i ≤ j) :
    i ≤ search p i j ∧ search p i j ≤ j ∧
      (search p i j = i ∨ p (search p i j - 1)) ∧ (search p i j = j ∨ ¬p (search p i j)) := by
  fun_induction search p i j with
  | case1 i j hlt h hp ih =>
    obtain ⟨hi, hj, hbefore, hat⟩ := ih (by omega)
    refine ⟨by omega, hj, .inr ?_, hat⟩
    rcases hbefore with heq | hbefore
    · rw [heq]
      exact hp
    · exact hbefore
  | case2 i j hlt h hp ih =>
    obtain ⟨hi, hj, hbefore, hat⟩ := ih (by omega)
    refine ⟨hi, by omega, hbefore, .inr ?_⟩
    rcases hat with heq | hat
    · rw [heq]
      exact hp
    · exact hat
  | case3 i j hlt => exact ⟨Nat.le_refl i, hij, .inl rfl, .inl (by omega)⟩

/-! ## Insertion sort -/

/-- Moves an element to the left while it is less than its neighbour. The elements before
it are given from right to left. -/
def insertLeft (less : α → α → Bool) (x : α) : List α → List α
  | [] => [x]
  | y :: ys => if less x y then y :: insertLeft less x ys else x :: y :: ys

def insertionSort (less : α → α → Bool) (l : List α) : List α :=
  (l.foldl (fun sorted x => insertLeft less x sorted) []).reverse

/-! ## Merging -/

/-- Compares two positions. -/
def lessAt (less : α → α → Bool) (x y : Option α) : Bool :=
  match x, y with
  | some x, some y => less x y
  | _, _ => false

/-- How many elements of the first block belong to the lower half of the merged one. -/
def symSplit (less : α → α → Bool) (A B : List α) : Nat :=
  let mid := (A.length + B.length) / 2
  let stays (c : Nat) : Bool := !lessAt less B[mid - 1 - c]? A[c]?
  if mid < A.length then search stays (mid - B.length) mid else search stays 0 A.length

/-- Merges two neighbouring sorted blocks. The inner pieces that are in the wrong half are
exchanged, and the halves are merged in turn. -/
def symMerge (less : α → α → Bool) (A B : List α) : List α :=
  if A.length = 0 ∨ B.length = 0 then A ++ B
  else if A.length = 1 then
    let i := search (fun h => lessAt less B[h]? A[0]?) 0 B.length
    B.take i ++ A ++ B.drop i
  else if B.length = 1 then
    let i := search (fun h => !lessAt less B[0]? A[h]?) 0 A.length
    A.take i ++ B ++ A.drop i
  else
    let start := symSplit less A B
    let rest := (A.length + B.length) / 2 - start
    symMerge less (A.take start) (B.take rest) ++ symMerge less (A.drop start) (B.drop rest)
termination_by A.length + B.length
decreasing_by
  all_goals
    simp only [length_take, length_drop]
    omega

/-! ## The sort -/

/-- The blocks of `k` elements; the last one may be shorter. -/
def blocks (k : Nat) : Nat → List α → List (List α)
  | 0, _ => []
  | _, [] => []
  | n + 1, l => l.take k :: blocks k n (l.drop k)

/-- Merges the blocks two by two. -/
def mergePass (less : α → α → Bool) : List (List α) → List (List α)
  | A :: B :: rest => symMerge less A B :: mergePass less rest
  | rest => rest

/-- Merges until one block is left. -/
def mergeAll (less : α → α → Bool) : Nat → List (List α) → List α
  | _, [] => []
  | _, [A] => A
  | 0, As => As.flatten
  | n + 1, As => mergeAll less n (mergePass less As)

def sliceStable (less : α → α → Bool) (l : List α) : List α :=
  mergeAll less l.length ((blocks 20 l.length l).map (insertionSort less))

/-! ## Permutation -/

section Perm

variable (less : α → α → Bool)

theorem insertLeft_perm (x : α) (l : List α) : (insertLeft less x l).Perm (x :: l) := by
  induction l with
  | nil => exact List.Perm.refl _
  | cons y ys ih =>
    rw [insertLeft]
    split
    · exact (ih.cons y).trans (List.Perm.swap x y ys)
    · exact List.Perm.refl _

theorem foldl_insertLeft_perm (l sorted : List α) :
    (l.foldl (fun sorted x => insertLeft less x sorted) sorted).Perm (l ++ sorted) := by
  induction l generalizing sorted with
  | nil => exact List.Perm.refl _
  | cons x l ih =>
    refine (ih _).trans (((insertLeft_perm less x sorted).append_left l).trans ?_)
    exact perm_middle

theorem insertionSort_perm (l : List α) : (insertionSort less l).Perm l := by
  refine (reverse_perm _).trans ((foldl_insertLeft_perm less l []).trans ?_)
  rw [append_nil]

theorem symMerge_perm (A B : List α) : (symMerge less A B).Perm (A ++ B) := by
  fun_induction symMerge less A B with
  | case1 A B _ => exact List.Perm.refl _
  | case2 A B _ _ i =>
    have hB : (B.take i ++ B.drop i).Perm B := by rw [take_append_drop]
    refine (perm_append_comm.append_right _).trans ?_
    rw [append_assoc]
    exact hB.append_left A
  | case3 A B _ _ _ i =>
    have hA : (A.take i ++ A.drop i).Perm A := by rw [take_append_drop]
    rw [append_assoc]
    refine (perm_append_comm.append_left _).trans ?_
    rw [← append_assoc]
    exact hA.append_right B
  | case4 A B _ _ _ start rest ih₁ ih₂ =>
    refine (ih₁.append ih₂).trans ?_
    have hswap : (B.take rest ++ (A.drop start ++ B.drop rest)).Perm
        (A.drop start ++ (B.take rest ++ B.drop rest)) := by
      rw [← append_assoc, ← append_assoc]
      exact perm_append_comm.append_right _
    rw [append_assoc]
    refine (hswap.append_left _).trans ?_
    rw [take_append_drop, ← append_assoc, take_append_drop]

theorem flatten_blocks {k : Nat} (hk : 0 < k) {n : Nat} {l : List α} (hn : l.length ≤ n) :
    (blocks k n l).flatten = l := by
  induction n generalizing l with
  | zero =>
    obtain rfl := eq_nil_of_length_eq_zero (Nat.le_zero.mp hn)
    rfl
  | succ n ih =>
    cases l with
    | nil => rfl
    | cons x l =>
      rw [blocks, flatten_cons, ih, take_append_drop]
      · simp only [length_drop, length_cons] at hn ⊢
        omega
      · exact cons_ne_nil x l

theorem length_blocks_le (k n : Nat) (l : List α) : (blocks k n l).length ≤ n := by
  induction n generalizing l with
  | zero => exact Nat.le_refl 0
  | succ n ih =>
    cases l with
    | nil => exact Nat.zero_le _
    | cons x l =>
      rw [blocks, length_cons]
      · exact Nat.succ_le_succ (ih _)
      · exact cons_ne_nil x l

theorem mergePass_perm (As : List (List α)) : (mergePass less As).flatten.Perm As.flatten := by
  fun_induction mergePass less As with
  | case1 A B rest ih =>
    rw [flatten_cons, flatten_cons, flatten_cons, ← append_assoc]
    exact (symMerge_perm less A B).append ih
  | case2 rest _ => exact List.Perm.refl _

theorem mergeAll_perm (n : Nat) (As : List (List α)) :
    (mergeAll less n As).Perm As.flatten := by
  fun_induction mergeAll less n As with
  | case1 n => exact List.Perm.refl _
  | case2 n A => rw [flatten_singleton]
  | case3 As _ _ => exact List.Perm.refl _
  | case4 n As _ _ ih => exact ih.trans (mergePass_perm less As)

theorem flatten_map_perm {f : List α → List α} (hf : ∀ l, (f l).Perm l) (As : List (List α)) :
    (As.map f).flatten.Perm As.flatten := by
  induction As with
  | nil => exact List.Perm.refl _
  | cons A As ih => exact (hf A).append ih

theorem sliceStable_perm (l : List α) : (sliceStable less l).Perm l := by
  refine (mergeAll_perm less _ _).trans ((flatten_map_perm (insertionSort_perm less) _).trans ?_)
  rw [flatten_blocks (by decide) (Nat.le_refl _)]

end Perm

/-! ## Order -/

section Order

variable {less : α → α → Bool} {le : α → α → Prop} {l : List α} {A B : List α} {x : α}
  {As : List (List α)}

/-- Does `less` agree with the order on an element `x` and an element `y` before it? -/
def Agrees (less : α → α → Bool) (le : α → α → Prop) (y x : α) : Prop :=
  (less x y → le x y) ∧ (¬less x y → le y x)

/-- All elements of the second block agree with those of the first one. -/
def Cross (less : α → α → Bool) (le : α → α → Prop) (A B : List α) : Prop :=
  ∀ y ∈ A, ∀ x ∈ B, Agrees less le y x

theorem le_of_mem_take (hl : l.Pairwise le) {i : Nat} {y : α} (hy : l[i]? = some y)
    (hx : x ∈ l.take (i + 1)) : x = y ∨ le x y := by
  obtain ⟨hi, rfl⟩ := List.getElem?_eq_some_iff.mp hy
  rw [take_succ_eq_append_getElem hi, mem_append, mem_singleton] at hx
  rcases hx with hx | hx
  · rw [← take_append_drop i l, drop_eq_getElem_cons hi] at hl
    exact .inr ((pairwise_append.mp hl).2.2 x hx _ mem_cons_self)
  · exact .inl hx

theorem le_of_mem_drop (hl : l.Pairwise le) {i : Nat} {y : α} (hy : l[i]? = some y)
    (hx : x ∈ l.drop i) : x = y ∨ le y x := by
  obtain ⟨hi, rfl⟩ := List.getElem?_eq_some_iff.mp hy
  have hdrop := hl.sublist (drop_sublist i l)
  rw [drop_eq_getElem_cons hi] at hx hdrop
  rcases mem_cons.mp hx with hx | hx
  · exact .inl hx
  · exact .inr ((pairwise_cons.mp hdrop).1 x hx)

/-- What the binary search for the split finds out. -/
theorem symSplit_spec {mid start : Nat} (hmid : mid = (A.length + B.length) / 2)
    (hstart : start = symSplit less A B) :
    start ≤ A.length ∧ start ≤ mid ∧ mid - start ≤ B.length ∧
      (start = 0 ∨ mid - start = B.length ∨ ¬lessAt less B[mid - start]? A[start - 1]?) ∧
      (start = A.length ∨ start = mid ∨ lessAt less B[mid - start - 1]? A[start]?) := by
  have key : ∀ {i j}, i ≤ j → i ≤ mid → j ≤ A.length → j ≤ mid → mid - i ≤ B.length →
      (i = 0 ∨ mid - i = B.length) → (j = A.length ∨ j = mid) →
      start = search (fun c => !lessAt less B[mid - 1 - c]? A[c]?) i j →
      start ≤ A.length ∧ start ≤ mid ∧ mid - start ≤ B.length ∧
        (start = 0 ∨ mid - start = B.length ∨ ¬lessAt less B[mid - start]? A[start - 1]?) ∧
        (start = A.length ∨ start = mid ∨ lessAt less B[mid - start - 1]? A[start]?) := by
    intro i j hij him hjA hjm hiB hi hj heq
    obtain ⟨hlow, hhigh, hbefore, hat⟩ :=
      search_spec (fun c => !lessAt less B[mid - 1 - c]? A[c]?) hij
    rw [← heq] at hlow hhigh hbefore hat
    refine ⟨by omega, by omega, by omega, ?_, ?_⟩
    · rcases hbefore with h | h
      · omega
      · by_cases hzero : start = 0
        · exact .inl hzero
        · refine .inr (.inr ?_)
          rw [show mid - 1 - (start - 1) = mid - start by omega] at h
          simpa using h
    · rcases hat with h | h
      · omega
      · refine .inr (.inr ?_)
        rw [show mid - 1 - start = mid - start - 1 by omega] at h
        simpa using h
  unfold symSplit at hstart
  rw [← hmid] at hstart
  dsimp only at hstart
  split at hstart
  · exact key (by omega) (by omega) (by omega) (by omega) (by omega) (by omega) (by omega) hstart
  · exact key (by omega) (by omega) (by omega) (by omega) (by omega) (by omega) (by omega) hstart

theorem lessAt_some {x y : Option α} {a b : α} (hx : x = some a) (hy : y = some b) :
    lessAt less x y = less a b := by
  rw [hx, hy]
  rfl

theorem le_of_lessAt (hcross : Cross less le A B) {i j : Nat} (hi : i < A.length)
    (hj : j < B.length) :
    ∃ y x, A[i]? = some y ∧ B[j]? = some x ∧ (lessAt less B[j]? A[i]? → le x y) ∧
      (¬lessAt less B[j]? A[i]? → le y x) := by
  have hy : A[i]? = some A[i] := List.getElem?_eq_getElem hi
  have hx : B[j]? = some B[j] := List.getElem?_eq_getElem hj
  obtain ⟨hless, hnot⟩ := hcross A[i] (getElem_mem hi) B[j] (getElem_mem hj)
  rw [lessAt_some hx hy]
  exact ⟨A[i], B[j], hy, hx, hless, hnot⟩

variable [IsTrans α le]

theorem insertLeft_sorted
    (hl : l.Pairwise fun a b => le b a) (hx : ∀ y ∈ l, Agrees less le y x) :
    (insertLeft less x l).Pairwise fun a b => le b a := by
  induction l with
  | nil => exact pairwise_singleton _ x
  | cons y ys ih =>
    obtain ⟨hy, hys⟩ := pairwise_cons.mp hl
    obtain ⟨hless, hnot⟩ := hx y mem_cons_self
    rw [insertLeft]
    split
    · next h =>
        refine pairwise_cons.mpr ⟨fun z hz => ?_, ih hys fun z hz =>
          hx z (mem_cons_of_mem y hz)⟩
        rcases mem_cons.mp ((insertLeft_perm less x ys).mem_iff.mp hz) with rfl | hz
        · exact hless h
        · exact hy z hz
    · next h =>
        refine pairwise_cons.mpr ⟨fun z hz => ?_, hl⟩
        rcases mem_cons.mp hz with rfl | hz
        · exact hnot h
        · exact trans_of le (hy z hz) (hnot h)

theorem foldl_insertLeft_sorted {l sorted : List α}
    (hsorted : sorted.Pairwise fun a b => le b a) (hl : l.Pairwise (Agrees less le))
    (hcross : Cross less le sorted l) :
    (l.foldl (fun sorted x => insertLeft less x sorted) sorted).Pairwise fun a b => le b a := by
  induction l generalizing sorted with
  | nil => exact hsorted
  | cons x l ih =>
    obtain ⟨hx, hl⟩ := pairwise_cons.mp hl
    refine ih (insertLeft_sorted hsorted fun y hy => hcross y hy x mem_cons_self) hl ?_
    intro y hy z hz
    rcases mem_cons.mp ((insertLeft_perm less x sorted).mem_iff.mp hy) with rfl | hy
    · exact hx z hz
    · exact hcross y hy z (mem_cons_of_mem x hz)

theorem insertionSort_sorted
    (hl : l.Pairwise (Agrees less le)) : (insertionSort less l).Pairwise le := by
  rw [insertionSort, pairwise_reverse]
  exact foldl_insertLeft_sorted .nil hl fun y hy => absurd hy not_mem_nil

theorem le_of_take_drop (hA : A.Pairwise le)
    (hB : B.Pairwise le) {i j : Nat}
    (hmid : i = 0 ∨ B.length ≤ j ∨ ∃ a b, A[i - 1]? = some a ∧ B[j]? = some b ∧ le a b) {x y : α}
    (hx : x ∈ A.take i) (hy : y ∈ B.drop j) : le x y := by
  rcases hmid with rfl | hj | ⟨a, b, ha, hb, hab⟩
  · simp at hx
  · rw [drop_eq_nil_of_le hj] at hy
    cases hy
  · have hi : i = i - 1 + 1 := by
      have : i ≠ 0 := by
        rintro rfl
        simp at hx
      omega
    rw [hi] at hx
    rcases le_of_mem_take hA ha hx with rfl | hxa
    · rcases le_of_mem_drop hB hb hy with rfl | hby
      · exact hab
      · exact trans_of le hab hby
    · rcases le_of_mem_drop hB hb hy with rfl | hby
      · exact trans_of le hxa hab
      · exact trans_of le hxa (trans_of le hab hby)

section

variable (hA : A.Pairwise le) (hB : B.Pairwise le)

include hA hB

theorem pairwise_of_put (hone : A.length ≤ 1) {i : Nat}
    (hlow : i = 0 ∨ ∃ b a, B[i - 1]? = some b ∧ A[0]? = some a ∧ le b a)
    (hhigh : B.length ≤ i ∨ ∃ a b, A[0]? = some a ∧ B[i]? = some b ∧ le a b) :
    (B.take i ++ A ++ B.drop i).Pairwise le := by
  have hB' := hB
  rw [← take_append_drop i B, pairwise_append] at hB'
  rw [append_assoc]
  refine pairwise_append.mpr ⟨hB'.1, pairwise_append.mpr ⟨hA, hB'.2.1, ?_⟩, ?_⟩
  · intro a ha b hb
    have ha : a ∈ A.take 1 := by rwa [take_of_length_le hone]
    exact le_of_take_drop hA hB (.inr hhigh) ha hb
  · intro b hb x hx
    rcases mem_append.mp hx with hx | hx
    · exact le_of_take_drop hB hA (j := 0) (hlow.imp_right .inr) hb hx
    · exact hB'.2.2 b hb x hx

/-- What goes to the lower half comes before what goes to the upper one. -/
theorem le_of_symSplit (hcross : Cross less le A B) {mid start : Nat}
    (hmid : mid = (A.length + B.length) / 2) (hstart : start = symSplit less A B) {x y : α}
    (hx : x ∈ A.take start ++ B.take (mid - start))
    (hy : y ∈ A.drop start ++ B.drop (mid - start)) : le x y := by
  obtain ⟨hle, hlemid, hrest, hlow, hhigh⟩ := symSplit_spec hmid hstart
  rcases mem_append.mp hx with hx | hx <;> rcases mem_append.mp hy with hy | hy
  · rw [← take_append_drop start A, pairwise_append] at hA
    exact hA.2.2 x hx y hy
  · refine le_of_take_drop hA hB ?_ hx hy
    by_cases hzero : start = 0
    · exact .inl hzero
    by_cases hfull : B.length ≤ mid - start
    · exact .inr (.inl hfull)
    · obtain ⟨a, b, ha, hb, -, hnot⟩ :=
        le_of_lessAt hcross (i := start - 1) (j := mid - start) (by omega) (by omega)
      refine .inr (.inr ⟨a, b, ha, hb, hnot ?_⟩)
      exact (hlow.resolve_left hzero).resolve_left (by omega)
  · refine le_of_take_drop hB hA ?_ hx hy
    by_cases hzero : mid - start = 0
    · exact .inl hzero
    by_cases hfull : A.length ≤ start
    · exact .inr (.inl hfull)
    · obtain ⟨a, b, ha, hb, hless, -⟩ :=
        le_of_lessAt hcross (i := start) (j := mid - start - 1) (by omega) (by omega)
      refine .inr (.inr ⟨b, a, hb, ha, hless ?_⟩)
      exact (hhigh.resolve_left (by omega)).resolve_left (by omega)
  · rw [← take_append_drop (mid - start) B, pairwise_append] at hB
    exact hB.2.2 x hx y hy

theorem symMerge_sorted (hcross : Cross less le A B) :
    (symMerge less A B).Pairwise le := by
  fun_induction symMerge less A B with
  | case1 A B hempty =>
    rcases hempty with h | h
    · rw [eq_nil_of_length_eq_zero h]
      exact hB
    · rw [eq_nil_of_length_eq_zero h, append_nil]
      exact hA
  | case2 A B hne hone i =>
    -- the single element of the first block is put into the second one
    obtain ⟨-, hi, hbefore, hat⟩ :=
      search_spec (fun h => lessAt less B[h]? A[0]?) (Nat.zero_le B.length)
    refine pairwise_of_put hA hB (by omega) ?_ ?_
    · refine or_iff_not_imp_left.mpr fun hzero => ?_
      obtain ⟨y, x, hy, hx, hless, -⟩ :=
        le_of_lessAt hcross (i := 0) (j := i - 1) (by omega) (by omega)
      exact ⟨x, y, hx, hy, hless (hbefore.resolve_left hzero)⟩
    · refine or_iff_not_imp_left.mpr fun hlt => ?_
      obtain ⟨y, x, hy, hx, -, hnot⟩ := le_of_lessAt hcross (i := 0) (j := i) (by omega) (by omega)
      exact ⟨y, x, hy, hx, hnot (hat.resolve_left (by omega))⟩
  | case3 A B hne hA1 hone i =>
    -- the single element of the second block is put into the first one
    obtain ⟨-, hi, hbefore, hat⟩ :=
      search_spec (fun h => !lessAt less B[0]? A[h]?) (Nat.zero_le A.length)
    refine pairwise_of_put hB hA (by omega) ?_ ?_
    · refine or_iff_not_imp_left.mpr fun hzero => ?_
      obtain ⟨y, x, hy, hx, -, hnot⟩ :=
        le_of_lessAt hcross (i := i - 1) (j := 0) (by omega) (by omega)
      exact ⟨y, x, hy, hx, hnot (by simpa using hbefore.resolve_left hzero)⟩
    · refine or_iff_not_imp_left.mpr fun hlt => ?_
      obtain ⟨y, x, hy, hx, hless, -⟩ := le_of_lessAt hcross (i := i) (j := 0) (by omega) (by omega)
      exact ⟨x, y, hx, hy, hless (by simpa using hat.resolve_left (by omega))⟩
  | case4 A B hne hA1 hB1 start rest ih₁ ih₂ =>
    have hsorted₁ := ih₁ (hA.sublist (take_sublist start A))
      (hB.sublist (take_sublist rest B)) fun y hy x hx =>
        hcross y (mem_of_mem_take hy) x (mem_of_mem_take hx)
    have hsorted₂ := ih₂ (hA.sublist (drop_sublist start A))
      (hB.sublist (drop_sublist rest B)) fun y hy x hx =>
        hcross y (mem_of_mem_drop hy) x (mem_of_mem_drop hx)
    refine pairwise_append.mpr ⟨hsorted₁, hsorted₂, fun x hx y hy => ?_⟩
    rw [(symMerge_perm less _ _).mem_iff] at hx hy
    exact le_of_symSplit hA hB hcross rfl rfl hx hy

end

/-- Blocks that are sorted and agree with the blocks before them. -/
structure SortedBlocks (less : α → α → Bool) (le : α → α → Prop) (As : List (List α)) : Prop where
  sorted : ∀ A ∈ As, A.Pairwise le
  cross : As.Pairwise (Cross less le)

theorem mem_flatten_of_mem_mergePass {A : List α} (hA : A ∈ mergePass less As) (hx : x ∈ A) :
    x ∈ As.flatten :=
  (mergePass_perm less As).mem_iff.mp (mem_flatten.mpr ⟨A, hA, hx⟩)

theorem SortedBlocks.mergePass
    (h : SortedBlocks less le As) : SortedBlocks less le (mergePass less As) := by
  fun_induction Go.mergePass less As with
  | case1 A B rest ih =>
    obtain ⟨hA, hcross⟩ := pairwise_cons.mp h.cross
    obtain ⟨hB, hcross⟩ := pairwise_cons.mp hcross
    have hrest := ih ⟨fun C hC => h.sorted C (by simp [hC]), hcross⟩
    refine ⟨fun C hC => ?_, pairwise_cons.mpr ⟨fun C hC y hy x hx => ?_, hrest.cross⟩⟩
    · rcases mem_cons.mp hC with rfl | hC
      · exact symMerge_sorted (h.sorted A (by simp)) (h.sorted B (by simp))
          (hA B mem_cons_self)
      · exact hrest.sorted C hC
    · obtain ⟨D, hD, hx⟩ := mem_flatten.mp (mem_flatten_of_mem_mergePass hC hx)
      rcases mem_append.mp ((symMerge_perm less A B).mem_iff.mp hy) with hy | hy
      · exact hA D (mem_cons_of_mem B hD) y hy x hx
      · exact hB D hD y hy x hx
  | case2 rest _ => exact h

theorem length_mergePass (As : List (List α)) :
    (mergePass less As).length = (As.length + 1) / 2 := by
  fun_induction mergePass less As with
  | case1 A B rest ih =>
    rw [length_cons, ih, length_cons, length_cons]
    omega
  | case2 rest hrest =>
    cases rest with
    | nil => simp
    | cons A rest =>
      cases rest with
      | nil => simp
      | cons B rest => exact absurd rfl (hrest A B rest)

theorem mergeAll_sorted {n : Nat}
    (h : SortedBlocks less le As) (hn : As.length ≤ n + 1) :
    (mergeAll less n As).Pairwise le := by
  fun_induction mergeAll less n As with
  | case1 n => exact .nil
  | case2 n A => exact h.sorted A (by simp)
  | case3 As hnil hone =>
    -- there is at most one block left
    cases As with
    | nil => exact absurd rfl hnil
    | cons A As =>
      obtain rfl := eq_nil_of_length_eq_zero (show As.length = 0 by simpa using hn)
      exact absurd rfl (hone A)
  | case4 n As hnil hone ih =>
    refine ih (h.mergePass) ?_
    rw [length_mergePass]
    omega

theorem sortedBlocks_insertionSort (hl : l.Pairwise (Agrees less le)) {k : Nat} (hk : 0 < k) :
    SortedBlocks less le ((blocks k l.length l).map (insertionSort less)) := by
  rw [← flatten_blocks hk (Nat.le_refl l.length), pairwise_flatten] at hl
  refine ⟨fun A hA => ?_, pairwise_map.mpr (hl.2.imp fun hcross y hy x hx => ?_)⟩
  · obtain ⟨B, hB, rfl⟩ := mem_map.mp hA
    exact insertionSort_sorted (hl.1 B hB)
  · rw [(insertionSort_perm less _).mem_iff] at hy hx
    exact hcross y hy x hx

/-- The slice is sorted by every order with which `less` agrees on an element and one that
stood before it. -/
theorem sliceStable_sorted
    (hl : l.Pairwise (Agrees less le)) : (sliceStable less l).Pairwise le := by
  refine mergeAll_sorted (sortedBlocks_insertionSort hl (by decide)) ?_
  rw [length_map]
  exact Nat.le_succ_of_le (length_blocks_le 20 l.length l)

end Order

end OciCcm.Go
