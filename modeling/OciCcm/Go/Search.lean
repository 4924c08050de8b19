import Mathlib.Data.List.Basic

/-! # Loops that return from within

A loop over a list whose body fails, returns a result or goes on to the next
element. What it returns is decided by few of the elements, unless an element at
which the body fails comes before them.
-/

namespace OciCcm.Go.Search

open List

universe u v w

variable {ε : Type u} {α : Type v} {β : Type w}

/-- The loop, with the result after its last element. -/
def search (body : α → Except ε (Option β)) (dflt : Except ε β) : List α → Except ε β
  | [] => dflt
  | x :: xs =>
    match body x with
    | .error err => .error err
    | .ok (some b) => .ok b
    | .ok none => search body dflt xs

theorem of_search_ok {body : α → Except ε (Option β)} {xs : List α} {dflt b : β}
    (h : search body (.ok dflt) xs = .ok b) :
    (b = dflt ∧ ∀ x ∈ xs, body x = .ok none) ∨ ∃ x ∈ xs, body x = .ok (some b) := by
  induction xs with
  | nil => exact .inl ⟨(Except.ok.inj h).symm, by simp⟩
  | cons x xs ih =>
    unfold search at h
    split at h
    · cases h
    · next b' hx =>
      cases h
      exact .inr ⟨x, mem_cons_self, hx⟩
    · next hx =>
      rcases ih h with ⟨rfl, hnone⟩ | ⟨y, hy, hbody⟩
      · exact .inl ⟨rfl, forall_mem_cons.mpr ⟨hx, hnone⟩⟩
      · exact .inr ⟨y, mem_cons_of_mem x hy, hbody⟩

/-- What an element decides. -/
def decided (body : α → Except ε (Option β)) (x : α) : Option β :=
  match body x with
  | .ok b => b
  | .error _ => none

/-- An element at which the body fails comes before all that decide. -/
def Blocked (body : α → Except ε (Option β)) (xs : List α) : Prop :=
  ∃ before x after err, xs = before ++ x :: after ∧ body x = .error err ∧
    ∀ y ∈ before, decided body y = none

variable {body : α → Except ε (Option β)} {dflt : Except ε β} {x : α} {xs ys : List α} {e₀ : ε}

theorem not_blocked_nil : ¬Blocked body [] := by
  rintro ⟨before, x, after, err, heq, -⟩
  simp at heq

theorem not_blocked_of_forall (h : ∀ x ∈ xs, ∃ b, body x = .ok b) : ¬Blocked body xs := by
  rintro ⟨before, x, after, err, rfl, hx, -⟩
  obtain ⟨b, hb⟩ := h x (by simp)
  rw [hx] at hb
  cases hb

theorem blocked_cons : Blocked body (x :: xs) ↔
    (∃ err, body x = .error err) ∨ decided body x = none ∧ Blocked body xs := by
  constructor
  · rintro ⟨before, y, after, err, heq, hy, hbefore⟩
    cases before with
    | nil =>
      obtain ⟨rfl, -⟩ := List.cons.inj heq
      exact .inl ⟨err, hy⟩
    | cons z before =>
      obtain ⟨rfl, rfl⟩ := List.cons.inj heq
      exact .inr ⟨hbefore _ mem_cons_self, before, y, after, err, rfl, hy,
        fun w hw => hbefore w (mem_cons_of_mem _ hw)⟩
  · rintro (⟨err, hx⟩ | ⟨hx, before, y, after, err, rfl, hy, hbefore⟩)
    · exact ⟨[], x, xs, err, rfl, hx, fun _ h => absurd h not_mem_nil⟩
    · refine ⟨x :: before, y, after, err, rfl, hy, fun w hw => ?_⟩
      rcases mem_cons.mp hw with rfl | hw
      · exact hx
      · exact hbefore w hw

theorem search_of_blocked (herr : ∀ x err, body x = .error err → err = e₀)
    (h : Blocked body xs) : search body dflt xs = .error e₀ := by
  induction xs with
  | nil => exact absurd h not_blocked_nil
  | cons x xs ih =>
    unfold search
    split
    · next err hx => rw [herr x err hx]
    · next b hx =>
      rcases blocked_cons.mp h with ⟨err, hfails⟩ | ⟨hnone, -⟩
      · rw [hx] at hfails
        cases hfails
      · rw [decided, hx] at hnone
        cases hnone
    · next hx =>
      rcases blocked_cons.mp h with ⟨err, hfails⟩ | ⟨-, hxs⟩
      · rw [hx] at hfails
        cases hfails
      · exact ih hxs

theorem search_of_not_blocked (h : ¬Blocked body xs) :
    search body dflt xs = (xs.findSome? (decided body)).elim dflt .ok := by
  induction xs with
  | nil => rfl
  | cons x xs ih =>
    rw [blocked_cons, not_or, not_and] at h
    unfold search
    split
    · next err hx => exact absurd ⟨err, hx⟩ h.1
    · next b hx => simp [decided, hx]
    · next hx =>
      have hnone : decided body x = none := by rw [decided, hx]
      rw [ih (h.2 hnone), List.findSome?_cons, hnone]

theorem findSome?_filter {f : α → Option β} {p : α → Bool} (hp : ∀ x, (f x).isSome → p x)
    (xs : List α) : (xs.filter p).findSome? f = xs.findSome? f := by
  induction xs with
  | nil => rfl
  | cons x xs ih =>
    by_cases hx : p x
    · rw [filter_cons_of_pos hx, List.findSome?_cons, List.findSome?_cons, ih]
    · have hnone : f x = none := Option.not_isSome_iff_eq_none.mp fun h => hx (hp x h)
      rw [filter_cons_of_neg hx, List.findSome?_cons, hnone, ih]

/-- Two lists that have the same elements of a kind, to which all that decide belong: the results
are the same exactly if both or none of the lists are blocked. -/
theorem search_eq_search_iff {p : α → Bool} (hp : ∀ x, (decided body x).isSome → p x)
    (hfilter : xs.filter p = ys.filter p) (herr : ∀ x err, body x = .error err → err = e₀)
    (hdflt : dflt ≠ .error e₀) :
    search body dflt xs = search body dflt ys ↔ (Blocked body xs ↔ Blocked body ys) := by
  have hnot : ∀ zs, ¬Blocked body zs → search body dflt zs ≠ .error e₀ := by
    intro zs hzs
    rw [search_of_not_blocked hzs]
    cases zs.findSome? (decided body) with
    | none => exact hdflt
    | some b => exact fun h => nomatch h
  by_cases hxs : Blocked body xs
  · by_cases hys : Blocked body ys
    · rw [search_of_blocked herr hxs, search_of_blocked herr hys]
      exact iff_of_true rfl (iff_of_true hxs hys)
    · rw [search_of_blocked herr hxs]
      exact iff_of_false (fun h => hnot ys hys h.symm) fun h => hys (h.mp hxs)
  · by_cases hys : Blocked body ys
    · rw [search_of_blocked herr hys]
      exact iff_of_false (hnot xs hxs) fun h => hxs (h.mpr hys)
    · rw [search_of_not_blocked hxs, search_of_not_blocked hys, ← findSome?_filter hp xs, hfilter,
        findSome?_filter hp]
      exact iff_of_true rfl (iff_of_false hxs hys)

end OciCcm.Go.Search
