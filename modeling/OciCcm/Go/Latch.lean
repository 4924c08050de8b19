import Mathlib.Data.List.Induction
import Mathlib.Logic.Function.Iterate
import Mathlib.Order.Lattice

/-! # Latches

A latch is a proposition that a run of events establishes, destroys or leaves
alone. After the run it holds exactly if the last event that touched it
established it, or if it held before and no event destroyed it. For events that
are taken in the order of their keys, this is a statement about the keys.
-/

namespace OciCcm.Go.Latch

open List

/-- What an event does to a latch. -/
inductive Event where
  | set
  | reset
  | hold
deriving DecidableEq, Repr

namespace Event

def apply : Event → Prop → Prop
  | set, _ => True
  | reset, _ => False
  | hold, p => p

/-- Two events in a row as one event. -/
def andThen (first : Event) : Event → Event
  | set => set
  | reset => reset
  | hold => first

variable {e : Event} {p q : Prop}

theorem apply_mono (h : p → q) (hp : e.apply p) : e.apply q := by
  cases e with
  | set => trivial
  | reset => exact hp
  | hold => exact h hp

theorem apply_congr (h : p ↔ q) : e.apply p ↔ e.apply q := ⟨apply_mono h.mp, apply_mono h.mpr⟩

theorem apply_andThen (e e' : Event) : (e.andThen e').apply p ↔ e'.apply (e.apply p) := by
  cases e' <;> exact Iff.rfl

theorem apply_apply : e.apply (e.apply p) ↔ e.apply p := by
  cases e <;> exact Iff.rfl

section Iterate

universe u

variable {σ : Type u} {f : σ → σ} {P : σ → Prop}

theorem iterate_iff (h : ∀ x, P (f x) ↔ e.apply (P x)) (n : Nat) {x : σ} :
    P (f^[n + 1] x) ↔ e.apply (P x) := by
  induction n generalizing x with
  | zero => exact h x
  | succ n ih => rw [Function.iterate_succ_apply, ih, apply_congr (h x), apply_apply]

end Iterate

end Event

def run (events : List Event) (start : Prop) : Prop :=
  events.foldl (fun p e => e.apply p) start

theorem run_concat (events : List Event) (e : Event) (start : Prop) :
    run (events ++ [e]) start = e.apply (run events start) := by
  simp [run]

theorem run_cons (e : Event) (events : List Event) (start : Prop) :
    run (e :: events) start = run events (e.apply start) := rfl

theorem run_congr {events : List Event} {p q : Prop} (h : p ↔ q) : run events p ↔ run events q := by
  rw [propext h]

section Sorted

universe v w

variable {α : Type v} {K : Type w} [LinearOrder K] {f : α → K} {e : α → Event} {l : List α}
  {start : Prop}

/-- Over events in the order of their keys, a latch is set in the end exactly if some event sets it
and all that reset it have smaller keys, or if it is set at the start and no event resets it. -/
theorem run_map_iff (hsorted : l.Pairwise fun a b => f a ≤ f b)
    (hne : ∀ a ∈ l, ∀ b ∈ l, e a = .set → e b = .reset → f b ≠ f a) :
    run (l.map e) start ↔
      (∃ a ∈ l, e a = .set ∧ ∀ b ∈ l, e b = .reset → f b < f a) ∨
        (start ∧ ∀ b ∈ l, e b ≠ .reset) := by
  induction l using List.reverseRecOn with
  | nil => simp [run]
  | append_singleton l x ih =>
    obtain ⟨hl, -, hlast⟩ := pairwise_append.mp hsorted
    replace ih := ih hl fun a ha b hb =>
      hne a (mem_append_left _ ha) b (mem_append_left _ hb)
    have hle : ∀ b ∈ l, f b ≤ f x := fun b hb => hlast b hb x mem_cons_self
    rw [map_append, map_singleton, run_concat]
    cases hx : e x with
    | set =>
      refine iff_of_true trivial (.inl ⟨x, mem_concat_self, hx, fun b hb hreset => ?_⟩)
      refine lt_of_le_of_ne ?_ (hne x mem_concat_self b hb hx hreset)
      rcases mem_append.mp hb with hb | hb
      · exact hle b hb
      · exact (congrArg f (mem_singleton.mp hb)).le
    | reset =>
      refine iff_of_false id ?_
      rintro (⟨a, ha, hset, hreset⟩ | ⟨-, hno⟩)
      · rcases mem_append.mp ha with ha | ha
        · exact absurd (hreset x mem_concat_self hx) (hle a ha).not_gt
        · rw [mem_singleton.mp ha, hx] at hset
          cases hset
      · exact hno x mem_concat_self hx
    | hold =>
      simpa [hx, Event.apply, or_and_right, exists_or, or_imp, forall_and] using ih

end Sorted

end OciCcm.Go.Latch
