import Mathlib.Logic.Function.Basic

/-! # Interleaved processes

Processes with a state of their own that share a state. In a run they move one
at a time and in any order, and every move comes with what the environment
answers to it.

By the rules at the end an assertion about each process holds throughout a run
when the moves of a process establish its own next assertion and leave those of
the others alone.
-/

namespace OciCcm.Go.Interleaving

universe u

variable {ι S L E : Type u}

/-- The shared state, and the states of all processes. -/
structure Config (ι S L : Type u) where
  shared : S
  locals : ι → L

/-- What a process does in one move. -/
abbrev Step (ι S L E : Type u) := ι → E → S → L → S × L

variable [DecidableEq ι]

def move (step : Step ι S L E) (c : Config ι S L) (m : ι × E) : Config ι S L where
  shared := (step m.1 m.2 c.shared (c.locals m.1)).1
  locals := Function.update c.locals m.1 (step m.1 m.2 c.shared (c.locals m.1)).2

def run (step : Step ι S L E) (c : Config ι S L) (moves : List (ι × E)) : Config ι S L :=
  moves.foldl (move step) c

/-- Every move of the run is made where it may be made. -/
def Along (step : Step ι S L E) (May : Config ι S L → ι × E → Prop) (c : Config ι S L) :
    List (ι × E) → Prop
  | [] => True
  | m :: moves => May c m ∧ Along step May (move step c m) moves

instance Along.decidable (step : Step ι S L E) (May : Config ι S L → ι × E → Prop)
    [∀ c m, Decidable (May c m)] (c : Config ι S L) (moves : List (ι × E)) :
    Decidable (Along step May c moves) :=
  match moves with
  | [] => inferInstanceAs (Decidable True)
  | m :: moves =>
    have := Along.decidable step May (move step c m) moves
    inferInstanceAs (Decidable (_ ∧ _))

variable {step : Step ι S L E} {May : Config ι S L → ι × E → Prop} {c : Config ι S L}
  {moves : List (ι × E)} {m : ι × E} {Inv : Config ι S L → Prop}

@[simp] theorem locals_move_self :
    (move step c m).locals m.1 = (step m.1 m.2 c.shared (c.locals m.1)).2 :=
  Function.update_self ..

@[simp] theorem locals_move_of_ne {j : ι} (hj : j ≠ m.1) :
    (move step c m).locals j = c.locals j :=
  Function.update_of_ne hj ..

theorem Along.of_forall (h : ∀ c m, May c m) (moves : List (ι × E)) : Along step May c moves := by
  induction moves generalizing c with
  | nil => trivial
  | cons m moves ih => exact ⟨h c m, ih⟩

theorem invariant_run (hmove : ∀ c m, Inv c → May c m → Inv (move step c m)) (hinv : Inv c)
    (hmay : Along step May c moves) : Inv (run step c moves) := by
  induction moves generalizing c with
  | nil => exact hinv
  | cons m moves ih => exact ih (hmove c m hinv hmay.1) hmay.2

/-- What happens in a run, in order: the events of its moves. -/
def trace {W : Type u} (step : Step ι S L E) (event : Config ι S L → ι × E → List W)
    (c : Config ι S L) : List (ι × E) → List W
  | [] => []
  | m :: moves => event c m ++ trace step event (move step c m) moves

/-- Where every move acts on what is abstracted from the shared state as its events do, a run
acts on it as its trace does. -/
theorem foldl_trace {W A : Type u} {event : Config ι S L → ι × E → List W} (abs : S → A)
    {apply : A → W → A} (hmove : ∀ c m, Inv c → May c m → Inv (move step c m) ∧
      abs (move step c m).shared = (event c m).foldl apply (abs c.shared)) (hinv : Inv c)
    (hmay : Along step May c moves) :
    abs (run step c moves).shared = (trace step event c moves).foldl apply (abs c.shared) := by
  induction moves generalizing c with
  | nil => rfl
  | cons m moves ih =>
    obtain ⟨hinv', habs⟩ := hmove c m hinv hmay.1
    rw [trace, List.foldl_append, ← habs]
    exact ih hinv' hmay.2

/-- An assertion about every process, after one of them has moved. -/
theorem forall_move {P : ι → S → L → Prop}
    (hself : P m.1 (move step c m).shared (step m.1 m.2 c.shared (c.locals m.1)).2)
    (hothers : ∀ j, j ≠ m.1 → P j (move step c m).shared (c.locals j)) (j : ι) :
    P j (move step c m).shared ((move step c m).locals j) := by
  by_cases hj : j = m.1
  · subst hj
    rw [locals_move_self]
    exact hself
  · rw [locals_move_of_ne hj]
    exact hothers j hj

/-- What a process keeps of its own state, whatever the others do, holds after a run. -/
theorem locals_run {P : ι → L → Prop} (hstep : ∀ i e s l, P i l → P i (step i e s l).2)
    (hc : ∀ i, P i (c.locals i)) (i : ι) :
    P i ((run step c moves).locals i) := by
  induction moves generalizing c with
  | nil => exact hc i
  | cons m moves ih =>
    exact ih (forall_move (P := fun i _ l => P i l) (hstep _ _ _ _ (hc m.1)) fun j _ => hc j)

end OciCcm.Go.Interleaving
