import Mathlib.Init

/-! # Runs

A run takes one step after another, each in the state that the steps before it
have left. `Along` says of a run that every step was taken where it may be taken.
Steps that may fail end the run; `EveryStep` says of such a run what its steps
do, as far as it gets.
-/

namespace OciCcm.Go.Runs

open List

universe u v

variable {S : Type u} {E : Type v}

def Along (step : S → E → S) (May : S → E → Prop) : S → List E → Prop
  | _, [] => True
  | s, e :: es => May s e ∧ Along step May (step s e) es

variable {step : S → E → S} {May : S → E → Prop} {s : S} {es : List E}

theorem Along.and {May' : S → E → Prop} (h : Along step May s es) (h' : Along step May' s es) :
    Along step (fun s e => May s e ∧ May' s e) s es := by
  induction es generalizing s with
  | nil => trivial
  | cons e es ih => exact ⟨⟨h.1, h'.1⟩, ih h.2 h'.2⟩

theorem invariant_foldl {Inv : S → Prop} (hstep : ∀ s e, Inv s → May s e → Inv (step s e))
    (hinv : Inv s) (hmay : Along step May s es) : Inv (es.foldl step s) := by
  induction es generalizing s with
  | nil => exact hinv
  | cons e es ih => exact ih (hstep s e hinv hmay.1) hmay.2

theorem along_of_invariant {Inv : S → Prop} (hmay : ∀ s e, Inv s → May s e)
    (hstep : ∀ s e, Inv s → Inv (step s e)) (hinv : Inv s) : Along step May s es := by
  induction es generalizing s with
  | nil => trivial
  | cons e es ih => exact ⟨hmay s e hinv, ih (hstep s e hinv)⟩

/-! ## Steps that may fail -/

section Fallible

universe w

variable {ε : Type w} {step : S → E → Except ε S} {P : S → S → Prop} {Bad : E → Prop}
  {stops : E → Bool}

/-- Every step has the property, as far as the run gets. -/
def EveryStep (step : S → E → Except ε S) (P : S → S → Prop) : S → List E → Prop
  | _, [] => True
  | s, e :: es => ∀ s', step s e = .ok s' → P s s' ∧ EveryStep step P s' es

theorem everyStep_of_takeWhile (hstops : ∀ e, stops e → ∀ s s', step s e ≠ .ok s')
    (hgood : ∀ e, ¬Bad e → ∀ s s', step s e = .ok s' → P s s')
    (h : ∀ e ∈ es.takeWhile (!stops ·), ¬Bad e) : EveryStep step P s es := by
  induction es generalizing s with
  | nil => trivial
  | cons e es ih =>
    intro s' hstep
    have hgoes : ¬stops e := fun hs => hstops e hs s s' hstep
    have htake : (e :: es).takeWhile (!stops ·) = e :: es.takeWhile (!stops ·) := by
      rw [takeWhile_cons_of_pos]
      simpa using hgoes
    rw [htake] at h
    exact ⟨hgood e (h e mem_cons_self) s s' hstep,
      ih fun e' he' => h e' (mem_cons_of_mem _ he')⟩

/-- If no other step fails, a run meets the first bad step, from a state in which it lacks the
property. -/
theorem notBad_of_everyStep {Inv : S → Prop}
    (hstep : ∀ e ∈ es, ¬stops e → ∀ s, Inv s →
      ∃ s', step s e = .ok s' ∧ (¬Bad e → Inv s') ∧ (Bad e → ¬P s s'))
    (hinv : Inv s) (h : EveryStep step P s es) : ∀ e ∈ es.takeWhile (!stops ·), ¬Bad e := by
  induction es generalizing s with
  | nil => exact fun e he => absurd he not_mem_nil
  | cons e es ih =>
    by_cases hs : stops e
    · rw [takeWhile_cons_of_neg (by simpa using hs)]
      exact fun e he => absurd he not_mem_nil
    obtain ⟨s', hs', hkeeps, hbad⟩ := hstep e mem_cons_self hs s hinv
    have hgood : ¬Bad e := fun hb => hbad hb (h s' hs').1
    rw [takeWhile_cons_of_pos (by simpa using hs)]
    intro e' he'
    rcases mem_cons.mp he' with rfl | he'
    · exact hgood
    · exact ih (fun e he => hstep e (mem_cons_of_mem _ he)) (hkeeps hgood) (h s' hs').2 e' he'

end Fallible

end OciCcm.Go.Runs
