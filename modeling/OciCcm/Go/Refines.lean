import OciCcm.Go.Program
import Mathlib.Control.Lawful

/-! # Programs that refine a computation

A program that runs alone with its server does in several calls what a fallible
function does on the state at once. `Refines` compares their results. Calls that
fail are allowed for: `Failed` says that one has, and then nothing is said about
the error.
-/

namespace OciCcm.Go.Program

universe u

variable {Q : Type u} {R : Q → Type u} {ε α β γ δ : Type u} {S F : Type u}
  (serve : S → (q : Q) → F → S × R q)

/-- The value of the program and the state in which it ends are related to the value of the
computation, and they have the same errors unless a call has failed. -/
def Refines (May : S → Q → F → Prop) (Failed : Prop) (rel : α → S → β → Prop) (x : Except ε β)
    (p : Program Q R ε α) (s : S) : Prop :=
  Ensures serve May (fun _ _ _ => True) (fun r s' => match r with
    | .ok a => ∃ b, x = .ok b ∧ rel a s' b
    | .error e => x = .error e ∨ Failed) p s

variable {serve} {May : S → Q → F → Prop} {Failed : Prop} {rel : α → S → β → Prop}
  {x : Except ε β} {p : Program Q R ε α} {s : S}

theorem Refines.bind {rel' : γ → S → δ → Prop} {f : α → Program Q R ε γ} {g : β → Except ε δ}
    (h : Refines serve May Failed rel x p s)
    (hf : ∀ a s' b, rel a s' b → Refines serve May Failed rel' (g b) (f a) s') :
    Refines serve May Failed rel' (x >>= g) (p >>= f) s := by
  refine Ensures.bind (Ensures.mono h (fun _ _ _ h => h) ?_)
  rintro (e | a) s' hr
  · rcases hr with rfl | hfailed
    · exact .inl rfl
    · exact .inr hfailed
  · obtain ⟨b, rfl, hrel⟩ := hr
    exact hf a s' b hrel

theorem Refines.mapError {g : ε → ε} (h : Refines serve May Failed rel x p s) :
    Refines serve May Failed rel (x.mapError g) (p.mapError g) s := by
  refine Ensures.mapError (Ensures.mono h (fun _ _ _ h => h) ?_)
  rintro (e | a) s' hr
  · rcases hr with rfl | hfailed
    · exact .inl rfl
    · exact .inr hfailed
  · obtain ⟨b, rfl, hrel⟩ := hr
    exact ⟨b, rfl, hrel⟩

/-- A loop of calls refines a fold, if its body refines the function that is folded. -/
theorem Refines.forM {ι σ : Type u} {Rep : S → σ → Prop} {body : ι → Program Q R ε PUnit}
    {step : σ → ι → Except ε σ} {xs : List ι} {b : σ} (hs : Rep s b)
    (hbody : ∀ x s b, Rep s b → Refines serve May Failed (fun _ => Rep) (step b x) (body x) s) :
    Refines serve May Failed (fun _ => Rep) (xs.foldlM step b) (xs.forM body) s := by
  induction xs generalizing s b with
  | nil => exact ⟨b, rfl, hs⟩
  | cons x xs ih =>
    rw [List.foldlM_cons]
    exact (hbody x s b hs).bind fun _ s' b' hs' => ih hs'

/-- Where the computation has a value and calls need not fail, some run of the program comes to
an end with a related value, and with what is ensured of all ends. -/
theorem Refines.ends {May' : S → Q → F → Prop} {Inv : S → Q → S → Prop}
    {post : Except ε α → S → Prop} {b : β} (h : Refines serve May' False rel (.ok b) p s)
    (hlive : ∀ s q, ∃ f, May' s q f) (hle : ∀ s q f, May' s q f → May s q f)
    (hp : Ensures serve May Inv post p s) : ∃ a s', rel a s' b ∧ post (.ok a) s' := by
  obtain ⟨fs, s', r, hmay, hexec⟩ := @exists_exec_done _ _ _ _ _ _ serve _ hlive p s
  have hr := Ensures.of_exec h hmay hexec
  have hpost := (hp.restrict hle).of_exec hmay hexec
  cases r with
  | ok a =>
    obtain ⟨b', hb, hrel⟩ := hr
    cases hb
    exact ⟨a, s', hrel, hpost⟩
  | error e =>
    rcases hr with hr | hr
    · cases hr
    · exact hr.elim

end OciCcm.Go.Program
