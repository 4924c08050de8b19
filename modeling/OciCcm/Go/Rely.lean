import OciCcm.Go.Separation

/-! # Programs that notice each other

Several programs call one server, and what one of them has read may be outdated
when it makes its next call. A relation `Later` says how the state can have
moved on in the meantime, and `Guards` is the weakest precondition that allows
for such a move before every call: what is proved about each program by itself
then holds in every interleaving of all of them.
-/

namespace OciCcm.Go

universe u

namespace Program

variable {Q : Type u} {R : Q → Type u} {ε α β : Type u} {S F : Type u}
  (serve : S → (q : Q) → F → S × R q)

/-- `C` holds of every call and the state in which it is made, and `post` holds at the end,
although the state moves along `Later` between the calls. -/
def Guards (May : S → Q → F → Prop) (Later : S → S → Prop) (C : S → Q → Prop)
    (post : Except ε α → S → Prop) : Program Q R ε α → S → Prop
  | done r, s => ∀ s', Later s s' → post r s'
  | call q next, s => ∀ s', Later s s' → C s' q ∧ ∀ f, May s' q f →
      Guards May Later C post (next (serve s' q f).2) (serve s' q f).1

/-- `Later` allows for any number of the server's steps. -/
structure Rely (May : S → Q → F → Prop) (Later : S → S → Prop) : Prop where
  refl : ∀ s, Later s s
  trans : ∀ {s t u}, Later s t → Later t u → Later s u
  serve : ∀ {s q f}, May s q f → Later s (serve s q f).1

variable {serve} {May : S → Q → F → Prop} {Later : S → S → Prop} {C : S → Q → Prop}
  {post post' : Except ε α → S → Prop} {p : Program Q R ε α} {s t : S}

theorem Guards.mono (h : Guards serve May Later C post p s)
    (hpost : ∀ r s, post r s → post' r s) : Guards serve May Later C post' p s := by
  induction p generalizing s with
  | done r => exact fun s' hs' => hpost r s' (h s' hs')
  | call q next ih =>
    intro s' hs'
    exact ⟨(h s' hs').1, fun f hf => ih _ ((h s' hs').2 f hf)⟩

theorem Guards.later (hrely : Rely serve May Later) (h : Guards serve May Later C post p s)
    (hst : Later s t) : Guards serve May Later C post p t := by
  cases p with
  | done r => exact fun s' hs' => h s' (hrely.trans hst hs')
  | call q next => exact fun s' hs' => h s' (hrely.trans hst hs')

theorem Guards.frame (hrely : Rely serve May Later) {I : S → Prop}
    (hI : ∀ s t, I s → Later s t → I t) (hs : I s) (h : Guards serve May Later C post p s) :
    Guards serve May Later C (fun r s => post r s ∧ I s) p s := by
  induction p generalizing s with
  | done r => exact fun s' hs' => ⟨h s' hs', hI s s' hs hs'⟩
  | call q next ih =>
    intro s' hs'
    refine ⟨(h s' hs').1, fun f hf => ih _ ?_ ((h s' hs').2 f hf)⟩
    exact hI s' _ (hI s s' hs hs') (hrely.serve hf)

theorem Guards.bind (hrely : Rely serve May Later) {f : α → Program Q R ε β}
    {post : Except ε β → S → Prop}
    (h : Guards serve May Later C (fun r s => match r with
      | .ok a => Guards serve May Later C post (f a) s
      | .error e => post (.error e) s) p s) : Guards serve May Later C post (p >>= f) s := by
  induction p generalizing s with
  | done r =>
    cases r with
    | ok a => exact h s (hrely.refl s)
    | error e => exact h
  | call q next ih =>
    intro s' hs'
    exact ⟨(h s' hs').1, fun g hg => ih _ ((h s' hs').2 g hg)⟩

theorem Guards.mapError {g : ε → ε}
    (h : Guards serve May Later C (fun r => post (r.mapError g)) p s) :
    Guards serve May Later C post (p.mapError g) s := by
  induction p generalizing s with
  | done r => exact h
  | call q next ih =>
    intro s' hs'
    exact ⟨(h s' hs').1, fun f hf => ih _ ((h s' hs').2 f hf)⟩

theorem Guards.forM (hrely : Rely serve May Later) {ι : Type u} {xs : List ι}
    {body : ι → Program Q R ε PUnit}
    (h : ∀ x s, Guards serve May Later C (fun _ _ => True) (body x) s) :
    Guards serve May Later C (fun _ _ => True) (xs.forM body) s := by
  induction xs generalizing s with
  | nil => exact fun _ _ => trivial
  | cons x xs ih =>
    refine .bind hrely ((h x s).mono ?_)
    rintro (e | _) s' -
    · trivial
    · exact ih

/-! ## Errors that end a program -/

/-- After an answer with the property `Bad` the program ends with an error. -/
def FailsOn (Bad : (q : Q) → R q → Prop) : Program Q R ε α → Prop
  | done _ => True
  | call q next => ∀ r, (Bad q r → ∃ e, next r = done (.error e)) ∧ FailsOn Bad (next r)

variable {Bad : (q : Q) → R q → Prop}

theorem FailsOn.bind {f : α → Program Q R ε β} (hp : p.FailsOn Bad)
    (hf : ∀ a, (f a).FailsOn Bad) : (p >>= f).FailsOn Bad := by
  induction p with
  | done r =>
    cases r with
    | ok a => exact hf a
    | error e => trivial
  | call q next ih =>
    intro r
    refine ⟨fun hbad => ?_, ih r (hp r).2⟩
    obtain ⟨e, he⟩ := (hp r).1 hbad
    refine ⟨e, ?_⟩
    change next r >>= f = _
    rw [he]
    rfl

theorem FailsOn.mapError {g : ε → ε} (hp : p.FailsOn Bad) : (p.mapError g).FailsOn Bad := by
  induction p with
  | done r => trivial
  | call q next ih =>
    intro r
    refine ⟨fun hbad => ?_, ih r (hp r).2⟩
    obtain ⟨e, he⟩ := (hp r).1 hbad
    refine ⟨g e, ?_⟩
    change (next r).mapError g = _
    rw [he]
    rfl

theorem FailsOn.forM {ι : Type u} {xs : List ι} {body : ι → Program Q R ε PUnit}
    (h : ∀ x, (body x).FailsOn Bad) : (xs.forM body).FailsOn Bad := by
  induction xs with
  | nil => trivial
  | cons x xs ih => exact (h x).bind fun _ => ih

theorem Makes.failsOn {D : Q → Prop} (h : p.Makes D) (hD : ∀ q r, D q → ¬Bad q r) :
    p.FailsOn Bad := by
  induction p with
  | done r => trivial
  | call q next ih => exact fun r => ⟨fun hbad => absurd hbad (hD q r h.1), ih r (h.2 r)⟩

theorem FailsOn.step (h : p.FailsOn Bad) (f : F) : (p.step serve s f).2.FailsOn Bad := by
  cases p with
  | done r => trivial
  | call q next => exact (h _).2

end Program

/-! ## Interleaved runs -/

namespace Rely

open Interleaving (Config move)
open Separation (step MayMove)

variable {ι S F : Type u} {Q : Type u} {R : Q → Type u} {ε α : Type u} [DecidableEq ι]
  {serve : S → (q : Q) → F → S × R q} {May : S → Q → F → Prop} {Later : S → S → Prop}
  {C : ι → S → Q → Prop} {post : ι → Except ε α → S → Prop}
  {c : Config ι S (Program Q R ε α)} {m : ι × F}

theorem later_step (hrely : Program.Rely serve May Later) {s : S} {p : Program Q R ε α} {f : F}
    (hmay : Program.MayStep May s p f) : Later s (p.step serve s f).1 := by
  cases p with
  | done r => exact hrely.refl s
  | call q next => exact hrely.serve hmay

theorem guards_move (hrely : Program.Rely serve May Later)
    (h : ∀ i, (c.locals i).Guards serve May Later (C i) (post i) c.shared)
    (hmay : MayMove May c m) (i : ι) :
    ((move (step serve) c m).locals i).Guards serve May Later (C i) (post i)
      (move (step serve) c m).shared := by
  refine Interleaving.forall_move
    (P := fun i s (p : Program Q R ε α) => p.Guards serve May Later (C i) (post i) s) ?_ ?_ i
  · have hself := h m.1
    change ((c.locals m.1).step serve c.shared m.2).2.Guards serve May Later _ _
      ((c.locals m.1).step serve c.shared m.2).1
    have hm : Program.MayStep May c.shared (c.locals m.1) m.2 := hmay
    revert hself hm
    cases c.locals m.1 with
    | done r => exact fun hself _ => hself
    | call q next => exact fun hself hm => (hself _ (hrely.refl _)).2 m.2 hm
  · exact fun j _ => (h j).later hrely (later_step hrely hmay)

end Rely

end OciCcm.Go
