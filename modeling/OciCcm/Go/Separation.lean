import OciCcm.Go.Interleaving
import OciCcm.Go.Program

/-! # Programs that share a server unnoticed

Several programs call one server, their calls interleaved. `Separates` says when
they do not notice each other: the calls of a program act alike on states that
are alike to it, and leave a state alike to all others. Every program then goes
through the run as if it were alone with the replies that it gets.
-/

namespace OciCcm.Go

open Function

universe u

namespace Program

variable {Q : Type u} {R : Q → Type u} {ε α β : Type u} {Same : (q : Q) → R q → R q → Prop}
  {p : Program Q R ε α}

/-- The program goes on in the same way after answers that are the same to it. -/
def Respects (Same : (q : Q) → R q → R q → Prop) : Program Q R ε α → Prop
  | done _ => True
  | call q next => (∀ a b, Same q a b → next a = next b) ∧ ∀ a, (next a).Respects Same

theorem Respects.bind {f : α → Program Q R ε β} (hp : p.Respects Same)
    (hf : ∀ a, (f a).Respects Same) : (p >>= f).Respects Same := by
  induction p with
  | done r =>
    cases r with
    | ok a => exact hf a
    | error e => trivial
  | call q next ih =>
    exact ⟨fun a b h => congrArg (· >>= f) (hp.1 a b h), fun a => ih a (hp.2 a)⟩

theorem Respects.attempt (hp : p.Respects Same) :
    p.attempt.Respects Same := by
  induction p with
  | done r => trivial
  | call q next ih =>
    exact ⟨fun a b h => congrArg Program.attempt (hp.1 a b h), fun a => ih a (hp.2 a)⟩

theorem Respects.forM {ι : Type u} {xs : List ι} {body : ι → Program Q R ε PUnit}
    (h : ∀ x ∈ xs, (body x).Respects Same) : (xs.forM body).Respects Same := by
  induction xs with
  | nil => trivial
  | cons x xs ih =>
    exact .bind (h x List.mem_cons_self) fun _ => ih fun y hy => h y (List.mem_cons_of_mem _ hy)

end Program

namespace Separation

open Interleaving (Config move run)

variable {ι S F X : Type u} {Q : Type u} {R : Q → Type u} {ε α : Type u}

/-- A move of a process is the next call of its program. -/
def step (serve : S → (q : Q) → F → S × R q) :
    Interleaving.Step ι S (Program Q R ε α) F :=
  fun _ f s p => p.step serve s f

/-- The server may give the reply that comes with a move. -/
def MayMove (May : S → Q → F → Prop) (c : Config ι S (Program Q R ε α)) (m : ι × F) : Prop :=
  Program.MayStep May c.shared (c.locals m.1) m.2

instance (May : S → Q → F → Prop) [∀ s q f, Decidable (May s q f)]
    (c : Config ι S (Program Q R ε α)) (m : ι × F) : Decidable (MayMove May c m) :=
  inferInstanceAs (Decidable (Program.MayStep May c.shared (c.locals m.1) m.2))

/-- `Like i s t` says that the state `s` is to process `i` like the state `t`, in which it
would be alone. `Own i t q` is what `i` may call there, and `Same i` are the answers that it
does not tell apart. -/
structure Separates (serve : S → (q : Q) → F → S × R q) (May : S → Q → F → Prop)
    (Like : ι → S → S → Prop) (Same : ι → (q : Q) → R q → R q → Prop) (Own : ι → S → Q → Prop) :
    Prop where
  may : ∀ {i s t q f}, Like i s t → May s q f → May t q f
  own : ∀ {i s t q f}, Like i s t → Own i t q → May s q f →
    Like i (serve s q f).1 (serve t q f).1 ∧ Same i q (serve s q f).2 (serve t q f).2
  other : ∀ {i j s t u q f}, i ≠ j → Like i s t → Like j s u → Own j u q → May s q f →
    Like i (serve s q f).1 t

variable {serve : S → (q : Q) → F → S × R q} {May : S → Q → F → Prop}
  {Like : ι → S → S → Prop} {Same : ι → (q : Q) → R q → R q → Prop} {Own : ι → S → Q → Prop}

/-- One call of one process: it gets the answer that it would get alone, and the others do
not notice. -/
theorem Separates.step (hsep : Separates serve May Like Same Own) {i : ι} {s t : S}
    {p : Program Q R ε α} {f : F} (hlike : Like i s t) (hrespects : p.Respects (Same i))
    (hown : p.Ensures serve May (fun s q _ => Own i s q) (fun _ _ => True) t)
    (hmay : Program.MayStep May s p f) :
    Program.MayStep May t p f ∧ (p.step serve s f).2 = (p.step serve t f).2 ∧
    Like i (p.step serve s f).1 (p.step serve t f).1 ∧
    (p.step serve t f).2.Respects (Same i) ∧
    (p.step serve t f).2.Ensures serve May (fun s q _ => Own i s q) (fun _ _ => True)
      (p.step serve t f).1 ∧
    ∀ j u, j ≠ i → Like j s u → Like j (p.step serve s f).1 u := by
  cases p with
  | done r => exact ⟨trivial, rfl, hlike, trivial, trivial, fun _ _ _ h => h⟩
  | call q next =>
    have hmay' := hsep.may hlike hmay
    obtain ⟨hq, hnext⟩ := hown f hmay'
    obtain ⟨hlike', hsame⟩ := hsep.own hlike hq hmay
    exact ⟨hmay', hrespects.1 _ _ hsame, hlike', hrespects.2 _, hnext, fun j u hj hu =>
      hsep.other hj hu hlike hq hmay⟩

variable [DecidableEq ι]

def repliesTo (i : ι) (moves : List (ι × F)) : List F :=
  (moves.filter (·.1 = i)).map Prod.snd

/-- Every process is where it would be alone, in the state that `alone` gives. -/
structure Apart (serve : S → (q : Q) → F → S × R q) (May : S → Q → F → Prop)
    (Like : ι → S → S → Prop) (Same : ι → (q : Q) → R q → R q → Prop) (Own : ι → S → Q → Prop)
    (c : Config ι S (Program Q R ε α)) (alone : ι → S) : Prop where
  like : ∀ i, Like i c.shared (alone i)
  respects : ∀ i, (c.locals i).Respects (Same i)
  own : ∀ i, (c.locals i).Ensures serve May (fun s q _ => Own i s q) (fun _ _ => True) (alone i)

variable {c : Config ι S (Program Q R ε α)} {alone : ι → S} {m : ι × F}

section

variable (h : Apart serve May Like Same Own c alone) (hsep : Separates serve May Like Same Own)
  {moves : List (ι × F)}

include h hsep

theorem Apart.move (hmay : MayMove May c m) :
    Apart serve May Like Same Own (move (step serve) c m)
      (Function.update alone m.1 ((c.locals m.1).step serve (alone m.1) m.2).1) := by
  obtain ⟨i, f⟩ := m
  obtain ⟨-, heq, hlike, hrespects, hown, hother⟩ :=
    hsep.step (h.like i) (h.respects i) (h.own i) hmay
  have hself : (Interleaving.move (step serve) c (i, f)).locals i =
      ((c.locals i).step serve (alone i) f).2 := (update_self ..).trans heq
  have hstay : ∀ j, j ≠ i →
      (Interleaving.move (step serve) c (i, f)).locals j = c.locals j := fun j hj =>
    update_of_ne hj ..
  constructor <;> intro j <;> by_cases hj : j = i
  · subst hj
    rw [update_self]
    exact hlike
  · rw [update_of_ne hj]
    exact hother j _ hj (h.like j)
  · subst hj
    rw [hself]
    exact hrespects
  · rw [hstay j hj]
    exact h.respects j
  · subst hj
    rw [hself, update_self]
    exact hown
  · rw [hstay j hj, update_of_ne hj]
    exact h.own j

/-- A process ends up where it would end up alone with the replies that it gets, and these
are replies that it may get there. -/
theorem Apart.exec (hmay : Interleaving.Along (step serve) (MayMove May) c moves) (i : ι) :
    (c.locals i).Along serve May (alone i) (repliesTo i moves) ∧
    ((c.locals i).exec serve (alone i) (repliesTo i moves)).2 =
      (run (step serve) c moves).locals i ∧
    Like i (run (step serve) c moves).shared
      ((c.locals i).exec serve (alone i) (repliesTo i moves)).1 := by
  induction moves generalizing c alone with
  | nil => exact ⟨trivial, rfl, h.like i⟩
  | cons m moves ih =>
    obtain ⟨j, f⟩ := m
    have hmove := hsep.step (h.like j) (h.respects j) (h.own j) hmay.1
    have hrest := ih (h.move hsep hmay.1) hmay.2
    by_cases hj : i = j
    · subst hj
      have hself : (Interleaving.move (step serve) c (i, f)).locals i =
          ((c.locals i).step serve (alone i) f).2 := (update_self ..).trans hmove.2.1
      rw [hself, update_self] at hrest
      have hreplies : repliesTo i ((i, f) :: moves) = f :: repliesTo i moves := by
        simp [repliesTo]
      rw [hreplies]
      exact ⟨⟨hmove.1, hrest.1⟩, hrest.2⟩
    · have hstay : (Interleaving.move (step serve) c (j, f)).locals i = c.locals i :=
        update_of_ne hj ..
      rw [hstay, update_of_ne hj] at hrest
      have hreplies : repliesTo i ((j, f) :: moves) = repliesTo i moves := by
        simp [repliesTo, Ne.symm hj]
      rw [hreplies]
      exact hrest

theorem Apart.keeps {K : S → X}
    (hkeeps : ∀ i s t q f, Like i s t → Own i t q → May s q f → K (serve s q f).1 = K s)
    (hmay : Interleaving.Along (step serve) (MayMove May) c moves) :
    K (run (step serve) c moves).shared = K c.shared := by
  induction moves generalizing c alone with
  | nil => rfl
  | cons m moves ih =>
    refine (ih (h.move hsep hmay.1) hmay.2).trans ?_
    obtain ⟨i, f⟩ := m
    have hlike := h.like i
    have hown := h.own i
    have hm : Program.MayStep May c.shared (c.locals i) f := hmay.1
    change K ((c.locals i).step serve c.shared f).1 = K c.shared
    revert hown hm
    cases c.locals i with
    | done r => exact fun _ _ => rfl
    | call q next =>
      intro hown hm
      exact hkeeps i _ _ q f hlike (hown f (hsep.may hlike hm)).1 hm

end

end Separation

end OciCcm.Go
