import Mathlib.Init

/-! # Programs that call a server

A program either has a result or makes a call and goes on with the answer. Calls
and their answers are a parameter, so the program says what is asked for and in
which order, and a server says what a call does to the state. What the server
is free to choose (whether a call fails, which id it gives out) is a reply that
comes with each call.
-/

namespace OciCcm.Go

open List

universe u

/-- A program over the calls `Q`, whose answers are `R`. -/
inductive Program (Q : Type u) (R : Q → Type u) (ε α : Type u) : Type u where
  | done (result : Except ε α)
  | call (q : Q) (next : R q → Program Q R ε α)

namespace Program

variable {Q : Type u} {R : Q → Type u} {ε α β : Type u} {C : Q → Prop} {p : Program Q R ε α}

/-- Go on with the value of a program, or return its error. -/
def bind : Program Q R ε α → (α → Program Q R ε β) → Program Q R ε β
  | done (.ok a), f => f a
  | done (.error e), _ => done (.error e)
  | call q next, f => call q fun r => (next r).bind f

instance : Monad (Program Q R ε) where
  pure a := done (.ok a)
  bind := bind

/-- The result of a program as a value, its error included. -/
def attempt : Program Q R ε α → Program Q R ε (Except ε α)
  | done r => done (.ok r)
  | call q next => call q fun r => (next r).attempt

/-- A program whose error is turned into another one. -/
def mapError (g : ε → ε) : Program Q R ε α → Program Q R ε α
  | done r => done (r.mapError g)
  | call q next => call q fun r => (next r).mapError g

@[simp] theorem done_ok_bind (a : α) (f : α → Program Q R ε β) : done (.ok a) >>= f = f a := rfl

/-! ## Calls of a program -/

/-- Every call that the program can make, whatever the answers, has the property `C`. -/
def Makes (C : Q → Prop) : Program Q R ε α → Prop
  | done _ => True
  | call q next => C q ∧ ∀ r, Makes C (next r)

theorem Makes.bind {f : α → Program Q R ε β} (hp : Makes C p) (hf : ∀ a, Makes C (f a)) :
    Makes C (p >>= f) := by
  induction p with
  | done r =>
    cases r with
    | ok a => exact hf a
    | error e => trivial
  | call q next ih => exact ⟨hp.1, fun r => ih r (hp.2 r)⟩

theorem Makes.attempt (hp : Makes C p) : Makes C p.attempt := by
  induction p with
  | done r => trivial
  | call q next ih => exact ⟨hp.1, fun r => ih r (hp.2 r)⟩

theorem Makes.mapError {g : ε → ε} (hp : Makes C p) :
    Makes C (p.mapError g) := by
  induction p with
  | done r => trivial
  | call q next ih => exact ⟨hp.1, fun r => ih r (hp.2 r)⟩

theorem Makes.forM {ι : Type u} {xs : List ι} {body : ι → Program Q R ε PUnit}
    (h : ∀ x ∈ xs, Makes C (body x)) : Makes C (xs.forM body) := by
  induction xs with
  | nil => trivial
  | cons x xs ih =>
    exact (h x mem_cons_self).bind fun _ => ih fun y hy => h y (mem_cons_of_mem _ hy)

/-! ## Runs -/

section Runs

variable {S F : Type u} (serve : S → (q : Q) → F → S × R q)

/-- The next call of a program, with the server's reply to it. -/
def step (s : S) (p : Program Q R ε α) (f : F) : S × Program Q R ε α :=
  match p with
  | done r => (s, done r)
  | call q next => ((serve s q f).1, next (serve s q f).2)

/-- The state and the rest of the program after the given replies. -/
def exec (p : Program Q R ε α) (s : S) : List F → S × Program Q R ε α
  | [] => (s, p)
  | f :: fs => exec (step serve s p f).2 (step serve s p f).1 fs

/-- The calls that are made with the given replies. -/
def calls (p : Program Q R ε α) (s : S) : List F → List Q
  | [] => []
  | f :: fs =>
    let rest := calls (step serve s p f).2 (step serve s p f).1 fs
    match p with
    | done _ => rest
    | call q _ => q :: rest

/-- The calls that are made with the given replies, each with the state that it finds. -/
def visits (p : Program Q R ε α) (s : S) : List F → List (S × Q)
  | [] => []
  | f :: fs =>
    let rest := visits (step serve s p f).2 (step serve s p f).1 fs
    match p with
    | done _ => rest
    | call q _ => (s, q) :: rest

/-- A reply that the server may give to the next call of a program. -/
def MayStep (May : S → Q → F → Prop) (s : S) (p : Program Q R ε α) (f : F) : Prop :=
  match p with
  | done _ => True
  | call q _ => May s q f

instance (May : S → Q → F → Prop) [∀ s q f, Decidable (May s q f)] (s : S)
    (p : Program Q R ε α) (f : F) : Decidable (MayStep May s p f) :=
  match p with
  | done _ => inferInstanceAs (Decidable True)
  | call q _ => inferInstanceAs (Decidable (May s q f))

/-- Every reply is one that the server may give. -/
def Along (May : S → Q → F → Prop) (p : Program Q R ε α) (s : S) : List F → Prop
  | [] => True
  | f :: fs => MayStep May s p f ∧ Along May (step serve s p f).2 (step serve s p f).1 fs

instance Along.decidable (May : S → Q → F → Prop) [∀ s q f, Decidable (May s q f)]
    (p : Program Q R ε α) (s : S) (fs : List F) : Decidable (Along serve May p s fs) :=
  match fs with
  | [] => inferInstanceAs (Decidable True)
  | f :: fs =>
    have := Along.decidable May (step serve s p f).2 (step serve s p f).1 fs
    inferInstanceAs (Decidable (_ ∧ _))

/-! ## What a program ensures

`Ensures` is a weakest precondition that also speaks about the calls: `Inv`
holds of every call with the states before and after it, and `post` of the
result.
-/

/-- `Inv` holds of the state before a call, the call and the state after it, and `post` holds
at the end. -/
def Ensures (May : S → Q → F → Prop) (Inv : S → Q → S → Prop) (post : Except ε α → S → Prop) :
    Program Q R ε α → S → Prop
  | done r, s => post r s
  | call q next, s => ∀ f, May s q f →
      Inv s q (serve s q f).1 ∧ Ensures May Inv post (next (serve s q f).2) (serve s q f).1

variable {serve} {May May' : S → Q → F → Prop} {Inv Inv' : S → Q → S → Prop}
  {post post' : Except ε α → S → Prop} {p : Program Q R ε α} {s : S} {f : α → Program Q R ε β}
  {fs : List F}

/-- Consequence. -/
theorem Ensures.mono (h : Ensures serve May Inv post p s) (hinv : ∀ s q s', Inv s q s' → Inv' s q s')
    (hpost : ∀ r s, post r s → post' r s) : Ensures serve May Inv' post' p s := by
  induction p generalizing s with
  | done r => exact hpost r s h
  | call q next ih =>
    intro f hf
    exact ⟨hinv _ _ _ (h f hf).1, ih _ (h f hf).2⟩

/-- Sequencing: what follows starts where the first part has ended, and an error ends both. -/
theorem Ensures.bind {post : Except ε β → S → Prop}
    (h : Ensures serve May Inv (fun r s => match r with
      | .ok a => Ensures serve May Inv post (f a) s
      | .error e => post (.error e) s) p s) : Ensures serve May Inv post (p >>= f) s := by
  induction p generalizing s with
  | done r =>
    cases r with
    | ok a => exact h
    | error e => exact h
  | call q next ih =>
    intro g hg
    exact ⟨(h g hg).1, ih _ (h g hg).2⟩

theorem Ensures.of_bind {post : Except ε β → S → Prop} (h : Ensures serve May Inv post (p >>= f) s) :
    Ensures serve May Inv (fun r s => match r with
      | .ok a => Ensures serve May Inv post (f a) s
      | .error e => post (.error e) s) p s := by
  induction p generalizing s with
  | done r =>
    cases r with
    | ok a => exact h
    | error e => exact h
  | call q next ih =>
    intro g hg
    exact ⟨(h g hg).1, ih _ (h g hg).2⟩

theorem Ensures.and (h : Ensures serve May Inv post p s) (h' : Ensures serve May Inv' post' p s) :
    Ensures serve May Inv (fun r s => post r s ∧ post' r s) p s := by
  induction p generalizing s with
  | done r => exact ⟨h, h'⟩
  | call q next ih =>
    intro f hf
    exact ⟨(h f hf).1, ih _ (h f hf).2 (h' f hf).2⟩

/-- Fewer replies. -/
theorem Ensures.restrict (h : Ensures serve May Inv post p s)
    (hle : ∀ s q f, May' s q f → May s q f) : Ensures serve May' Inv post p s := by
  induction p generalizing s with
  | done r => exact h
  | call q next ih =>
    intro f hf
    exact ⟨(h f (hle _ _ _ hf)).1, ih _ (h f (hle _ _ _ hf)).2⟩

theorem Ensures.of_makes {C : Q → Prop} (h : Ensures serve May Inv post p s) (hp : Makes C p)
    (hinv : ∀ s q s', C q → Inv s q s' → Inv' s q s') : Ensures serve May Inv' post p s := by
  induction p generalizing s with
  | done r => exact h
  | call q next ih =>
    intro f hf
    exact ⟨hinv _ _ _ hp.1 (h f hf).1, ih _ (h f hf).2 (hp.2 _)⟩

theorem Ensures.done_bind {x : Except ε α} {post : Except ε β → S → Prop}
    (hok : ∀ a, x = .ok a → Ensures serve May Inv post (f a) s)
    (herr : ∀ e, x = .error e → post (.error e) s) :
    Ensures serve May Inv post (done x >>= f) s := by
  cases x with
  | ok a => exact hok a rfl
  | error e => exact herr e rfl

/-- An error that becomes a value. -/
theorem Ensures.attempt {post : Except ε (Except ε α) → S → Prop}
    (h : Ensures serve May Inv (fun r => post (.ok r)) p s) :
    Ensures serve May Inv post p.attempt s := by
  induction p generalizing s with
  | done r => exact h
  | call q next ih =>
    intro f hf
    exact ⟨(h f hf).1, ih _ (h f hf).2⟩

theorem Ensures.mapError {g : ε → ε}
    (h : Ensures serve May Inv (fun r => post (r.mapError g)) p s) :
    Ensures serve May Inv post (p.mapError g) s := by
  induction p generalizing s with
  | done r => exact h
  | call q next ih =>
    intro f hf
    exact ⟨(h f hf).1, ih _ (h f hf).2⟩

/-- Loops: `J` holds of the elements that the loop has gone through. -/
theorem Ensures.forM {ι : Type u} {xs : List ι} {body : ι → Program Q R ε PUnit}
    {post : Except ε PUnit → S → Prop} {J : List ι → S → Prop} (h₀ : J [] s)
    (hstep : ∀ before x after s, xs = before ++ x :: after → J before s →
      Ensures serve May Inv (fun r s' => match r with
        | .ok _ => J (before ++ [x]) s'
        | .error e => post (.error e) s') (body x) s)
    (hpost : ∀ s, J xs s → post (.ok ⟨⟩) s) : Ensures serve May Inv post (xs.forM body) s := by
  suffices h : ∀ before after s, xs = before ++ after → J before s →
      Ensures serve May Inv post (after.forM body) s from h [] xs s rfl h₀
  intro before after
  induction after generalizing before with
  | nil =>
    intro s hxs hJ
    rw [append_nil] at hxs
    exact hpost s (hxs ▸ hJ)
  | cons x after ih =>
    intro s hxs hJ
    refine Ensures.bind ((hstep before x after s hxs hJ).mono (fun _ _ _ h => h) ?_)
    rintro (e | _) s' h
    · exact h
    · exact ih (before ++ [x]) s' (by rw [hxs, append_assoc, singleton_append]) h

theorem Makes.ensures {C : Q → Prop} {I : S → Prop} (h : Makes C p) (hs : I s)
    (hcall : ∀ s q f, C q → I s → May s q f → I (serve s q f).1 ∧ Inv s q (serve s q f).1) :
    Ensures serve May Inv (fun _ => I) p s := by
  induction p generalizing s with
  | done r => exact hs
  | call q next ih =>
    intro f hf
    obtain ⟨hI, hinv⟩ := hcall s q f h.1 hs hf
    exact ⟨hinv, ih _ (h.2 _) hI⟩

theorem Ensures.of_exec {s' : S} {r : Except ε α} (h : Ensures serve May Inv post p s)
    (hmay : Along serve May p s fs) (hexec : exec serve p s fs = (s', done r)) : post r s' := by
  induction fs generalizing p s with
  | nil =>
    obtain ⟨rfl, rfl⟩ := Prod.mk.inj hexec
    exact h
  | cons f fs ih =>
    cases p with
    | done r' => exact ih h hmay.2 hexec
    | call q next => exact ih (h f hmay.1).2 hmay.2 hexec

theorem Ensures.inv_exec {I : S → Prop} (h : Ensures serve May (fun _ _ => I) post p s) (hs : I s)
    (hmay : Along serve May p s fs) :
    I (exec serve p s fs).1 := by
  induction fs generalizing p s with
  | nil => exact hs
  | cons f fs ih =>
    cases p with
    | done r => exact ih h hs hmay.2
    | call q next => exact ih (h f hmay.1).2 (h f hmay.1).1 hmay.2

theorem Ensures.of_mem_calls {C : Q → Prop} (h : Ensures serve May (fun _ q _ => C q) post p s)
    (hmay : Along serve May p s fs) {q : Q} (hq : q ∈ calls serve p s fs) : C q := by
  induction fs generalizing p s with
  | nil => cases hq
  | cons f fs ih =>
    cases p with
    | done r => exact ih h hmay.2 hq
    | call q' next =>
      rcases mem_cons.mp hq with rfl | hq
      · exact (h f hmay.1).1
      · exact ih (h f hmay.1).2 hmay.2 hq

theorem ensures_iff_visits {C : S → Q → Prop} :
    Ensures serve May (fun s q _ => C s q) (fun _ _ => True) p s ↔
      ∀ fs, Along serve May p s fs → ∀ v ∈ visits serve p s fs, C v.1 v.2 := by
  constructor
  · intro h fs hmay v hv
    induction fs generalizing p s with
    | nil => cases hv
    | cons f fs ih =>
      cases p with
      | done r => exact ih h hmay.2 hv
      | call q next =>
        rcases mem_cons.mp hv with rfl | hv
        · exact (h f hmay.1).1
        · exact ih (h f hmay.1).2 hmay.2 hv
  · intro h
    induction p generalizing s with
    | done r => trivial
    | call q next ih =>
      intro f hf
      refine ⟨h [f] ⟨hf, trivial⟩ (s, q) mem_cons_self, ih _ fun fs hmay v hv => ?_⟩
      exact h (f :: fs) ⟨hf, hmay⟩ v (mem_cons_of_mem _ hv)

theorem Along.of_forall (h : ∀ s q f, May s q f) : Along serve May p s fs := by
  induction fs generalizing p s with
  | nil => trivial
  | cons f fs ih =>
    cases p with
    | done r => exact ⟨trivial, ih⟩
    | call q next => exact ⟨h _ _ _, ih⟩

theorem Along.mono (hle : ∀ s q f, May s q f → May' s q f) (h : Along serve May p s fs) :
    Along serve May' p s fs := by
  induction fs generalizing p s with
  | nil => trivial
  | cons f fs ih =>
    cases p with
    | done r => exact ⟨trivial, ih h.2⟩
    | call q next => exact ⟨hle _ _ _ h.1, ih h.2⟩

theorem Along.and (h : Along serve May p s fs) (h' : Along serve May' p s fs) :
    Along serve (fun s q f => May s q f ∧ May' s q f) p s fs := by
  induction fs generalizing p s with
  | nil => trivial
  | cons f fs ih =>
    cases p with
    | done r => exact ⟨trivial, ih h.2 h'.2⟩
    | call q next => exact ⟨⟨h.1, h'.1⟩, ih h.2 h'.2⟩

theorem exec_fst_eq (h : ∀ q ∈ calls serve p s fs, ∀ s f, (serve s q f).1 = s) :
    (exec serve p s fs).1 = s := by
  induction fs generalizing p s with
  | nil => rfl
  | cons f fs ih =>
    cases p with
    | done r => exact ih h
    | call q next =>
      have hq := h q mem_cons_self s f
      have hrest := ih fun q' hq' => h q' (mem_cons_of_mem _ hq')
      exact hrest.trans hq

/-- A program whose every call the server can answer has a complete run. -/
theorem exists_exec_done (hlive : ∀ s q, ∃ f, May s q f) (p : Program Q R ε α) (s : S) :
    ∃ fs s' r, Along serve May p s fs ∧ exec serve p s fs = (s', done r) := by
  induction p generalizing s with
  | done r => exact ⟨[], s, r, trivial, rfl⟩
  | call q next ih =>
    obtain ⟨f, hf⟩ := hlive s q
    obtain ⟨fs, s', r, hmay, hexec⟩ := ih (serve s q f).2 (serve s q f).1
    exact ⟨f :: fs, s', r, ⟨hf, hmay⟩, hexec⟩

/-! ## Calls that are made -/

variable (serve) in
/-- Some run makes a call with the property `C`. -/
def Reaches (May : S → Q → F → Prop) (C : Q → Prop) (p : Program Q R ε α) (s : S) : Prop :=
  ∃ fs, Along serve May p s fs ∧ ∃ q ∈ calls serve p s fs, C q

variable {C : Q → Prop}

theorem Reaches.call {q : Q} {next : R q → Program Q R ε α} {f : F} (hmay : May s q f) (hq : C q) :
    Reaches serve May C (call q next) s :=
  ⟨[f], ⟨hmay, trivial⟩, q, mem_cons_self, hq⟩

theorem Reaches.next {q : Q} {next : R q → Program Q R ε α} {f : F} (hmay : May s q f)
    (h : Reaches serve May C (next (serve s q f).2) (serve s q f).1) :
    Reaches serve May C (Program.call q next) s := by
  obtain ⟨fs, halong, q', hq', hC⟩ := h
  exact ⟨f :: fs, ⟨hmay, halong⟩, q', mem_cons_of_mem _ hq', hC⟩

/-- A program whose first part always comes to an end from which the call is made. -/
theorem Reaches.bind (hlive : ∀ s q, ∃ f, May s q f)
    (h : Ensures serve May (fun _ _ _ => True) (fun r s => ∃ a, r = .ok a ∧ Reaches serve May C (f a) s)
      p s) : Reaches serve May C (p >>= f) s := by
  induction p generalizing s with
  | done r =>
    obtain ⟨a, rfl, h⟩ := h
    exact h
  | call q next ih =>
    obtain ⟨g, hg⟩ := hlive s q
    exact .next hg (ih _ (h g hg).2)

end Runs

end Program

end OciCcm.Go
