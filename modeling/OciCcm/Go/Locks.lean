import Mathlib.Data.Finset.Basic
import OciCcm.Go.Interleaving
import OciCcm.Go.Program

/-! # Requests under locks

A set of locked keys, and requests that go through in any interleaving. A request
takes the lock of its key before its first call and gives it back at its end; one
that finds the key locked is refused.

The rule at the end is that of resources with an invariant: what every request
keeps when it has the resource of its key for itself holds whenever the key is
free.
-/

namespace OciCcm.Go.Locks

universe u

variable {ι κ S F Q ε α : Type u} {R : Q → Type u} [DecidableEq ι] [DecidableEq κ]

def tryAcquire (locks : Finset κ) (key : κ) : Bool × Finset κ :=
  if key ∈ locks then (false, locks) else (true, insert key locks)

def release (locks : Finset κ) (key : κ) : Finset κ := locks.erase key

inductive Phase (Q : Type u) (R : Q → Type u) (ε α : Type u) where
  | waiting
  | running (rest : Program Q R ε α)
  | refused
  | finished

/-- The resource of every key, with the results of the requests that had it. -/
structure Shared (κ S ε α : Type u) where
  locks : Finset κ := ∅
  state : κ → S
  results : κ → List (Except ε α) := fun _ => []

abbrev Config (ι κ S Q : Type u) (R : Q → Type u) (ε α : Type u) :=
  Interleaving.Config ι (Shared κ S ε α) (Phase Q R ε α)

section Step

variable (serve : S → (q : Q) → F → S × R q) (key : ι → κ) (body : ι → Program Q R ε α)

def step : Interleaving.Step ι (Shared κ S ε α) (Phase Q R ε α) F := fun i f shared phase =>
  match phase with
  | .waiting =>
    let (acquired, locks) := tryAcquire shared.locks (key i)
    if acquired then ({ shared with locks }, .running (body i)) else (shared, .refused)
  | .running (.done r) =>
    ({ shared with
        locks := release shared.locks (key i)
        results := Function.update shared.results (key i) (r :: shared.results (key i)) },
      .finished)
  | .running (.call q next) =>
    let (state, answer) := serve (shared.state (key i)) q f
    ({ shared with state := Function.update shared.state (key i) state }, .running (next answer))
  | phase => (shared, phase)

/-- A body starts where it may, and its calls are answered as they may be. -/
def May (Start : ι → S → Prop) (Reply : ι → S → Q → F → Prop) (c : Config ι κ S Q R ε α)
    (m : ι × F) : Prop :=
  let state := c.shared.state (key m.1)
  match c.locals m.1 with
  | .waiting => Start m.1 state
  | .running p => p.MayStep (Reply m.1) state m.2
  | _ => True

instance (Start : ι → S → Prop) (Reply : ι → S → Q → F → Prop) [∀ i s, Decidable (Start i s)]
    [∀ i s q f, Decidable (Reply i s q f)] (c : Config ι κ S Q R ε α) (m : ι × F) :
    Decidable (May key Start Reply c m) := by
  unfold May
  cases c.locals m.1 <;> infer_instance

def start (state : κ → S) : Config ι κ S Q R ε α := ⟨{ state }, fun _ => .waiting⟩

variable (Start : ι → S → Prop) (Reply : ι → S → Q → F → Prop) (I : κ → S → Prop)
  (J : κ → List (Except ε α) → S → Prop)

/-- A body that has the resource for itself keeps `I` throughout, and `J` from its start to its
end. -/
def Keeps : Prop :=
  ∀ i results s, Start i s → J (key i) results s →
    (body i).Ensures serve (Reply i) (fun _ _ => I (key i))
      (fun r => J (key i) (r :: results)) s

/-- At most one request has a resource, and its rest puts it in order. -/
structure Inv (c : Config ι κ S Q R ε α) : Prop where
  always : ∀ k, I k (c.shared.state k)
  free : ∀ k ∉ c.shared.locks, J k (c.shared.results k) (c.shared.state k)
  held : ∀ i p, c.locals i = .running p → key i ∈ c.shared.locks ∧
    p.Ensures serve (Reply i) (fun _ _ => I (key i))
      (fun r => J (key i) (r :: c.shared.results (key i))) (c.shared.state (key i))
  alone : ∀ i j p p', c.locals i = .running p → c.locals j = .running p' →
    key i = key j → i = j

end Step

variable {serve : S → (q : Q) → F → S × R q} {key : ι → κ} {body : ι → Program Q R ε α}
  {Start : ι → S → Prop} {Reply : ι → S → Q → F → Prop} {I : κ → S → Prop}
  {J : κ → List (Except ε α) → S → Prop} {c : Config ι κ S Q R ε α} {m : ι × F}

omit [DecidableEq ι] [DecidableEq κ] in
theorem may_of_forall (hstart : ∀ i s, Start i s) (hreply : ∀ i s q f, Reply i s q f)
    (c : Config ι κ S Q R ε α) (m : ι × F) : May key Start Reply c m := by
  unfold May
  cases c.locals m.1 with
  | waiting => exact hstart _ _
  | running p =>
    cases p with
    | done r => trivial
    | call q next => exact hreply _ _ _ _
  | refused | finished => trivial

/-- A request takes the lock or is refused. -/
theorem Inv.move_waiting {i : ι} {f : F} (hkeeps : Keeps serve key body Start Reply I J)
    (h : Inv serve key Reply I J c) (hi : c.locals i = .waiting)
    (hstart : Start i (c.shared.state (key i))) :
    Inv serve key Reply I J (Interleaving.move (step serve key body) c (i, f)) := by
  obtain ⟨halways, hfree, hheld, halone⟩ := h
  have hbody := hkeeps i (c.shared.results (key i)) _ hstart
  unfold Interleaving.move step tryAcquire
  simp only [hi]
  by_cases hmem : key i ∈ c.shared.locks
  · simp only [if_pos hmem, Bool.false_eq_true, if_false]
    constructor <;> grind [Function.update_apply]
  · simp only [if_neg hmem, if_true]
    constructor <;> grind [Function.update_apply]

/-- A request that has come to its end gives the lock back. -/
theorem Inv.move_done {i : ι} {f : F} {r : Except ε α} (h : Inv serve key Reply I J c)
    (hi : c.locals i = .running (.done r)) :
    Inv serve key Reply I J (Interleaving.move (step serve key body) c (i, f)) := by
  obtain ⟨halways, hfree, hheld, halone⟩ := h
  have hend : J (key i) (r :: c.shared.results (key i)) (c.shared.state (key i)) :=
    (hheld i _ hi).2
  unfold Interleaving.move step release
  simp only [hi]
  constructor <;> grind [Function.update_apply]

theorem Inv.move_call {i : ι} {f : F} {q : Q} {next : R q → Program Q R ε α}
    (h : Inv serve key Reply I J c) (hi : c.locals i = .running (.call q next))
    (hmay : Reply i (c.shared.state (key i)) q f) :
    Inv serve key Reply I J (Interleaving.move (step serve key body) c (i, f)) := by
  obtain ⟨halways, hfree, hheld, halone⟩ := h
  obtain ⟨hmem, hensures⟩ := hheld i _ hi
  obtain ⟨hI, hnext⟩ := hensures f hmay
  unfold Interleaving.move step
  simp only [hi]
  constructor <;> grind [Function.update_apply]

/-- One move, by what the request does. -/
theorem Inv.move (hkeeps : Keeps serve key body Start Reply I J) (h : Inv serve key Reply I J c)
    (hmay : May key Start Reply c m) :
    Inv serve key Reply I J (Interleaving.move (step serve key body) c m) := by
  obtain ⟨i, f⟩ := m
  unfold May at hmay
  cases hi : c.locals i with
  | waiting =>
    simp only [hi] at hmay
    exact h.move_waiting hkeeps hi hmay
  | running p =>
    simp only [hi] at hmay
    cases p with
    | done r => exact h.move_done hi
    | call q next => exact h.move_call hi hmay
  | refused | finished =>
    have hsame : Function.update c.locals i (c.locals i) = c.locals := Function.update_eq_self ..
    rw [hi] at hsame
    simp only [Interleaving.move, step, hi, hsame]
    exact h

/-- Every interleaving keeps the invariant of every key. -/
theorem inv_run (hkeeps : Keeps serve key body Start Reply I J) (state : κ → S)
    (hI : ∀ k, I k (state k)) (hJ : ∀ k, J k [] (state k)) {moves : List (ι × F)}
    (hmay : Interleaving.Along (step serve key body) (May key Start Reply) (start state) moves) :
    Inv serve key Reply I J (Interleaving.run (step serve key body) (start state) moves) := by
  refine Interleaving.invariant_run (fun c m h hmay => h.move hkeeps hmay) ?_ hmay
  refine ⟨hI, fun k _ => hJ k, ?_, ?_⟩
  · intro i p h
    cases h
  · intro i j p p' h
    cases h

end OciCcm.Go.Locks
