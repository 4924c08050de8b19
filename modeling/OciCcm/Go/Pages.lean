import Mathlib.Data.List.Nodup

/-! # Listing page by page

A listing asks for one page after the other, each time with the token that the
page before it has answered, until a page has no token. The answers are numbered:
the same request may be answered differently at another time. A server can hand
out tokens for ever, so the loop is given fuel.
-/

namespace OciCcm.Go.Pages

open List Option

universe u v

variable {ε : Type u} {α : Type v}

/-- The answer to the request with the given number for the page with the given token: the
items of the page and the token of the next one. -/
abbrev Server (ε : Type u) (α : Type v) :=
  Nat → Option String → Except ε (List α × Option String)

/-- The loop, with the number of the next request and the items found so far. It ends with the
items or an error and the number of the request after it, or runs out of fuel. -/
def collect (server : Server ε α) (keep : α → Bool) :
    Nat → Nat → Option String → List α → Option (Except ε (List α) × Nat)
  | 0, _, _, _ => none
  | fuel + 1, n, page, found =>
    match server n page with
    | .error err => some (.error err, n + 1)
    | .ok (items, next) =>
      let found := found ++ items.filter keep
      match next with
      | none => some (.ok found, n + 1)
      | some token => collect server keep fuel (n + 1) (some token) found

/-- The requests from number `n` on are all answered, up to the last page before number `n'`, and
the pages have these items. -/
inductive Listed (server : Server ε α) : Nat → Option String → List α → Nat → Prop
  | last {n : Nat} {page : Option String} {items : List α}
      (h : server n page = .ok (items, none)) : Listed server n page items (n + 1)
  | more {n n' : Nat} {page : Option String} {token : String} {items rest : List α}
      (h : server n page = .ok (items, some token))
      (hrest : Listed server (n + 1) (some token) rest n') :
      Listed server n page (items ++ rest) n'

/-- The requests from number `n` on are answered up to one that fails. -/
inductive Fails (server : Server ε α) : Nat → Option String → ε → Prop
  | here {n : Nat} {page : Option String} {err : ε} (h : server n page = .error err) :
    Fails server n page err
  | later {n : Nat} {page : Option String} {token : String} {items : List α} {err : ε}
      (h : server n page = .ok (items, some token))
      (hrest : Fails server (n + 1) (some token) err) : Fails server n page err

variable {server : Server ε α} {keep : α → Bool} {n n' : Nat} {page : Option String}
  {found : List α}

theorem Listed.unique {items items' : List α} {n₁ n₂ : Nat} (h : Listed server n page items n₁)
    (h' : Listed server n page items' n₂) : items = items' ∧ n₁ = n₂ := by
  induction h generalizing items' n₂ with
  | last h =>
    cases h' with
    | last h' =>
      rw [h] at h'
      obtain ⟨rfl, -⟩ := Prod.mk.inj (Except.ok.inj h')
      exact ⟨rfl, rfl⟩
    | more h' _ =>
      rw [h] at h'
      cases h'
  | more h hrest ih =>
    cases h' with
    | last h' =>
      rw [h] at h'
      cases h'
    | more h' hrest' =>
      rw [h] at h'
      obtain ⟨rfl, htoken⟩ := Prod.mk.inj (Except.ok.inj h')
      cases htoken
      obtain ⟨rfl, rfl⟩ := ih hrest'
      exact ⟨rfl, rfl⟩

theorem listed_of_collect {fuel : Nat} {result : List α}
    (h : collect server keep fuel n page found = some (.ok result, n')) :
    ∃ items, Listed server n page items n' ∧ result = found ++ items.filter keep := by
  induction fuel generalizing n page found with
  | zero => cases h
  | succ fuel ih =>
    unfold collect at h
    split at h
    · cases h
    · next items next hserver =>
        cases next with
        | none =>
          obtain ⟨rfl, rfl⟩ : _ = result ∧ n + 1 = n' := by simpa using h
          exact ⟨items, .last hserver, rfl⟩
        | some token =>
          obtain ⟨rest, hrest, rfl⟩ := ih h
          refine ⟨items ++ rest, .more hserver hrest, ?_⟩
          rw [filter_append, append_assoc]

theorem collect_of_listed {items : List α} (h : Listed server n page items n') :
    ∃ fuel, collect server keep fuel n page found =
      some (.ok (found ++ items.filter keep), n') := by
  induction h generalizing found with
  | last h => exact ⟨1, by simp [collect, h]⟩
  | @more n n' page token items rest h hrest ih =>
    obtain ⟨fuel, hfuel⟩ := @ih (found ++ items.filter keep)
    refine ⟨fuel + 1, ?_⟩
    simp only [collect, h, hfuel, filter_append, append_assoc]

theorem fails_of_collect {fuel : Nat} {err : ε}
    (h : collect server keep fuel n page found = some (.error err, n')) :
    Fails server n page err := by
  induction fuel generalizing n page found with
  | zero => cases h
  | succ fuel ih =>
    unfold collect at h
    split at h
    · next hserver =>
        cases h
        exact .here hserver
    · next items next hserver =>
        cases next with
        | none => cases h
        | some token => exact .later hserver (ih h)

theorem Fails.exists_error {err : ε} (h : Fails server n page err) :
    ∃ n page, server n page = .error err := by
  induction h with
  | here h => exact ⟨_, _, h⟩
  | later _ _ ih => exact ih

theorem collect_of_fails {err : ε} (h : Fails server n page err) :
    ∃ fuel n', collect server keep fuel n page found = some (.error err, n') := by
  induction h generalizing found with
  | here h => exact ⟨1, _, by simp only [collect, h]; rfl⟩
  | @later n page token items err h hrest ih =>
    obtain ⟨fuel, n', hfuel⟩ := @ih (found ++ items.filter keep)
    refine ⟨fuel + 1, n', ?_⟩
    simp only [collect, h, hfuel]

theorem collect_mono {fuel fuel' : Nat} (hle : fuel ≤ fuel') {r : Except ε (List α) × Nat}
    (h : collect server keep fuel n page found = some r) :
    collect server keep fuel' n page found = some r := by
  induction fuel generalizing n page found fuel' with
  | zero => cases h
  | succ fuel ih =>
    obtain ⟨fuel', rfl⟩ : ∃ k, fuel' = k + 1 := ⟨fuel' - 1, by omega⟩
    unfold collect at h ⊢
    split
    · next err herr =>
        rw [herr] at h
        exact h
    · next items next hserver =>
        rw [hserver] at h
        cases next with
        | none => exact h
        | some token => exact ih (Nat.le_of_succ_le_succ hle) h

/-! ## Loops that do something with the items

A loop may look at the items one by one, return before the last of them, or forget
to ask for the next page.
-/

/-- A loop over the pages of a listing, with a state of type `σ` and a result of type `ρ`. -/
structure Loop (ε : Type*) (α : Type*) (σ : Type*) (ρ : Type*) where
  /-- Is the token of the next page part of the request? -/
  passesToken : Bool
  start : σ
  /-- What is done with an item: the loop goes on, or it returns. -/
  visit : σ → α → σ ⊕ ρ
  failed : σ → ε → ρ
  finish : σ → ρ

namespace Loop

variable {σ : Type*} {ρ : Type*}

/-- The items of a page, one after the other. -/
def visitAll (l : Loop ε α σ ρ) : σ → List α → σ ⊕ ρ
  | st, [] => .inl st
  | st, x :: xs =>
    match l.visit st x with
    | .inl st => l.visitAll st xs
    | .inr r => .inr r

/-- The result of the loop and the pages it asks for, unless it runs out of fuel. -/
def run (l : Loop ε α σ ρ) (server : Server ε α) :
    Nat → Nat → Option String → σ → Option (ρ × List (Option String))
  | 0, _, _, _ => none
  | fuel + 1, n, page, st =>
    let request := if l.passesToken then page else none
    match server n request with
    | .error err => some (l.failed st err, [request])
    | .ok (items, next) =>
      match l.visitAll st items with
      | .inr r => some (r, [request])
      | .inl st =>
        match next with
        | none => some (l.finish st, [request])
        | some token =>
          (l.run server fuel (n + 1) (some token) st).map fun (r, requests) =>
            (r, request :: requests)

/-- What the loop makes of the items of all pages. -/
def result (l : Loop ε α σ ρ) (st : σ) (items : List α) : ρ :=
  match l.visitAll st items with
  | .inl st => l.finish st
  | .inr r => r

/-- A loop that keeps the items of a kind. -/
def collecting (passesToken : Bool) (keep : α → Bool) :
    Loop ε α (List α) (Except ε (List α)) where
  passesToken
  start := []
  visit found x := .inl (if keep x then found ++ [x] else found)
  failed _ err := .error err
  finish found := .ok found

/-- A loop whose iterations may fail, which ends it. -/
def stepping {β : Type*} (passesToken : Bool) (start : σ) (step : σ → α → Except ε σ)
    (finish : σ → Except ε β) : Loop ε α σ (Except ε β) where
  passesToken
  start
  visit st x :=
    match step st x with
    | .ok st => .inl st
    | .error err => .inr (.error err)
  failed _ err := .error err
  finish

variable {l : Loop ε α σ ρ} {st : σ} {r : ρ} {requests : List (Option String)}

theorem visitAll_append (xs ys : List α) :
    l.visitAll st (xs ++ ys) = (l.visitAll st xs).elim (l.visitAll · ys) .inr := by
  induction xs generalizing st with
  | nil => rfl
  | cons x xs ih =>
    rw [cons_append, visitAll, visitAll]
    cases hx : l.visit st x with
    | inl st₁ => exact ih
    | inr r => rfl

theorem result_append (xs ys : List α) {st' : σ} (h : l.visitAll st xs = .inl st') :
    l.result st (xs ++ ys) = l.result st' ys := by
  unfold result
  rw [visitAll_append, h, Sum.elim_inl]

theorem result_of_return (xs ys : List α) (h : l.visitAll st xs = .inr r) :
    l.result st (xs ++ ys) = r := by
  unfold result
  rw [visitAll_append, h, Sum.elim_inr]

/-- A run that ends neither with a failed request nor at one of the items has listed them all. -/
theorem listed_of_run (htoken : l.passesToken = true) {Good : ρ → Prop}
    (hfailed : ∀ st err, ¬Good (l.failed st err))
    (hreturn : ∀ st items r, l.visitAll st items = .inr r → ¬Good r) {fuel n : Nat}
    {page : Option String} (h : l.run server fuel n page st = some (r, requests)) (hr : Good r) :
    ∃ items n' st', Listed server n page items n' ∧ l.visitAll st items = .inl st' ∧
      r = l.finish st' := by
  induction fuel generalizing n page st requests with
  | zero => cases h
  | succ fuel ih =>
    unfold run at h
    rw [htoken, if_pos rfl] at h
    dsimp only at h
    cases hserver : server n page with
    | error err =>
      rw [hserver] at h
      obtain ⟨rfl, -⟩ := Prod.mk.inj (Option.some.inj h)
      exact absurd hr (hfailed st err)
    | ok answer =>
      obtain ⟨items, next⟩ := answer
      rw [hserver] at h
      dsimp only at h
      cases hvisit : l.visitAll st items with
      | inr r' =>
        rw [hvisit] at h
        obtain ⟨rfl, -⟩ := Prod.mk.inj (Option.some.inj h)
        exact absurd hr (hreturn st items _ hvisit)
      | inl st₁ =>
        rw [hvisit] at h
        cases next with
        | none =>
          obtain ⟨rfl, -⟩ := Prod.mk.inj (Option.some.inj h)
          exact ⟨items, n + 1, st₁, .last hserver, hvisit, rfl⟩
        | some token =>
          obtain ⟨⟨r', requests'⟩, hrest, heq⟩ := map_eq_some_iff.mp h
          obtain ⟨rfl, -⟩ := Prod.mk.inj heq
          obtain ⟨rest, n', st', hlisted, hvisit', hfinish⟩ := ih hrest
          refine ⟨items ++ rest, n', st', .more hserver hlisted, ?_, hfinish⟩
          rw [visitAll_append, hvisit, Sum.elim_inl, hvisit']

theorem run_of_listed (htoken : l.passesToken = true) {n n' : Nat} {page : Option String}
    {items : List α} (h : Listed server n page items n') {st' : σ}
    (hvisit : l.visitAll st items = .inl st') :
    ∃ fuel requests, l.run server fuel n page st = some (l.finish st', requests) := by
  induction h generalizing st with
  | @last n page items h =>
    refine ⟨1, [page], ?_⟩
    simp only [run, htoken, if_true, h, hvisit]
  | @more n n' page token items rest h hrest ih =>
    rw [visitAll_append] at hvisit
    cases hfirst : l.visitAll st items with
    | inr r =>
      rw [hfirst] at hvisit
      cases hvisit
    | inl st₁ =>
      rw [hfirst, Sum.elim_inl] at hvisit
      obtain ⟨fuel, requests, hrun⟩ := ih hvisit
      refine ⟨fuel + 1, page :: requests, ?_⟩
      simp only [run, htoken, if_true, h, hfirst, hrun, map_some]

/-- How much fuel a run had does not show in its result. -/
theorem run_unique {fuel fuel' n : Nat} {page : Option String} {st : σ}
    {r r' : ρ × List (Option String)} (h : l.run server fuel n page st = some r)
    (h' : l.run server fuel' n page st = some r') : r = r' := by
  induction fuel generalizing fuel' n page st r r' with
  | zero => cases h
  | succ fuel ih =>
    cases fuel' with
    | zero => cases h'
    | succ fuel' =>
      unfold run at h h'
      dsimp only at h h'
      cases hserver : server n (if l.passesToken then page else none) with
      | error err =>
        rw [hserver] at h h'
        exact Option.some.inj (h.symm.trans h')
      | ok answer =>
        obtain ⟨items, next⟩ := answer
        rw [hserver] at h h'
        dsimp only at h h'
        cases hvisit : l.visitAll st items with
        | inr r₁ =>
          rw [hvisit] at h h'
          exact Option.some.inj (h.symm.trans h')
        | inl st' =>
          rw [hvisit] at h h'
          cases next with
          | none => exact Option.some.inj (h.symm.trans h')
          | some token =>
            obtain ⟨later, hlater, rfl⟩ := map_eq_some_iff.mp h
            obtain ⟨later', hlater', rfl⟩ := map_eq_some_iff.mp h'
            rw [ih hlater hlater']

section Stepping

variable {β : Type*} {passesToken : Bool} {start st st' : σ} {step : σ → α → Except ε σ}
  {finish : σ → Except ε β} {items : List α}

theorem visitAll_stepping :
    (stepping passesToken start step finish).visitAll st items =
      match items.foldlM step st with
      | .ok st => .inl st
      | .error err => .inr (.error err) := by
  induction items generalizing st with
  | nil => rfl
  | cons x items ih =>
    rw [visitAll, foldlM_cons]
    dsimp only [stepping]
    cases step st x with
    | ok st₁ => exact ih
    | error err => rfl

theorem visitAll_stepping_inl (h : items.foldlM step st = .ok st') :
    (stepping passesToken start step finish).visitAll st items = .inl st' := by
  rw [visitAll_stepping, h]

theorem listed_of_run_stepping {fuel n : Nat} {page : Option String} {b : β}
    {requests : List (Option String)}
    (h : (stepping true start step finish).run server fuel n page st = some (.ok b, requests)) :
    ∃ items n' st', Listed server n page items n' ∧ items.foldlM step st = .ok st' ∧
      finish st' = .ok b := by
  have hreturn : ∀ st items r, (stepping true start step finish).visitAll st items = .inr r →
      ¬∃ b, r = .ok b := by
    rintro st items r hr ⟨b, rfl⟩
    rw [visitAll_stepping] at hr
    cases hfold : items.foldlM step st with
    | ok st' =>
      rw [hfold] at hr
      cases hr
    | error err =>
      rw [hfold] at hr
      cases hr
  obtain ⟨items, n', st', hlisted, hvisit, hfinish⟩ :=
    listed_of_run rfl (by rintro st err ⟨b, hb⟩; cases hb) hreturn h ⟨b, rfl⟩
  refine ⟨items, n', st', hlisted, ?_, hfinish.symm⟩
  rw [visitAll_stepping] at hvisit
  cases hfold : items.foldlM step st with
  | ok st₁ =>
    rw [hfold] at hvisit
    rw [Sum.inl.inj hvisit]
  | error err =>
    rw [hfold] at hvisit
    cases hvisit

end Stepping

end Loop

/-! ## Finite results in pages -/

/-- A finite result that is split into pages: the first one, and the others with their tokens. -/
structure Split (α : Type v) where
  first : List α
  rest : List (String × List α)
  nodup_tokens : (rest.map Prod.fst).Nodup

namespace Split

/-- The token of the first page of a list. -/
def nextToken (pages : List (String × List α)) : Option String := pages.head?.map Prod.fst

/-- The page with a token, and the token of the page after it. -/
def pageOf (token : String) : List (String × List α) → Option (List α × Option String)
  | [] => none
  | (t, items) :: pages => if t = token then some (items, nextToken pages) else pageOf token pages

/-- The answers of a server, with an error for tokens that it has not given out. -/
def serve (unknown : ε) (s : Split α) : Server ε α := fun _ page =>
  match page with
  | none => .ok (s.first, nextToken s.rest)
  | some token =>
    match pageOf token s.rest with
    | some answer => .ok answer
    | none => .error unknown

def items (s : Split α) : List α := s.first ++ s.rest.flatMap Prod.snd

def single (items : List α) : Split α := ⟨items, [], .nil⟩

variable {items : List α} {before after : List (String × List α)} {token : String}
  {pages : List (String × List α)}

theorem pageOf_of_append (h : token ∉ before.map Prod.fst) :
    pageOf token (before ++ (token, items) :: after) = some (items, nextToken after) := by
  induction before with
  | nil => simp [pageOf]
  | cons page before ih =>
    obtain ⟨t, items'⟩ := page
    rw [map_cons, mem_cons, not_or] at h
    rw [cons_append, pageOf, if_neg fun heq => h.1 heq.symm, ih h.2]

variable {σ : Type*} {ρ : Type*} {l : Loop ε α σ ρ} {unknown : ε} {s : Split α}

theorem serve_some (h : s.rest = before ++ (token, items) :: after) (n : Nat) :
    s.serve unknown n (some token) = .ok (items, nextToken after) := by
  have hnodup := s.nodup_tokens
  rw [h, map_append, map_cons, nodup_append] at hnodup
  have hnot : token ∉ before.map Prod.fst := fun hmem =>
    hnodup.2.2 token hmem token mem_cons_self rfl
  simp only [serve, h, pageOf_of_append hnot]

/-- One request of a loop that passes the token on. -/
theorem run_page (htoken : l.passesToken = true) {server : Server ε α} {page : Option String}
    {n : Nat} {st : σ} (hpage : server n page = .ok (items, nextToken pages))
    (hlater : ∀ token items' pages' st, pages = (token, items') :: pages' → ∃ fuel requests,
      l.run server fuel (n + 1) (some token) st =
        some (l.result st (items' ++ pages'.flatMap Prod.snd), requests) ∧
      requests <+: (token :: pages'.map Prod.fst).map some) :
    ∃ fuel requests, l.run server fuel n page st =
        some (l.result st (items ++ pages.flatMap Prod.snd), requests) ∧
      requests <+: page :: (pages.map Prod.fst).map some := by
  cases hvisit : l.visitAll st items with
  | inr r =>
    refine ⟨1, [page], ?_, by simp⟩
    simp only [Loop.run, htoken, if_true, hpage, hvisit, Loop.result_of_return items _ hvisit]
  | inl st' =>
    rw [Loop.result_append items _ hvisit]
    cases pages with
    | nil =>
      refine ⟨1, [page], ?_, by simp⟩
      simp only [Loop.run, htoken, if_true, hpage, hvisit, nextToken, List.head?_nil,
        map_none, flatMap_nil, Loop.result, Loop.visitAll]
    | cons next pages =>
      obtain ⟨token, items'⟩ := next
      obtain ⟨fuel, requests, hrun, hlog⟩ := hlater token items' pages st' rfl
      refine ⟨fuel + 1, page :: requests, ?_, prefix_cons_inj page |>.mpr hlog⟩
      simp only [Loop.run, htoken, if_true, hpage, hvisit, nextToken, List.head?_cons,
        map_some, hrun, flatMap_cons]

/-- The loop from a later page on: it returns what the items on the remaining pages make of its
state, and asks for some of these pages in their order. -/
theorem run_later (htoken : l.passesToken = true) (before : List (String × List α))
    (hrest : s.rest = before ++ (token, items) :: pages) (n : Nat) (st : σ) : ∃ fuel requests,
      l.run (s.serve unknown) fuel n (some token) st =
        some (l.result st (items ++ pages.flatMap Prod.snd), requests) ∧
      requests <+: (token :: pages.map Prod.fst).map some := by
  induction pages generalizing before token items n st with
  | nil => exact run_page htoken (serve_some hrest n) fun _ _ _ _ h => nomatch h
  | cons page pages ih =>
    refine run_page htoken (serve_some hrest n) fun token' items' pages' st' heq => ?_
    obtain ⟨rfl, rfl⟩ := List.cons.inj heq
    exact ih (before ++ [(token, items)]) (by simpa using hrest) (n + 1) st'

/-- A loop that passes the token on ends, asks for no page twice, and returns what it makes of all
items. -/
theorem run_of_passesToken (htoken : l.passesToken = true) : ∃ fuel requests,
    l.run (s.serve unknown) fuel 0 none l.start = some (l.result l.start s.items, requests) ∧
      requests.Nodup := by
  have hfirst : s.serve unknown 0 none = .ok (s.first, nextToken s.rest) := rfl
  obtain ⟨fuel, requests, hrun, hlog⟩ : ∃ fuel requests,
      l.run (s.serve unknown) fuel 0 none l.start = some (l.result l.start s.items, requests) ∧
        requests <+: none :: (s.rest.map Prod.fst).map some :=
    run_page htoken hfirst fun token items pages st heq => run_later htoken [] heq 1 st
  refine ⟨fuel, requests, hrun, hlog.sublist.nodup (nodup_cons.mpr ⟨by simp, ?_⟩)⟩
  exact List.Nodup.map (fun _ _ => Option.some.inj) s.nodup_tokens

/-- A loop that does not pass the token on, nor returns early, ends for a single page only. -/
theorem run_eq_none (htoken : l.passesToken = false)
    (hvisit : ∀ st x, ∃ st', l.visit st x = .inl st') (hrest : s.rest ≠ []) (fuel n : Nat)
    (page : Option String) (st : σ) : l.run (s.serve unknown) fuel n page st = none := by
  have hvisitAll : ∀ items st, ∃ st', l.visitAll st items = .inl st' := by
    intro items
    induction items with
    | nil => exact fun st => ⟨st, rfl⟩
    | cons x items ih =>
      intro st
      obtain ⟨st₁, h₁⟩ := hvisit st x
      obtain ⟨st', h'⟩ := ih st₁
      exact ⟨st', by rw [Loop.visitAll, h₁, ← h']⟩
  induction fuel generalizing n page st with
  | zero => rfl
  | succ fuel ih =>
    obtain ⟨st', h'⟩ := hvisitAll s.first st
    obtain ⟨⟨token, items⟩, pages, hpages⟩ := exists_cons_of_ne_nil hrest
    simp only [Loop.run, htoken, Bool.false_eq_true, if_false, serve, h', hpages, nextToken,
      List.head?_cons, map_some, ih, map_none]

end Split

end OciCcm.Go.Pages
