import Mathlib.Data.List.Forall2

/-! # Regular expressions without choice

A pattern is a sequence of parts, each of which takes as many characters of a
class as possible, within bounds. Of all the ways to match, the one is chosen that
gives the earlier parts more: first the longest piece of the first part for which
the rest can match, and so on. The match that starts leftmost is returned.
-/

namespace OciCcm.Go.Regexp

open List

/-- A part of a pattern. Without an upper bound it takes any number of characters. -/
structure Part where
  accepts : Char → Bool
  least : Nat := 1
  most : Option Nat := some 1
  /-- The submatch that the part belongs to, counted from one. -/
  group : Nat := 0

/-- A character that is to be matched as it is. -/
def char (c : Char) : Part := { accepts := (· = c) }

def literal (s : String) : List Part := s.toList.map char

/-- The length of the longest piece. -/
def Part.longest (part : Part) (cs : List Char) : Nat :=
  let length := (cs.takeWhile part.accepts).length
  part.most.elim length (min length)

/-- The lengths of pieces, the longest one first. -/
def Part.lengths (part : Part) (cs : List Char) : List Nat :=
  (List.range' part.least (part.longest cs + 1 - part.least)).reverse

/-- The pieces of the parts in a match at the beginning. -/
def matchHere : List Part → List Char → Option (List (List Char))
  | [], _ => some []
  | part :: parts, cs =>
    (part.lengths cs).findSome? fun n => (matchHere parts (cs.drop n)).map (cs.take n :: ·)

/-- The pieces of the leftmost match. -/
def find (parts : List Part) (cs : List Char) : Option (List (List Char)) :=
  cs.tails.findSome? (matchHere parts)

/-- What the parts of a group have taken. -/
def submatch (group : Nat) : List Part → List (List Char) → List Char
  | part :: parts, piece :: pieces =>
    (if part.group = group then piece else []) ++ submatch group parts pieces
  | _, _ => []

/-- `re.FindStringSubmatch(s)` for an expression with the given number of groups: the whole match
and the submatches. -/
def findStringSubmatch (parts : List Part) (groups : Nat) (s : String) : Option (List String) :=
  (find parts s.toList).map fun pieces =>
    String.ofList pieces.flatten ::
      (List.range groups).map fun i => String.ofList (submatch (i + 1) parts pieces)

/-! ## Pieces -/

/-- A piece that a part can take. -/
structure Part.Fits (part : Part) (piece : List Char) : Prop where
  accepts : ∀ c ∈ piece, part.accepts c
  least : part.least ≤ piece.length
  most : ∀ m, part.most = some m → piece.length ≤ m

variable {part : Part} {parts : List Part} {cs piece rest : List Char}
  {pieces : List (List Char)}

theorem Part.le_longest_iff {n : Nat} :
    n ≤ part.longest cs ↔
      n ≤ (cs.takeWhile part.accepts).length ∧ ∀ m, part.most = some m → n ≤ m := by
  unfold longest
  cases part.most with
  | none => simp
  | some m =>
    refine Nat.le_min.trans (and_congr_right fun _ => ?_)
    simp

theorem Part.mem_lengths {n : Nat} :
    n ∈ part.lengths cs ↔ part.least ≤ n ∧ n ≤ part.longest cs := by
  rw [lengths, mem_reverse, mem_range'_1]
  omega

theorem length_le_takeWhile_iff {p : Char → Bool} :
    piece.length ≤ ((piece ++ rest).takeWhile p).length ↔ ∀ c ∈ piece, p c := by
  induction piece with
  | nil => simp
  | cons c piece ih =>
    rw [cons_append, takeWhile_cons]
    split
    · next hc => simpa [hc] using ih
    · next hc => simp [hc]

theorem Part.mem_lengths_append :
    piece.length ∈ part.lengths (piece ++ rest) ↔ part.Fits piece := by
  rw [mem_lengths, le_longest_iff, length_le_takeWhile_iff]
  constructor
  · rintro ⟨hleast, haccepts, hmost⟩
    exact ⟨haccepts, hleast, hmost⟩
  · rintro ⟨haccepts, hleast, hmost⟩
    exact ⟨hleast, haccepts, hmost⟩

theorem Part.pairwise_lengths (part : Part) (cs : List Char) :
    (part.lengths cs).Pairwise (· > ·) :=
  pairwise_reverse.mpr pairwise_lt_range'

theorem Part.length_take {n : Nat} (h : n ∈ part.lengths cs) : (cs.take n).length = n := by
  have hle := (le_longest_iff.mp (mem_lengths.mp h).2).1
  have hlength := (List.takeWhile_prefix (p := part.accepts) (l := cs)).length_le
  rw [List.length_take]
  omega

theorem Part.fits_take {n : Nat} (h : n ∈ part.lengths cs) : part.Fits (cs.take n) := by
  have hmem : (cs.take n).length ∈ part.lengths (cs.take n ++ cs.drop n) := by
    rw [take_append_drop, length_take h]
    exact h
  exact mem_lengths_append.mp hmem

/-! ## Matches -/

theorem fits_of_matchHere (h : matchHere parts cs = some pieces) :
    List.Forall₂ Part.Fits parts pieces ∧ pieces.flatten <+: cs := by
  induction parts generalizing cs pieces with
  | nil =>
    cases h
    exact ⟨.nil, nil_prefix⟩
  | cons part parts ih =>
    obtain ⟨n, hn, hmatch⟩ := exists_of_findSome?_eq_some h
    obtain ⟨pieces, hrest, rfl⟩ := Option.map_eq_some_iff.mp hmatch
    obtain ⟨hfits, hprefix⟩ := ih hrest
    refine ⟨.cons (Part.fits_take hn) hfits, ?_⟩
    rw [flatten_cons]
    calc cs.take n ++ pieces.flatten <+: cs.take n ++ cs.drop n :=
          (prefix_append_right_inj _).mpr hprefix
      _ = cs := take_append_drop n cs

/-- A part takes a piece after which the rest matches, if the rest does not match after any longer
piece. -/
theorem matchHere_cons (hpiece : part.Fits piece) (hrest : matchHere parts rest = some pieces)
    (hlonger : ∀ more rest', more ≠ [] → rest = more ++ rest' → part.Fits (piece ++ more) →
      matchHere parts rest' = none) :
    matchHere (part :: parts) (piece ++ rest) = some (piece :: pieces) := by
  have hmem : piece.length ∈ part.lengths (piece ++ rest) := Part.mem_lengths_append.mpr hpiece
  obtain ⟨longer, shorter, hlengths⟩ := append_of_mem hmem
  refine List.findSome?_eq_some_iff.mpr ⟨longer, piece.length, shorter, hlengths, ?_, ?_⟩
  · rw [take_left, drop_left, hrest, Option.map_some]
  · intro n hn
    have hmem : n ∈ part.lengths (piece ++ rest) := by
      rw [hlengths]
      exact mem_append_left _ hn
    have hlt : piece.length < n := by
      have hpairwise := part.pairwise_lengths (piece ++ rest)
      rw [hlengths, pairwise_append] at hpairwise
      exact hpairwise.2.2 n hn piece.length mem_cons_self
    obtain ⟨k, rfl⟩ := Nat.exists_eq_add_of_lt hlt
    have hfits := Part.fits_take hmem
    have hlength := Part.length_take hmem
    rw [Nat.add_assoc, take_length_add_append] at hfits hlength
    rw [Nat.add_assoc, drop_length_add_append]
    have hne : rest.take (k + 1) ≠ [] := by
      intro hnil
      rw [hnil, append_nil] at hlength
      omega
    rw [hlonger _ _ hne (take_append_drop (k + 1) rest).symm hfits, Option.map_none]

theorem matchHere_cons_of_head (hpiece : part.Fits piece)
    (hrest : matchHere parts rest = some pieces)
    (hhead : ∀ c, rest.head? = some c → ¬part.accepts c) :
    matchHere (part :: parts) (piece ++ rest) = some (piece :: pieces) := by
  refine matchHere_cons hpiece hrest ?_
  rintro (_ | ⟨c, more⟩) rest' hmore rfl hfits
  · exact absurd rfl hmore
  · refine absurd (hfits.accepts c ?_) (hhead c rfl)
    exact mem_append_right _ mem_cons_self

theorem matchHere_singleton (hpiece : part.Fits piece) : matchHere [part] piece = some [piece] := by
  have hnil : matchHere [part] (piece ++ []) = some [piece] :=
    matchHere_cons_of_head hpiece rfl fun _ hc => by cases hc
  rwa [append_nil] at hnil

theorem find_of_matchHere (h : matchHere parts cs = some pieces) : find parts cs = some pieces := by
  unfold find
  cases cs with
  | nil => simp [List.tails, h]
  | cons c cs => simp [List.tails, h]

/-! ## Texts -/

theorem fits_char {c : Char} : (char c).Fits piece ↔ piece = [c] := by
  constructor
  · rintro ⟨haccepts, hleast, hmost⟩
    obtain ⟨c', rfl⟩ := length_eq_one_iff.mp (Nat.le_antisymm (hmost 1 rfl) hleast)
    rw [of_decide_eq_true (haccepts c' mem_cons_self)]
  · rintro rfl
    exact ⟨by simp [char], Nat.le_refl 1, by simp [char]⟩

theorem matchHere_literal (cs : List Char) (h : matchHere parts rest = some pieces) :
    matchHere (cs.map char ++ parts) (cs ++ rest) = some (cs.map ([·]) ++ pieces) := by
  induction cs with
  | nil => exact h
  | cons c cs ih =>
    have hfits : (char c).Fits [c] := fits_char.mpr rfl
    refine matchHere_cons hfits ih ?_
    intro more rest' hmore _ hfits
    have hnil : more = [] := by simpa using fits_char.mp hfits
    exact absurd hnil hmore

theorem pieces_of_literal (cs : List Char)
    (h : List.Forall₂ Part.Fits (cs.map char ++ parts) pieces) :
    ∃ pieces', pieces = cs.map ([·]) ++ pieces' := by
  induction cs generalizing pieces with
  | nil => exact ⟨pieces, rfl⟩
  | cons c cs ih =>
    cases h with
    | cons hfirst hrest =>
      obtain ⟨pieces', rfl⟩ := ih hrest
      refine ⟨pieces', ?_⟩
      rw [fits_char.mp hfirst]
      rfl

theorem prefix_of_matchHere_literal
    (h : matchHere (cs.map char ++ parts) rest = some pieces) : cs <+: rest := by
  obtain ⟨hfits, hprefix⟩ := fits_of_matchHere h
  obtain ⟨pieces', rfl⟩ := pieces_of_literal cs hfits
  have hflatten : (cs.map ([·])).flatten = cs := by
    rw [← flatMap_def, flatMap_singleton']
  rw [flatten_append, hflatten] at hprefix
  exact (prefix_append _ _).trans hprefix

theorem submatch_literal {group : Nat} (hgroup : group ≠ 0) (cs : List Char) :
    submatch group (cs.map char ++ parts) (cs.map ([·]) ++ pieces) =
      submatch group parts pieces := by
  induction cs with
  | nil => rfl
  | cons c cs ih =>
    have hskip : ¬(char c).group = group := hgroup.symm
    rw [map_cons, map_cons, cons_append, cons_append, submatch,
      if_neg hskip, nil_append, ih]

end OciCcm.Go.Regexp
