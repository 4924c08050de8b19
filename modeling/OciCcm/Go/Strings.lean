import Mathlib.Algebra.Group.Int.Defs
import Mathlib.Data.Bool.AllAny
import Mathlib.Data.Finset.Insert
import Mathlib.Data.List.Infix
import Mathlib.Data.List.Sort
import Mathlib.Data.String.Basic

/-! # Go strings

The functions of `strings`, `strconv` and `fmt` that the model calls, on the
characters of a string. Case mapping is the simple mapping of single characters:
apart from ASCII only the characters that map to an ASCII letter are listed, as
the strings compared in the model are ASCII on at least one side.
-/

namespace OciCcm.Go

open List

/-! ## Splitting and searching -/

/-- `strings.Split(s, sep)` for a separator of one character. -/
def split (s : String) (sep : Char) : List String :=
  (s.toList.splitOn sep).map String.ofList

theorem eq_or_mem_of_mem_intercalate {sep c : Char} {fields : List (List Char)}
    (h : c ∈ [sep].intercalate fields) : c = sep ∨ ∃ field ∈ fields, c ∈ field := by
  induction fields with
  | nil => simp at h
  | cons field fields ih =>
    cases fields with
    | nil =>
      rw [intercalate_singleton] at h
      exact .inr ⟨field, mem_cons_self, h⟩
    | cons field' fields =>
      rw [intercalate_cons_cons, append_assoc, mem_append] at h
      rcases h with h | h
      · exact .inr ⟨field, mem_cons_self, h⟩
      rcases mem_cons.mp h with h | h
      · exact .inl h
      · exact (ih h).imp_right fun ⟨f, hf, hc⟩ => ⟨f, mem_cons_of_mem _ hf, hc⟩

theorem eq_or_mem_splitOn (sep : Char) {cs : List Char} {c : Char} (h : c ∈ cs) :
    c = sep ∨ ∃ field ∈ cs.splitOn sep, c ∈ field := by
  have hcs : [sep].intercalate (cs.splitOn sep) = cs := intercalate_splitOn sep
  rw [← hcs] at h
  exact eq_or_mem_of_mem_intercalate h

/-- `strings.Join(fields, sep)`. -/
def join (fields : List String) (sep : String) : String := sep.intercalate fields

theorem split_join {sep : Char} {s : String} (hs : s.toList = [sep]) {fields : List String}
    (hne : fields ≠ []) (hfields : ∀ field ∈ fields, sep ∉ field.toList) :
    split (join fields s) sep = fields := by
  have hlists : ∀ cs ∈ fields.map String.toList, sep ∉ cs := by simpa using hfields
  rw [split, join, String.toList_intercalate, hs,
    splitOn_intercalate sep hlists (mt map_eq_nil_iff.mp hne), map_map]
  exact map_id'' (fun _ => String.ofList_toList) fields

theorem split_of_notMem {s l r : String} {sep : Char}
    (hs : s.toList = l.toList ++ sep :: r.toList) (hl : sep ∉ l.toList) (hr : sep ∉ r.toList) :
    split s sep = [l, r] := by
  rw [split, hs, splitOn_append_cons_self_of_not_mem hl, splitOn_eq_singleton hr,
    map_cons, map_singleton, String.ofList_toList, String.ofList_toList]

/-- `strings.Contains(s, sub)`. -/
def contains (s sub : String) : Bool := decide (sub.toList <:+: s.toList)

theorem contains_iff_mem {s sub : String} {c : Char} (hsub : sub.toList = [c]) :
    contains s sub ↔ c ∈ s.toList := by
  rw [contains, hsub, decide_eq_true_iff, singleton_infix_iff]

/-- `strings.HasPrefix(s, pre)`. -/
def hasPrefix (s pre : String) : Bool := decide (pre.toList <+: s.toList)

/-- `strings.HasSuffix(s, suf)`. -/
def hasSuffix (s suf : String) : Bool := decide (suf.toList <:+ s.toList)

/-- `strings.ReplaceAll(s, old, new)` of one character by another. -/
def replaceAll (s : String) (old new : Char) : String :=
  s.map fun c => if c = old then new else c

/-- `strings.TrimPrefix(s, pre)`. -/
def trimPrefix (s pre : String) : String :=
  if hasPrefix s pre then String.ofList (s.toList.drop pre.length) else s

theorem hasPrefix_append (pre s : String) : hasPrefix (pre ++ s) pre := by
  simp [hasPrefix, String.toList_append]

theorem trimPrefix_append (pre s : String) : trimPrefix (pre ++ s) pre = s := by
  rw [trimPrefix, if_pos (hasPrefix_append pre s), String.toList_append, ← String.length_toList,
    drop_left, String.ofList_toList]

/-- `strings.TrimSuffix(s, suf)`. -/
def trimSuffix (s suf : String) : String :=
  if hasSuffix s suf then String.ofList (s.toList.take (s.length - suf.length)) else s

/-- `strings.TrimSpace(s)` for the white space of ASCII. -/
def trimSpace (s : String) : String :=
  String.ofList (((s.toList.dropWhile Char.isWhitespace).reverse.dropWhile
    Char.isWhitespace).reverse)

/-- `strings.ReplaceAll(s, " ", "")`. -/
def removeSpaces (s : String) : String := String.ofList (s.toList.filter (· ≠ ' '))

/-- `strings.Trim(s, cutset)`. -/
def trim (s : String) (cutset : List Char) : String :=
  String.ofList (((s.toList.dropWhile (· ∈ cutset)).reverse.dropWhile (· ∈ cutset)).reverse)

section Trim

variable {cutset : List Char}

theorem dropWhile_of_forall_notMem {cs : List Char} (h : ∀ c ∈ cs, c ∉ cutset) :
    cs.dropWhile (· ∈ cutset) = cs := by
  cases cs with
  | nil => rfl
  | cons c cs => rw [dropWhile_cons_of_neg (by simpa using h c mem_cons_self)]

theorem trim_of_forall_notMem {s : String} (h : ∀ c ∈ s.toList, c ∉ cutset) :
    trim s cutset = s := by
  rw [trim, dropWhile_of_forall_notMem h,
    dropWhile_of_forall_notMem fun c hc => h c (mem_reverse.mp hc), reverse_reverse,
    String.ofList_toList]

theorem trim_append {l s r : String} (hl : ∀ c ∈ l.toList, c ∈ cutset)
    (hs : ∀ c ∈ s.toList, c ∉ cutset) (hr : ∀ c ∈ r.toList, c ∈ cutset) (hne : s ≠ "") :
    trim (l ++ s ++ r) cutset = s := by
  have hdrop : ∀ {before middle after : List Char}, (∀ c ∈ before, c ∈ cutset) →
      (∀ c ∈ middle, c ∉ cutset) → middle ≠ [] →
      (before ++ (middle ++ after)).dropWhile (· ∈ cutset) = middle ++ after := by
    intro before middle after hbefore hmiddle hne
    obtain ⟨c, cs, rfl⟩ := exists_cons_of_ne_nil hne
    rw [dropWhile_append_of_pos (by simpa using hbefore), cons_append,
      dropWhile_cons_of_neg (by simpa using hmiddle c mem_cons_self)]
  have hne' : s.toList ≠ [] := mt String.toList_eq_nil_iff.mp hne
  rw [trim, String.toList_append, String.toList_append, append_assoc, hdrop hl hs hne',
    reverse_append]
  have hlast := @hdrop r.toList.reverse s.toList.reverse [] (by simpa using hr) (by simpa using hs)
    (by simpa using hne')
  rw [append_nil] at hlast
  rw [hlast, reverse_reverse, String.ofList_toList]

end Trim

/-! Positions in a string count its characters. -/

/-- `strings.Index(s, sep)` for one character. -/
def index (s : String) (sep : Char) : Int :=
  if sep ∈ s.toList then (s.toList.idxOf sep : Int) else -1

/-- `strings.LastIndex(s, sep)` for one character. -/
def lastIndex (s : String) (sep : Char) : Int :=
  if sep ∈ s.toList then (s.length : Int) - 1 - s.toList.reverse.idxOf sep else -1

/-- `s[i:j]`. -/
def slice (s : String) (i j : Int) : String :=
  String.ofList ((s.toList.take j.toNat).drop i.toNat)

section Positions

variable {s : String} {sep : Char} {l r : List Char}

theorem index_of_notMem (hs : s.toList = l ++ sep :: r) (h : sep ∉ l) :
    index s sep = l.length := by
  rw [index, hs, if_pos (mem_append_right _ mem_cons_self),
    idxOf_append_of_notMem h, idxOf_cons_self, Nat.add_zero]

theorem lastIndex_of_notMem (hs : s.toList = l ++ sep :: r) (h : sep ∉ r) :
    lastIndex s sep = l.length := by
  have hlength : s.length = l.length + (r.length + 1) := by
    rw [← String.length_toList, hs, length_append, length_cons]
  rw [lastIndex, hlength, hs, if_pos (mem_append_right _ mem_cons_self),
    reverse_append, reverse_cons, append_assoc,
    idxOf_append_of_notMem (mt mem_reverse.mp h), singleton_append,
    idxOf_cons_self, length_reverse]
  omega

theorem not_index_lt_of_notMem (hs : s.toList = l ++ r) (h : sep ∉ l) :
    ¬(0 ≤ index s sep ∧ index s sep < l.length) := by
  rintro ⟨hfound, hlt⟩
  rw [index, hs, idxOf_append_of_notMem h] at hfound hlt
  split at hlt
  · omega
  · next hmem =>
    rw [if_neg hmem] at hfound
    cases hfound

theorem slice_eq {part : String} (hs : s.toList = l ++ (part.toList ++ r)) {i j : Int}
    (hi : i = l.length) (hj : j = l.length + part.length) : slice s i j = part := by
  rw [slice, hs, hi, hj, ← append_assoc, ← Int.natCast_add, Int.toNat_natCast,
    Int.toNat_natCast, ← String.length_toList, ← length_append, take_left,
    drop_left, String.ofList_toList]

end Positions

/-- `s[:n]` where `s` is longer, else `s`, for a string of ASCII. -/
def cutTo (n : Nat) (s : String) : String := String.ofList (s.toList.take n)

/-! ## Case -/

/-- `unicode.ToLower`; the Kelvin sign and the dotted capital I become ASCII letters. -/
def lowerChar (c : Char) : Char :=
  if c = 'K' then 'k' else if c = 'İ' then 'i' else c.toLower

/-- `unicode.ToUpper`; the dotless i and the long s become ASCII letters. -/
def upperChar (c : Char) : Char :=
  if c = 'ı' then 'I' else if c = 'ſ' then 'S' else c.toUpper

/-- The representative of a character under simple case folding. -/
def foldChar (c : Char) : Char :=
  if c = 'K' then 'k' else if c = 'ſ' then 's' else c.toLower

/-- `strings.ToLower(s)`. -/
def toLower (s : String) : String := String.ofList (s.toList.map lowerChar)

/-- `strings.ToUpper(s)`. -/
def toUpper (s : String) : String := String.ofList (s.toList.map upperChar)

/-- `strings.EqualFold(s, t)`. -/
def equalFold (s t : String) : Bool := s.toList.map foldChar == t.toList.map foldChar

/-! ## Numbers and booleans -/

/-- The value of a string of decimal digits; empty strings and other characters are refused. -/
def parseDigits (cs : List Char) : Option Nat :=
  if cs ≠ [] ∧ cs.all Char.isDigit then some (Nat.ofDigitChars 10 cs 0) else none

/-- `strconv.ParseInt(s, 10, 64)`, and `strconv.Atoi(s)` where an `int` has 64 bits. -/
def parseInt (s : String) : Option Int :=
  let inRange (i : Int) := if -2 ^ 63 ≤ i ∧ i < 2 ^ 63 then some i else none
  match s.toList with
  | '-' :: cs => (parseDigits cs).bind fun n => inRange (-n)
  | '+' :: cs => (parseDigits cs).bind fun n => inRange n
  | cs => (parseDigits cs).bind fun n => inRange n

/-- `strconv.ParseBool(s)`. -/
def parseBool (s : String) : Option Bool :=
  if s ∈ ["1", "t", "T", "TRUE", "true", "True"] then some true
  else if s ∈ ["0", "f", "F", "FALSE", "false", "False"] then some false
  else none

/-- `fmt.Sprintf("%s-%d", p, n)`. -/
def dashed (p : String) (n : Nat) : String := p ++ "-" ++ toString n

/-- `errors.Wrap(err, msg).Error()`. -/
def wrap (msg err : String) : String := msg ++ ": " ++ err

/-! ## Names with dashes -/

theorem toList_dashed (p : String) (n : Nat) :
    (dashed p n).toList = p.toList ++ '-' :: (toString n).toList := by
  simp [dashed, String.toList_append]

theorem isDigit_of_mem_toString {n : Nat} {c : Char} (h : c ∈ (toString n).toList) :
    c.isDigit := by
  rw [Nat.toString_eq_repr, Nat.toList_repr] at h
  exact Nat.isDigit_of_mem_toDigits (by decide) (by decide) h

theorem parseDigits_toString (n : Nat) : parseDigits (toString n).toList = some n := by
  have hne : (toString n).toList ≠ [] := by
    rw [Nat.toString_eq_repr, Nat.toList_repr]
    exact Nat.toDigits_ne_nil
  have hdigits : (toString n).toList.all Char.isDigit :=
    all_eq_true.mpr fun _ h => isDigit_of_mem_toString h
  rw [parseDigits, if_pos ⟨hne, hdigits⟩, Nat.toString_eq_repr, Nat.toList_repr,
    Nat.ofDigitChars_ten_toDigits]

theorem parseInt_toString {n : Nat} (hn : n < 2 ^ 63) : parseInt (toString n) = some (n : Int) := by
  have hparse := parseDigits_toString n
  have hsign {c : Char} (hc : c ∈ (toString n).toList) : c.isDigit := isDigit_of_mem_toString hc
  unfold parseInt
  generalize (toString n).toList = cs at hparse hsign ⊢
  dsimp only
  split
  · exact absurd (hsign mem_cons_self) (by decide)
  · exact absurd (hsign mem_cons_self) (by decide)
  · rw [hparse, Option.bind_some, if_pos (by omega)]

theorem dash_notMem_toString (n : Nat) : '-' ∉ (toString n).toList := fun h =>
  absurd (isDigit_of_mem_toString h) (by decide)

theorem split_dashed {p : String} (hp : '-' ∉ p.toList) (n : Nat) :
    split (dashed p n) '-' = [p, toString n] :=
  split_of_notMem (toList_dashed p n) hp (dash_notMem_toString n)

theorem toString_injective {m n : Nat} (h : toString m = toString n) : m = n := by
  have h' := congrArg String.toList h
  rw [Nat.toString_eq_repr, Nat.toString_eq_repr, Nat.toList_repr, Nat.toList_repr] at h'
  rw [← Nat.ofDigitChars_ten_toDigits (n := m), h', Nat.ofDigitChars_ten_toDigits]

theorem dashed_inj {p q : String} {m n : Nat} (hp : '-' ∉ p.toList) (hq : '-' ∉ q.toList)
    (h : dashed p m = dashed q n) : p = q ∧ m = n := by
  have hs := split_dashed hp m
  rw [h, split_dashed hq n] at hs
  simp only [List.cons.injEq, and_true] at hs
  exact ⟨hs.1.symm, toString_injective hs.2.symm⟩

/-! ## Sets of strings

A `sets.String` is a finite set; its `List` method returns the members in order.
-/

/-- `s.List()`. -/
def sortedList (s : Finset String) : List String :=
  Quot.liftOn s.val (fun l => l.insertionSort (· ≤ ·)) fun l l' h =>
    List.Perm.eq_of_pairwise' (pairwise_insertionSort _ l) (pairwise_insertionSort _ l')
      (((perm_insertionSort _ l).trans h).trans (perm_insertionSort _ l').symm)

@[simp] theorem sortedList_empty : sortedList ∅ = [] := rfl

@[simp] theorem mem_sortedList {s : Finset String} {x : String} : x ∈ sortedList s ↔ x ∈ s := by
  obtain ⟨l, hl⟩ := s
  induction l using Quot.inductionOn with
  | h l => exact mem_insertionSort _

theorem nodup_sortedList (s : Finset String) : (sortedList s).Nodup := by
  obtain ⟨l, hl⟩ := s
  induction l using Quot.inductionOn with
  | h l => exact (perm_insertionSort _ l).nodup_iff.mpr hl

end OciCcm.Go
