import Mathlib.Data.List.Infix
import Mathlib.Data.String.Basic

/-! # Command lines

The words that a shell makes of a command line that is the value of a parameter,
as in `bash -c '$0' "$line"`: the value is split at blanks, and a word that is a
pattern is replaced by the files that match it. A text put into the line is a
word of its own where it is neither empty nor has blanks or patterns in it.
-/

namespace OciCcm.Go.Shell

open List

def blanks : List Char := [' ', '\t', '\n']

def patternChars : List Char := ['*', '?', '[']

/-- The characters with a meaning in a command line. -/
def metacharacters : List Char :=
  blanks ++ patternChars ++ ['|', '&', ';', '<', '>', '(', ')', '$', '\x60', '\\', '"', '\x27']

/-- A text without such characters. -/
def Plain (text : String) : Prop := ∀ c ∈ text.toList, c ∉ metacharacters

instance : DecidablePred Plain := fun text =>
  List.decidableBAll (· ∉ metacharacters) text.toList

theorem notMem_of_notMem_metacharacters {c : Char} (h : c ∉ metacharacters) :
    c ∉ blanks ∧ c ∉ patternChars :=
  ⟨fun hc => h (mem_append_left _ (mem_append_left _ hc)),
    fun hc => h (mem_append_left _ (mem_append_right _ hc))⟩

/-! ## Fields -/

def fieldsOf (cs : List Char) : List (List Char) :=
  (cs.splitOnP (· ∈ blanks)).filter (· ≠ [])

def fields (line : String) : List String := (fieldsOf line.toList).map String.ofList

theorem fieldsOf_append_cons (l r : List Char) {c : Char} (hc : c ∈ blanks) :
    fieldsOf (l ++ c :: r) = fieldsOf l ++ fieldsOf r := by
  rw [fieldsOf, splitOnP_append_cons l r (by simpa using hc), filter_append]
  rfl

theorem fieldsOf_append_singleton (l : List Char) {c : Char} (hc : c ∈ blanks) :
    fieldsOf (l ++ [c]) = fieldsOf l := by
  rw [fieldsOf_append_cons l [] hc]
  exact append_nil _

theorem fieldsOf_cons (r : List Char) {c : Char} (hc : c ∈ blanks) :
    fieldsOf (c :: r) = fieldsOf r :=
  fieldsOf_append_cons [] r hc

theorem notMem_blanks_of_mem_splitOnP {cs field : List Char}
    (h : field ∈ cs.splitOnP (· ∈ blanks)) : ∀ c ∈ field, c ∉ blanks := by
  induction cs generalizing field with
  | nil =>
    rw [splitOnP_nil, mem_singleton] at h
    simp [h]
  | cons x xs ih =>
    rw [splitOnP_cons_eq_if_modifyHead] at h
    split at h
    · rcases mem_cons.mp h with rfl | h
      · exact nofun
      · exact ih h
    · next hx =>
      obtain ⟨first, rest, hsplit⟩ := exists_cons_of_ne_nil
        (splitOnP_ne_nil (fun c => decide (c ∈ blanks)) xs)
      rw [hsplit, modifyHead_cons] at h
      rw [hsplit] at ih
      rcases mem_cons.mp h with rfl | h
      · exact forall_mem_cons.mpr ⟨by simpa using hx, ih mem_cons_self⟩
      · exact ih (mem_cons_of_mem _ h)

theorem fields_eq_singleton_iff {word : String} :
    fields word = [word] ↔ word ≠ "" ∧ ∀ c ∈ word.toList, c ∉ blanks := by
  constructor
  · intro h
    refine ⟨?_, ?_⟩
    · rintro rfl
      cases h
    · have hmem : word.toList ∈ fieldsOf word.toList := by
        obtain ⟨field, hfield, hword⟩ := mem_map.mp (h ▸ mem_singleton_self word)
        have htoList : field = word.toList := by rw [← hword, String.toList_ofList]
        rwa [htoList] at hfield
      exact notMem_blanks_of_mem_splitOnP (mem_of_mem_filter hmem)
  · rintro ⟨hne, hblanks⟩
    have hne' : word.toList ≠ [] := mt String.toList_eq_nil_iff.mp hne
    rw [fields, fieldsOf, splitOnP_eq_singleton (by simpa using hblanks)]
    simp [hne']

/-! ## Words -/

/-- The files that a word stands for if it is a pattern. -/
def expand (glob : String → List String) (word : String) : List String :=
  if word.toList.any (· ∈ patternChars) then
    if glob word = [] then [word] else glob word
  else [word]

def words (glob : String → List String) (line : String) : List String :=
  (fields line).flatMap (expand glob)

theorem expand_nil (word : String) : expand (fun _ => []) word = [word] := by
  rw [expand]
  split <;> rfl

/-- A text that is one word, whatever files there are. -/
theorem words_eq_singleton_iff {word : String} :
    (∀ glob, words glob word = [word]) ↔
      word ≠ "" ∧ ∀ c ∈ word.toList, c ∉ blanks ∧ c ∉ patternChars := by
  constructor
  · intro h
    have hfields : fields word = [word] := by
      have hnone := h fun _ => []
      rwa [words, flatMap_congr fun _ _ => expand_nil _, flatMap_singleton'] at hnone
    obtain ⟨hne, hblanks⟩ := fields_eq_singleton_iff.mp hfields
    refine ⟨hne, fun c hc => ⟨hblanks c hc, fun hpattern => ?_⟩⟩
    have htwo := h fun _ => ["", ""]
    have hany : word.toList.any (· ∈ patternChars) :=
      any_eq_true.mpr ⟨c, hc, decide_eq_true hpattern⟩
    rw [words, hfields, flatMap_singleton, expand, if_pos hany] at htwo
    cases htwo
  · rintro ⟨hne, hchars⟩ glob
    have hfields : fields word = [word] :=
      fields_eq_singleton_iff.mpr ⟨hne, fun c hc => (hchars c hc).1⟩
    have hany : ¬word.toList.any (· ∈ patternChars) := by
      rw [any_eq_true]
      rintro ⟨c, hc, hpattern⟩
      exact (hchars c hc).2 (of_decide_eq_true hpattern)
    rw [words, hfields, flatMap_singleton, expand, if_neg hany]

/-- A text between blanks. -/
structure Slot where
  before : String
  after : String
  blank_before : ∃ l, ∃ c ∈ blanks, before.toList = l ++ [c]
  blank_after : after = "" ∨ ∃ c ∈ blanks, ∃ r, after.toList = c :: r

namespace Slot

variable (slot : Slot)

def line (word : String) : String := slot.before ++ word ++ slot.after

theorem fields_line (word : String) :
    fields (slot.line word) = fields slot.before ++ (fields word ++ fields slot.after) := by
  obtain ⟨l, c, hc, hbefore⟩ := slot.blank_before
  have hafter : fieldsOf (word.toList ++ slot.after.toList) =
      fieldsOf word.toList ++ fieldsOf slot.after.toList := by
    rcases slot.blank_after with hnone | ⟨c, hc, r, hr⟩
    · simp [hnone, fieldsOf]
    · rw [hr, fieldsOf_append_cons _ r hc, fieldsOf_cons r hc]
  rw [fields, line, String.append_assoc, String.toList_append, String.toList_append, hbefore,
    append_assoc, singleton_append, fieldsOf_append_cons l _ hc, hafter, fields,
    hbefore, fieldsOf_append_singleton l hc, map_append, map_append]
  rfl

/-- The text is one word of the line, and the other words are as they are without it. -/
def Keeps (word : String) : Prop :=
  ∀ glob, words glob (slot.line word) = words glob slot.before ++ word :: words glob slot.after

theorem keeps_iff {word : String} :
    slot.Keeps word ↔ word ≠ "" ∧ ∀ c ∈ word.toList, c ∉ blanks ∧ c ∉ patternChars := by
  rw [← words_eq_singleton_iff, Keeps]
  refine forall_congr' fun glob => ?_
  rw [words, fields_line, flatMap_append, flatMap_append, ← words, ← words, ← words,
    append_cancel_left_eq, ← singleton_append, append_cancel_right_eq]

end Slot

end OciCcm.Go.Shell
