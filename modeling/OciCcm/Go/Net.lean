import Mathlib.Data.List.TakeWhile
import OciCcm.Go.Strings

/-! # Go addresses

`net.ParseIP` on the characters of a string. An address is given by its eight
groups of 16 bits; one of version 4 stands in the last two of them.
-/

namespace OciCcm.Go.Net

open List Option

abbrev IP := List Nat

/-! ## Version 4 -/

/-- A number up to 255 without leading zeros. -/
def parseOctet (cs : List Char) : Option Nat :=
  (parseDigits cs).filter fun n => n ≤ 255 ∧ (cs.head? = some '0' → cs = ['0'])

/-- The last two groups of an address of version 4, from the four numbers between its dots. -/
def parseOctets (cs : List Char) : Option (List Nat) :=
  match cs.splitOn '.' with
  | [a, b, c, d] => do
    let a ← parseOctet a
    let b ← parseOctet b
    let c ← parseOctet c
    let d ← parseOctet d
    return [a * 256 + b, c * 256 + d]
  | _ => none

/-- The groups before those of an address of version 4. -/
def mapped : List Nat := [0, 0, 0, 0, 0, 0xffff]

def parseIPv4 (cs : List Char) : Option IP := (parseOctets cs).map fun groups => mapped ++ groups

/-! ## Version 6 -/

def hexValue (c : Char) : Option Nat :=
  if '0' ≤ c ∧ c ≤ '9' then some (c.toNat - '0'.toNat)
  else if 'a' ≤ c ∧ c ≤ 'f' then some (c.toNat - 'a'.toNat + 10)
  else if 'A' ≤ c ∧ c ≤ 'F' then some (c.toNat - 'A'.toNat + 10)
  else none

def isHexDigit (c : Char) : Bool := (hexValue c).isSome

def parseGroup (digits : List Char) : Nat :=
  digits.foldl (fun acc c => acc * 16 + (hexValue c).getD 0) 0

/-- What the loop over the groups leaves: the rest of the string, the groups, and the number of
groups before the two colons if there are any. -/
structure Groups where
  rest : List Char
  groups : List Nat
  ellipsis : Option Nat

/-- The loop over the groups. It ends when there are eight. -/
def parseGroups : Nat → List Char → List Nat → Option Nat → Option Groups
  | 0, s, groups, ellipsis => some ⟨s, groups, ellipsis⟩
  | fuel + 1, s, groups, ellipsis =>
    let digits := s.takeWhile isHexDigit
    let extended := groups ++ [parseGroup digits]
    if digits = [] ∨ digits.length > 4 then none
    else match s.dropWhile isHexDigit with
      | [] => some ⟨[], extended, ellipsis⟩
      | '.' :: _ =>
        -- an address of version 4 at the end
        if ellipsis = none ∧ groups.length ≠ 6 ∨ groups.length + 2 > 8 then none
        else (parseOctets s).map fun octets => ⟨[], groups ++ octets, ellipsis⟩
      | [':'] => none
      | [':', ':'] =>
        if ellipsis.isSome then none else some ⟨[], extended, some extended.length⟩
      | ':' :: ':' :: rest =>
        if ellipsis.isSome then none else parseGroups fuel rest extended (some extended.length)
      | ':' :: rest => parseGroups fuel rest extended ellipsis
      | _ => none

/-- Two colons stand for at least one group. -/
def expand (g : Groups) : Option IP :=
  match g.ellipsis with
  | none => if g.groups.length = 8 then some g.groups else none
  | some ellipsis =>
    if g.groups.length < 8 then
      some (g.groups.take ellipsis ++ List.replicate (8 - g.groups.length) 0 ++
        g.groups.drop ellipsis)
    else none

/-- An address of version 6. `net.ParseIP` refuses zones. -/
def parseIPv6 (s : List Char) : Option IP :=
  if '%' ∈ s then none
  else match s with
    | [':', ':'] => some (List.replicate 8 0)
    | ':' :: ':' :: rest =>
      ((parseGroups 8 rest [] (some 0)).filter (·.rest = [])).bind expand
    | s => ((parseGroups 8 s [] none).filter (·.rest = [])).bind expand

/-- `net.ParseIP(s)`. The first dot or colon tells the version. -/
def parseIP (s : String) : Option IP :=
  match s.toList.find? fun c => c = '.' || c = ':' || c = '%' with
  | some '.' => parseIPv4 s.toList
  | some ':' => parseIPv6 s.toList
  | _ => none

/-- `ip.To4() != nil`: is the address one of version 4? -/
def IP.isTo4 (ip : IP) : Bool := ip.take 6 = mapped

example : parseIP "10.0.1.255" = some [0, 0, 0, 0, 0, 0xffff, 0x0a00, 0x01ff] := by decide +kernel

/-! ## The characters of an address -/

/-- A digit, a letter from `a` to `f`, a dot or a colon. -/
def isAddressChar (c : Char) : Bool := isHexDigit c || c = '.' || c = ':'

variable {c : Char} {ip : IP} {s : String}

theorem isHexDigit_of_isDigit (h : c.isDigit) : isHexDigit c := by
  have h' : '0' ≤ c ∧ c ≤ '9' := by
    simpa [Char.isDigit, Char.le_def] using h
  rw [isHexDigit, hexValue, if_pos h']
  rfl

variable {cs : List Char} {groups : List Nat}

theorem isDigit_of_parseOctet {n : Nat} (h : parseOctet cs = some n) (hc : c ∈ cs) :
    c.isDigit := by
  obtain ⟨hdigits, -⟩ := filter_eq_some_iff.mp h
  unfold parseDigits at hdigits
  split at hdigits
  · next hall => exact all_eq_true.mp hall.2 c hc
  · cases hdigits

/-- An address of version 4 consists of digits and dots. -/
theorem isDigit_or_dot_of_parseOctets (h : parseOctets cs = some groups) (hc : c ∈ cs) :
    c.isDigit ∨ c = '.' := by
  unfold parseOctets at h
  split at h
  · next f₁ f₂ f₃ f₄ hsplit =>
    obtain ⟨_, h₁, h⟩ := bind_eq_some_iff.mp h
    obtain ⟨_, h₂, h⟩ := bind_eq_some_iff.mp h
    obtain ⟨_, h₃, h⟩ := bind_eq_some_iff.mp h
    obtain ⟨_, h₄, -⟩ := bind_eq_some_iff.mp h
    rcases eq_or_mem_splitOn '.' hc with hdot | ⟨field, hfield, hc⟩
    · exact .inr hdot
    · left
      rw [hsplit] at hfield
      rcases mem_cons.mp hfield with rfl | hfield
      · exact isDigit_of_parseOctet h₁ hc
      rcases mem_cons.mp hfield with rfl | hfield
      · exact isDigit_of_parseOctet h₂ hc
      rcases mem_cons.mp hfield with rfl | hfield
      · exact isDigit_of_parseOctet h₃ hc
      · obtain rfl := mem_singleton.mp hfield
        exact isDigit_of_parseOctet h₄ hc
  · cases h

theorem dot_mem_of_parseOctets (h : parseOctets cs = some groups) : '.' ∈ cs := by
  by_contra hdot
  rw [parseOctets, splitOn_eq_singleton hdot] at h
  cases h

theorem isAddressChar_of_parseOctets (h : parseOctets cs = some groups) (hc : c ∈ cs) :
    isAddressChar c := by
  rcases isDigit_or_dot_of_parseOctets h hc with hdigit | rfl
  · rw [isAddressChar, isHexDigit_of_isDigit hdigit]
    rfl
  · rfl

/-- If the loop takes the whole string, it consists of characters of addresses. -/
theorem isAddressChar_of_parseGroups {fuel : Nat} {s : List Char} {ellipsis : Option Nat}
    {g : Groups} (h : parseGroups fuel s groups ellipsis = some g) (hrest : g.rest = []) :
    ∀ c ∈ s, isAddressChar c := by
  induction fuel generalizing s groups ellipsis with
  | zero =>
    cases h
    rw [show s = [] from hrest]
    exact forall_mem_nil _
  | succ fuel ih =>
    have hafter : (∀ c ∈ s.dropWhile isHexDigit, isAddressChar c) →
        ∀ c ∈ s, isAddressChar c := by
      intro hdrop c hc
      rw [← takeWhile_append_dropWhile (p := isHexDigit) (l := s), mem_append] at hc
      rcases hc with hc | hc
      · rw [isAddressChar, mem_takeWhile_imp hc]
        rfl
      · exact hdrop c hc
    have hcolon : ∀ rest : List Char, (∀ c ∈ rest, isAddressChar c) →
        ∀ c ∈ ':' :: rest, isAddressChar c := fun rest h => forall_mem_cons.mpr ⟨rfl, h⟩
    unfold parseGroups at h
    dsimp only at h
    split at h
    · cases h
    split at h
    · next hdrop =>
      apply hafter
      rw [hdrop]
      exact forall_mem_nil _
    · next hdrop =>
      split_ifs at h
      obtain ⟨octets, hoctets, -⟩ := map_eq_some_iff.mp h
      exact fun c hc => isAddressChar_of_parseOctets hoctets hc
    · cases h
    · next hdrop =>
      apply hafter
      rw [hdrop]
      exact hcolon _ (hcolon _ (forall_mem_nil _))
    · next rest _ hdrop =>
      split_ifs at h
      apply hafter
      rw [hdrop]
      exact hcolon _ (hcolon _ (ih h))
    · next rest _ _ _ hdrop =>
      apply hafter
      rw [hdrop]
      exact hcolon _ (ih h)
    · cases h

theorem isAddressChar_of_parseIPv6 {s : List Char} (h : parseIPv6 s = some ip) :
    ∀ c ∈ s, isAddressChar c := by
  have hloop : ∀ {rest : List Char} {ellipsis : Option Nat},
      ((parseGroups 8 rest [] ellipsis).filter (·.rest = [])).bind expand = some ip →
      ∀ c ∈ rest, isAddressChar c := by
    intro rest ellipsis h
    obtain ⟨g, hg, -⟩ := bind_eq_some_iff.mp h
    obtain ⟨hg, hrest⟩ := filter_eq_some_iff.mp hg
    exact isAddressChar_of_parseGroups hg (of_decide_eq_true hrest)
  unfold parseIPv6 at h
  split_ifs at h
  split at h
  · simp [isAddressChar]
  · exact forall_mem_cons.mpr ⟨rfl, forall_mem_cons.mpr ⟨rfl, hloop h⟩⟩
  · exact hloop h

theorem isAddressChar_of_parseIP (h : parseIP s = some ip) (hc : c ∈ s.toList) :
    isAddressChar c := by
  unfold parseIP at h
  split at h
  · obtain ⟨groups, hgroups, -⟩ := map_eq_some_iff.mp h
    exact isAddressChar_of_parseOctets hgroups hc
  · exact isAddressChar_of_parseIPv6 h c hc
  · cases h

theorem ne_empty_of_parseIP (h : parseIP s = some ip) : s ≠ "" := by
  rintro rfl
  cases h

theorem isTo4_of_colon_notMem (h : parseIP s = some ip) (hcolon : ':' ∉ s.toList) : ip.isTo4 := by
  unfold parseIP at h
  split at h
  · obtain ⟨groups, -, rfl⟩ := map_eq_some_iff.mp h
    exact decide_eq_true (take_left' rfl)
  · next hfind => exact absurd (mem_of_find?_eq_some hfind) hcolon
  · cases h

theorem parseIP_of_parseIPv4 (h : parseIPv4 s.toList = some ip) :
    parseIP s = some ip := by
  obtain ⟨groups, hgroups, -⟩ := map_eq_some_iff.mp h
  have hfirst : s.toList.find? (fun c => c = '.' || c = ':' || c = '%') = some '.' := by
    obtain ⟨c, hfind⟩ : ∃ c, s.toList.find? (fun c => c = '.' || c = ':' || c = '%') = some c :=
      isSome_iff_exists.mp
        (List.find?_isSome.mpr ⟨'.', dot_mem_of_parseOctets hgroups, by decide⟩)
    rw [hfind]
    have hspecial := List.find?_some hfind
    rcases isDigit_or_dot_of_parseOctets hgroups (mem_of_find?_eq_some hfind) with
      hdigit | rfl
    · simp only [Bool.or_eq_true, decide_eq_true_eq] at hspecial
      rcases hspecial with (rfl | rfl) | rfl <;> cases hdigit
    · rfl
  rw [parseIP, hfirst]
  exact h

end OciCcm.Go.Net
