import OciCcm.Go.Net
import OciCcm.Go.Regexp

/-! # The target in the path of an iSCSI device

The name of a device under `/dev/disk/by-path` says to which target it belongs.
The node driver reads the target back from it to log out. The separators of the
name also occur inside of its parts, so it matters which match of the pattern is
chosen.
-/

namespace OciCcm.Csi.Iscsi

open Go Net Regexp List

def isWordChar (c : Char) : Bool := c.isAlphanum || c = '_'

/-- The characters of the class `[[?\w\.\:]`. -/
def isIpChar (c : Char) : Bool := c = '[' || c = '?' || isWordChar c || c = '.' || c = ':'

/-- The characters of the class `[\w\.\-:]`. -/
def isIqnChar (c : Char) : Bool := isWordChar c || c = '.' || c = '-' || c = ':'

/-- The part of the pattern from the lun on. -/
def lunPattern : List Part := literal "-lun-" ++ [{ accepts := Char.isDigit, most := none }]

def iqnPattern : List Part :=
  literal "-iscsi-" ++ { accepts := isIqnChar, most := none, group := 3 } :: lunPattern

def portPattern : List Part :=
  literal ":" ++ { accepts := Char.isDigit, most := none, group := 2 } :: iqnPattern

/-- An address may end with a bracket, which is a part of its own. -/
def ipPattern : List Part :=
  { accepts := isIpChar, most := none, group := 1 } ::
    { accepts := (· = ']'), least := 0, group := 1 } :: portPattern

def diskByPathPattern : List Part := literal "/dev/disk/by-path/ip-" ++ ipPattern

structure Disk where
  iqn : String
  iscsiIp : String
  port : Int
deriving DecidableEq, Repr

namespace Disk

/-- The target to connect to. An address that cannot be parsed is taken as one of version 6. -/
def target (sd : Disk) : String :=
  if (parseIP sd.iscsiIp).any IP.isTo4 then sd.iscsiIp ++ ":" ++ toString sd.port
  else "[" ++ sd.iscsiIp ++ "]:" ++ toString sd.port

end Disk

/-- The submatches of a device path. -/
def findFromDevicePath (mountDevice : String) : Except String (String × String × String) :=
  match findStringSubmatch diskByPathPattern 3 mountDevice with
  | some [_, iscsiIp, port, iqn] => .ok (iscsiIp, port, iqn)
  | _ => .error ("mount device path " ++ mountDevice.quote ++ " did not match pattern; got []")

/-- The error of `strconv.Atoi` for digits. -/
def outOfRange (port : String) : String :=
  "strconv.Atoi: parsing " ++ port.quote ++ ": value out of range"

def getScsiInfo (mountDevice : String) : Except String Disk := do
  let (iscsiIp, port, iqn) ← findFromDevicePath mountDevice
  match parseInt port with
  | none => .error ("invalid port: " ++ outOfRange port)
  | some port => .ok { iqn, iscsiIp, port }

/-! ## Device paths -/

/-- The address of a portal as it is written in a path. -/
structure Portal where
  address : String
  ip : IP
  parses : parseIP address = some ip
  bracketed : Bool
  ipv6_of_bracketed : bracketed → ':' ∈ address.toList

/-- An address of version 6 has colons. -/
abbrev Portal.IsIPv6 (portal : Portal) : Prop := ':' ∈ portal.address.toList

def Portal.written (portal : Portal) : String :=
  if portal.bracketed then "[" ++ portal.address ++ "]" else portal.address

structure DevicePath where
  portal : Portal
  port : Nat
  port_lt : port < 65536
  iqn : String
  iqn_ne : iqn ≠ ""
  iqn_chars : ∀ c ∈ iqn.toList, isIqnChar c
  lun : Nat

namespace DevicePath

variable (path : DevicePath)

def text : String :=
  "/dev/disk/by-path/ip-" ++ path.portal.written ++ ":" ++ toString path.port ++ "-iscsi-" ++
    path.iqn ++ "-lun-" ++ toString path.lun

/-- The target that the path is for. -/
def target : String :=
  (if path.portal.IsIPv6 then "[" ++ path.portal.address ++ "]" else path.portal.address) ++ ":" ++
    toString path.port

def LeadsBack : Prop :=
  ∃ disk, getScsiInfo path.text = .ok disk ∧ disk.port = path.port ∧ disk.iqn = path.iqn ∧
    disk.target = path.target

end DevicePath

/-! ## The match -/

section Match

variable {cs iqn ip bracket rest : List Char} {pieces : List (List Char)}

theorem fits_run {accepts : Char → Bool} {group : Nat} :
    ({ accepts, most := none, group } : Part).Fits cs ↔ cs ≠ [] ∧ ∀ c ∈ cs, accepts c := by
  constructor
  · rintro ⟨haccepts, hleast, -⟩
    exact ⟨ne_nil_of_length_pos hleast, haccepts⟩
  · rintro ⟨hne, haccepts⟩
    exact ⟨haccepts, length_pos_of_ne_nil hne, by simp⟩

theorem toList_toString_ne_nil (n : Nat) : (toString n).toList ≠ [] := by
  rw [Nat.toString_eq_repr, Nat.toList_repr]
  exact Nat.toDigits_ne_nil

theorem fits_digits (n group : Nat) :
    ({ accepts := Char.isDigit, most := none, group } : Part).Fits (toString n).toList :=
  fits_run.mpr ⟨toList_toString_ne_nil n, fun _ => isDigit_of_mem_toString⟩

/-- The pieces of a text. -/
def singles (s : String) : List (List Char) := s.toList.map ([·])

theorem matchHere_lunPattern (lun : Nat) :
    matchHere lunPattern ("-lun-".toList ++ (toString lun).toList) =
      some (singles "-lun-" ++ [(toString lun).toList]) :=
  matchHere_literal _ (matchHere_singleton (fits_digits lun 0))

/-- The name ends before the last text of this kind: there is none in the digits after it. -/
theorem matchHere_iqn (hne : iqn ≠ []) (hiqn : ∀ c ∈ iqn, isIqnChar c) (lun : Nat) :
    matchHere ({ accepts := isIqnChar, most := none, group := 3 } :: lunPattern)
        (iqn ++ ("-lun-".toList ++ (toString lun).toList)) =
      some (iqn :: (singles "-lun-" ++ [(toString lun).toList])) := by
  refine matchHere_cons (fits_run.mpr ⟨hne, hiqn⟩) (matchHere_lunPattern lun) ?_
  intro more rest' hmore hsplit _
  cases hmatch : matchHere lunPattern rest' with
  | none => rfl
  | some pieces =>
    obtain ⟨tail, rfl⟩ := prefix_of_matchHere_literal hmatch
    have hdigits : (toString lun).toList.count '-' = 0 :=
      count_eq_zero.mpr (dash_notMem_toString lun)
    have hcount := congrArg (List.count '-') hsplit
    have htext : "-lun-".toList.count '-' = 2 := by decide
    rw [count_append, count_append, count_append, hdigits, htext] at hcount
    obtain ⟨c, more, rfl⟩ := exists_cons_of_ne_nil hmore
    obtain rfl : '-' = c := (List.cons.inj hsplit).1
    rw [count_cons_self] at hcount
    omega

theorem matchHere_iqnPattern (hne : iqn ≠ []) (hiqn : ∀ c ∈ iqn, isIqnChar c) (lun : Nat) :
    matchHere iqnPattern
        ('-' :: ("iscsi-".toList ++ (iqn ++ ("-lun-".toList ++ (toString lun).toList)))) =
      some (singles "-iscsi-" ++ iqn :: (singles "-lun-" ++ [(toString lun).toList])) := by
  have htext : "-iscsi-".toList = '-' :: "iscsi-".toList := by decide
  rw [← cons_append, ← htext]
  exact matchHere_literal _ (matchHere_iqn hne hiqn lun)

theorem matchHere_portPattern (port : Nat)
    (h : matchHere iqnPattern ('-' :: rest) = some pieces) :
    matchHere portPattern (':' :: ((toString port).toList ++ '-' :: rest)) =
      some (singles ":" ++ (toString port).toList :: pieces) := by
  refine matchHere_literal [':'] (matchHere_cons_of_head (fits_digits port 2) h ?_)
  intro c hc
  cases hc
  decide

theorem matchHere_bracket (hbracket : bracket = [] ∨ bracket = [']'])
    (h : matchHere portPattern (':' :: rest) = some pieces) :
    matchHere ({ accepts := (· = ']'), least := 0, group := 1 } :: portPattern)
        (bracket ++ ':' :: rest) = some (bracket :: pieces) := by
  refine matchHere_cons_of_head ?_ h ?_
  · rcases hbracket with rfl | rfl
    · exact ⟨by simp, Nat.le_refl 0, by simp⟩
    · exact ⟨by simp, Nat.zero_le 1, by simp⟩
  · intro c hc
    cases hc
    decide

theorem head_of_matchHere_bracket
    (h : matchHere ({ accepts := (· = ']'), least := 0, group := 1 } :: portPattern) cs =
      some pieces) : cs.head? = some ']' ∨ cs.head? = some ':' := by
  obtain ⟨hfits, hprefix⟩ := fits_of_matchHere h
  cases hfits with
  | @cons _ bracket _ pieces hbracket hport =>
    obtain ⟨pieces', rfl⟩ := pieces_of_literal ":".toList hport
    obtain ⟨tail, rfl⟩ := hprefix
    cases bracket with
    | nil => exact .inr rfl
    | cons c bracket =>
      have hc := hbracket.accepts c mem_cons_self
      rw [of_decide_eq_true hc]
      exact .inl rfl

theorem head_after_more {more rest rest' : List Char} {port : Nat} (hmore : more ≠ [])
    (hdash : '-' ∉ more)
    (hsplit : ':' :: ((toString port).toList ++ '-' :: rest) = more ++ rest') :
    ∃ c, rest'.head? = some c ∧ (c = '-' ∨ c.isDigit) := by
  obtain ⟨c, more, rfl⟩ := exists_cons_of_ne_nil hmore
  obtain ⟨-, hsplit⟩ := List.cons.inj hsplit
  rcases append_eq_append_iff.mp hsplit with ⟨digits, rfl, hrest⟩ | ⟨digits, hdigits, rfl⟩
  · cases digits with
    | nil =>
      refine ⟨'-', ?_, .inl rfl⟩
      rw [← nil_append rest', ← hrest]
      rfl
    | cons c' digits =>
      obtain rfl : '-' = c' := (List.cons.inj hrest).1
      exact absurd (by simp) hdash
  · cases digits with
    | nil => exact ⟨'-', rfl, .inl rfl⟩
    | cons c' digits =>
      refine ⟨c', rfl, .inr (isDigit_of_mem_toString (n := port) ?_)⟩
      rw [hdigits]
      exact mem_append_right _ mem_cons_self

/-- The address ends before the last colon. -/
theorem matchHere_ipPattern {port : Nat} (hne : ip ≠ []) (hip : ∀ c ∈ ip, isIpChar c)
    (hbracket : bracket = [] ∨ bracket = [']'])
    (h : matchHere portPattern (':' :: ((toString port).toList ++ '-' :: rest)) = some pieces) :
    matchHere ipPattern (ip ++ (bracket ++ ':' :: ((toString port).toList ++ '-' :: rest))) =
      some (ip :: bracket :: pieces) := by
  refine matchHere_cons (fits_run.mpr ⟨hne, hip⟩) (matchHere_bracket hbracket h) ?_
  intro more rest' hmore hsplit hfits
  have hchars : ∀ c ∈ more, isIpChar c := fun c hc =>
    hfits.accepts c (mem_append_right _ hc)
  cases hmatch : matchHere ({ accepts := (· = ']'), least := 0, group := 1 } :: portPattern)
    rest' with
  | none => rfl
  | some pieces' =>
    rcases hbracket with rfl | rfl
    · have hdash : '-' ∉ more := fun hmem => absurd (hchars _ hmem) (by decide)
      obtain ⟨c, hc, hdash | hdigit⟩ := head_after_more hmore hdash hsplit
      · rcases head_of_matchHere_bracket hmatch with hhead | hhead
        · rw [hc, hdash] at hhead
          cases hhead
        · rw [hc, hdash] at hhead
          cases hhead
      · rcases head_of_matchHere_bracket hmatch with hhead | hhead
        · rw [hc] at hhead
          cases hhead
          cases hdigit
        · rw [hc] at hhead
          cases hhead
          cases hdigit
    · -- The characters of an address do not go beyond the bracket.
      obtain ⟨c, more, rfl⟩ := exists_cons_of_ne_nil hmore
      obtain rfl : ']' = c := (List.cons.inj hsplit).1
      exact absurd (hchars _ mem_cons_self) (by decide)

end Match

/-! ## What is read from a path -/

theorem isAlphanum_of_isHexDigit {c : Char} (h : isHexDigit c) : c.isAlphanum := by
  unfold isHexDigit hexValue at h
  split_ifs at h with hdigit hlower hupper
  · have hc : c.isDigit := Bool.and_eq_true_iff.mpr
      ⟨decide_eq_true hdigit.1, decide_eq_true hdigit.2⟩
    exact Bool.or_eq_true_iff.mpr (.inr hc)
  · have hc : c.isLower := Bool.and_eq_true_iff.mpr
      ⟨decide_eq_true hlower.1, decide_eq_true (UInt32.le_trans hlower.2 (by decide))⟩
    exact Bool.or_eq_true_iff.mpr (.inl (Bool.or_eq_true_iff.mpr (.inr hc)))
  · have hc : c.isUpper := decide_eq_true ⟨hupper.1, UInt32.le_trans hupper.2 (by decide)⟩
    exact Bool.or_eq_true_iff.mpr (.inl (Bool.or_eq_true_iff.mpr (.inl hc)))
  · cases h

theorem isIpChar_of_isAddressChar {c : Char} (h : isAddressChar c) : isIpChar c := by
  simp only [isAddressChar, Bool.or_eq_true, decide_eq_true_eq] at h
  simp only [isIpChar, isWordChar, Bool.or_eq_true, decide_eq_true_eq]
  rcases h with (hhex | hdot) | hcolon
  · exact .inl (.inl (.inr (.inl (isAlphanum_of_isHexDigit hhex))))
  · exact .inl (.inr hdot)
  · exact .inr hcolon

namespace Portal

variable (portal : Portal)

/-- What the class of the address takes of it. -/
def ipChars : List Char :=
  if portal.bracketed then '[' :: portal.address.toList else portal.address.toList

def bracketChars : List Char := if portal.bracketed then [']'] else []

theorem toList_written : portal.written.toList = portal.ipChars ++ portal.bracketChars := by
  unfold written ipChars bracketChars
  split
  · simp
  · simp

theorem ipChars_ne_nil : portal.ipChars ≠ [] := by
  unfold ipChars
  split
  · exact cons_ne_nil _ _
  · intro hnil
    exact ne_empty_of_parseIP portal.parses (String.toList_eq_nil_iff.mp hnil)

theorem isIpChar_of_mem_ipChars {c : Char} (h : c ∈ portal.ipChars) : isIpChar c := by
  have haddress {c : Char} (hc : c ∈ portal.address.toList) : isIpChar c :=
    isIpChar_of_isAddressChar (isAddressChar_of_parseIP portal.parses hc)
  unfold ipChars at h
  split at h
  · rcases mem_cons.mp h with rfl | h
    · rfl
    · exact haddress h
  · exact haddress h

theorem bracketChars_cases : portal.bracketChars = [] ∨ portal.bracketChars = [']'] := by
  unfold bracketChars
  split
  · exact .inr rfl
  · exact .inl rfl

end Portal

namespace DevicePath

variable (path : DevicePath)

def pieces : List (List Char) :=
  singles "/dev/disk/by-path/ip-" ++ path.portal.ipChars :: path.portal.bracketChars ::
    (singles ":" ++ (toString path.port).toList :: (singles "-iscsi-" ++ path.iqn.toList ::
      (singles "-lun-" ++ [(toString path.lun).toList])))

/-- Stated for any texts, since those of the path take long to compare. -/
theorem toList_eight {s₁ s₂ s₃ s₄ s₅ s₆ s₇ s₈ : String} {c c' : Char} {cs ip bracket : List Char}
    (h₂ : s₂.toList = ip ++ bracket) (h₃ : s₃.toList = [c]) (h₅ : s₅.toList = c' :: cs) :
    (s₁ ++ s₂ ++ s₃ ++ s₄ ++ s₅ ++ s₆ ++ s₇ ++ s₈).toList =
      s₁.toList ++ (ip ++ (bracket ++ c :: (s₄.toList ++ c' :: (cs ++ (s₆.toList ++
        (s₇.toList ++ s₈.toList)))))) := by
  simp only [String.toList_append, append_assoc, h₂, h₃, h₅, cons_append,
    nil_append]

theorem toList_text : path.text.toList = "/dev/disk/by-path/ip-".toList ++
    (path.portal.ipChars ++ (path.portal.bracketChars ++ ':' :: ((toString path.port).toList ++
      '-' :: ("iscsi-".toList ++ (path.iqn.toList ++ ("-lun-".toList ++
        (toString path.lun).toList)))))) :=
  toList_eight path.portal.toList_written (by decide) (by decide)

theorem find_text : find diskByPathPattern path.text.toList = some path.pieces := by
  have hne : path.iqn.toList ≠ [] := fun hnil => path.iqn_ne (String.toList_eq_nil_iff.mp hnil)
  have hiqn := matchHere_iqnPattern hne path.iqn_chars path.lun
  have hip := matchHere_ipPattern path.portal.ipChars_ne_nil
    (fun _ => path.portal.isIpChar_of_mem_ipChars) path.portal.bracketChars_cases
    (matchHere_portPattern path.port hiqn)
  rw [toList_text]
  exact find_of_matchHere (matchHere_literal _ hip)

theorem submatch_pieces {group : Nat} (h : group ≠ 0) :
    submatch group diskByPathPattern path.pieces =
      (if 1 = group then path.portal.ipChars else []) ++
        ((if 1 = group then path.portal.bracketChars else []) ++
          ((if 2 = group then (toString path.port).toList else []) ++
            (if 3 = group then path.iqn.toList else []))) := by
  have hlun : submatch group lunPattern (singles "-lun-" ++ [(toString path.lun).toList]) = [] := by
    refine (submatch_literal h _).trans ?_
    rw [submatch, if_neg h.symm]
    rfl
  have hiqn : submatch group iqnPattern (singles "-iscsi-" ++ path.iqn.toList ::
      (singles "-lun-" ++ [(toString path.lun).toList])) =
        if 3 = group then path.iqn.toList else [] := by
    refine (submatch_literal h _).trans ?_
    rw [submatch, hlun, append_nil]
  have hport : submatch group portPattern (singles ":" ++ (toString path.port).toList ::
      (singles "-iscsi-" ++ path.iqn.toList ::
        (singles "-lun-" ++ [(toString path.lun).toList]))) =
        (if 2 = group then (toString path.port).toList else []) ++
          if 3 = group then path.iqn.toList else [] := by
    refine (submatch_literal h _).trans ?_
    rw [submatch, hiqn]
  refine (submatch_literal h _).trans ?_
  rw [ipPattern, submatch, submatch, hport]

theorem findStringSubmatch_text :
    findStringSubmatch diskByPathPattern 3 path.text =
      some [String.ofList path.pieces.flatten, path.portal.written, toString path.port,
        path.iqn] := by
  have hip : String.ofList (submatch 1 diskByPathPattern path.pieces) = path.portal.written := by
    rw [path.submatch_pieces (by decide), if_pos rfl, if_pos rfl, if_neg (by decide),
      if_neg (by decide), append_nil, append_nil, ← Portal.toList_written]
    exact String.ofList_toList
  have hport : String.ofList (submatch 2 diskByPathPattern path.pieces) = toString path.port := by
    rw [path.submatch_pieces (by decide), if_neg (by decide), if_neg (by decide), if_pos rfl,
      if_neg (by decide), append_nil]
    exact String.ofList_toList
  have hiqn : String.ofList (submatch 3 diskByPathPattern path.pieces) = path.iqn := by
    rw [path.submatch_pieces (by decide), if_neg (by decide), if_neg (by decide),
      if_neg (by decide), if_pos rfl]
    exact String.ofList_toList
  rw [findStringSubmatch, find_text, Option.map_some]
  change some [_, String.ofList (submatch 1 diskByPathPattern path.pieces),
    String.ofList (submatch 2 diskByPathPattern path.pieces),
    String.ofList (submatch 3 diskByPathPattern path.pieces)] = _
  rw [hip, hport, hiqn]

theorem getScsiInfo_text :
    getScsiInfo path.text = .ok ⟨path.iqn, path.portal.written, path.port⟩ := by
  have hport : parseInt (toString path.port) = some (path.port : Int) :=
    parseInt_toString (path.port_lt.trans (by decide))
  unfold getScsiInfo findFromDevicePath
  rw [findStringSubmatch_text]
  change (match parseInt (toString path.port) with | none => _ | some port => _) = _
  rw [hport]

/-! ## The target -/

theorem leadsBack_iff_target :
    path.LeadsBack ↔
      (Disk.mk path.iqn path.portal.written path.port).target = path.target := by
  unfold LeadsBack
  rw [getScsiInfo_text]
  constructor
  · rintro ⟨disk, hdisk, -, -, htarget⟩
    cases hdisk
    exact htarget
  · intro htarget
    exact ⟨_, rfl, rfl, rfl, htarget⟩

theorem parseIP_bracketed (address : String) : parseIP ("[" ++ address ++ "]") = none := by
  cases hparse : parseIP ("[" ++ address ++ "]") with
  | none => rfl
  | some ip =>
    have hmem : '[' ∈ ("[" ++ address ++ "]").toList := by simp
    exact absurd (isAddressChar_of_parseIP hparse hmem) (by decide)

theorem target_of_bracketed (h : path.portal.bracketed = true) :
    (Disk.mk path.iqn path.portal.written path.port).target =
      "[" ++ ("[" ++ path.portal.address ++ "]") ++ "]:" ++ toString path.port := by
  rw [Disk.target, Portal.written, if_pos h, parseIP_bracketed]
  rfl

theorem target_of_not_bracketed (h : path.portal.bracketed = false) :
    (Disk.mk path.iqn path.portal.written path.port).target =
      if path.portal.ip.isTo4 then path.portal.address ++ ":" ++ toString path.port
      else "[" ++ path.portal.address ++ "]:" ++ toString path.port := by
  have hwritten : path.portal.written = path.portal.address := by
    rw [Portal.written, h]
    rfl
  rw [Disk.target, hwritten, path.portal.parses]
  rfl

theorem append_split {s t t₁ t₂ u : String} (h : t = t₁ ++ t₂) :
    s ++ t ++ u = s ++ t₁ ++ t₂ ++ u := by
  rw [h, ← String.append_assoc]

/-- A path leads back to its target unless the address is one of version 6 and has brackets, or
stands for one of version 4. -/
theorem leadsBack_iff :
    path.LeadsBack ↔
      (path.portal.IsIPv6 → path.portal.bracketed = false ∧ path.portal.ip.isTo4 = false) := by
  have hopen : "[".length = 1 := by decide
  have hclose : "]".length = 1 := by decide
  have hcolon : ":".length = 1 := by decide
  have hend : "]:".length = 2 := by decide
  rw [leadsBack_iff_target]
  by_cases hipv6 : path.portal.IsIPv6
  · rw [DevicePath.target, if_pos hipv6]
    cases hbracketed : path.portal.bracketed with
    | true =>
      rw [target_of_bracketed path hbracketed]
      refine iff_of_false ?_ (by simp [hipv6])
      intro heq
      have hlength := congrArg String.length heq
      simp only [String.length_append] at hlength
      omega
    | false =>
      rw [target_of_not_bracketed path hbracketed]
      cases hto4 : path.portal.ip.isTo4 with
      | true =>
        refine iff_of_false ?_ (by simp [hipv6])
        intro heq
        rw [if_pos rfl] at heq
        have hlength := congrArg String.length heq
        simp only [String.length_append] at hlength
        omega
      | false =>
        exact iff_of_true (append_split (by decide)) fun _ => ⟨rfl, rfl⟩
  · have hbracketed : path.portal.bracketed = false := by
      cases h : path.portal.bracketed with
      | true => exact absurd (path.portal.ipv6_of_bracketed h) hipv6
      | false => rfl
    rw [target_of_not_bracketed path hbracketed,
      if_pos (isTo4_of_colon_notMem path.portal.parses hipv6), DevicePath.target, if_neg hipv6]
    exact iff_of_true rfl fun h => absurd h hipv6

end DevicePath

/-- An address of version 6 in brackets gets a second pair. -/
def bracketedPath : DevicePath where
  portal := ⟨"fd00::a9fe:202", [0xfd00, 0, 0, 0, 0, 0, 0xa9fe, 0x202], by decide +kernel, true,
    fun _ => by decide⟩
  port := 3260
  port_lt := by decide
  iqn := "iqn.2015-12.com.oracleiaas:a"
  iqn_ne := by decide
  iqn_chars := all_iff_forall_prop.mp (by decide)
  lun := 2

theorem not_leadsBack_bracketedPath : ¬bracketedPath.LeadsBack := by
  have htarget : Disk.target ⟨bracketedPath.iqn, bracketedPath.portal.written,
      bracketedPath.port⟩ = "[[fd00::a9fe:202]]:3260" := by decide +kernel
  rw [DevicePath.leadsBack_iff_target, htarget]
  decide +kernel

end OciCcm.Csi.Iscsi
