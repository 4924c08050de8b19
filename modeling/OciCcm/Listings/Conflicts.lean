import OciCcm.Listings

/-! # The file systems that are reported as conflicting

`GetFileSystemSummaryByDisplayName` appends a conflicting file system to the list of
the usable ones and calls the result the list of the conflicting ones. A later
append to the list of the usable ones may then write into the same array. The
loop over the mount targets keeps two lists.
-/

namespace OciCcm.Listings

open Client Go Pages List
open Csi.Fss (Summary FileSystemsFound isUsable)

/-- The file systems or mount targets that can be used. -/
def usable (items : List Summary) : List Summary := items.filter (isUsable ·.lifecycleState)

/-- Those that are neither active nor being created. -/
def conflicting (items : List Summary) : List Summary := items.filter (!isUsable ·.lifecycleState)

variable {items : List Summary}

theorem mem_usable {x : Summary} :
    x ∈ usable items ↔ x ∈ items ∧ isUsable x.lifecycleState = true := mem_filter

theorem mem_conflicting {x : Summary} :
    x ∈ conflicting items ↔ x ∈ items ∧ isUsable x.lifecycleState = false := by
  rw [conflicting, mem_filter, Bool.not_eq_true']

theorem isUsable_of_mem (hnone : conflicting items = []) {x : Summary} (hx : x ∈ items) :
    isUsable x.lifecycleState = true := by
  cases hu : isUsable x.lifecycleState with
  | true => rfl
  | false =>
    have hmem := mem_conflicting.mpr ⟨hx, hu⟩
    rw [hnone] at hmem
    cases hmem

/-! ## What the loop has found -/

/-- The list of the conflicting file systems once `x` is the last of them: the usable ones that were
found before `x`, and one more. If there are none before it, this is `x` in an array of its own. -/
structure Reports (before : List Summary) (x : Summary) (found : FileSystemsFound) : Prop where
  valid : found.conflictingFileSystemSummaries.Valid found.memory
  len : found.conflictingFileSystemSummaries.len = (usable before).length + 1
  take : (found.conflictingFileSystemSummaries.read found.memory).take (usable before).length =
    usable before
  alone : usable before = [] → found.conflictingFileSystemSummaries.read found.memory = [x] ∧
    found.conflictingFileSystemSummaries.array ≠ found.fileSystemSummaries.array

/-- What the loop has found in the given file systems. -/
structure FoundIn (items : List Summary) (found : FileSystemsFound) : Prop where
  valid : found.fileSystemSummaries.Valid found.memory
  usable : found.fileSystemSummaries.read found.memory = usable items
  full : Listings.usable items = [] → found.fileSystemSummaries.cap = 0
  nothing : found.foundConflicting = false → conflicting items = []
  reports : found.foundConflicting = true → ∃ before x after, items = before ++ x :: after ∧
    isUsable x.lifecycleState = false ∧ conflicting after = [] ∧ Reports before x found

theorem foundIn_nothing : FoundIn [] .nothing :=
  ⟨⟨by decide, Nat.zero_le _⟩, rfl, fun _ => rfl, fun _ => rfl, fun h => nomatch h⟩

section Visit

variable {grow : Nat → Nat} {items before after : List Summary} {x y : Summary}
  {found : FileSystemsFound}

theorem usable_concat (hx : isUsable x.lifecycleState = true) :
    usable (items ++ [x]) = usable items ++ [x] := by
  rw [usable, filter_append, filter_singleton, hx]
  rfl

theorem usable_concat_of_not (hx : isUsable x.lifecycleState = false) :
    usable (items ++ [x]) = usable items := by
  rw [usable, filter_append, filter_singleton, hx]
  exact append_nil _

theorem conflicting_concat (hx : isUsable x.lifecycleState = true) :
    conflicting (items ++ [x]) = conflicting items := by
  rw [conflicting, filter_append, filter_singleton, hx]
  exact append_nil _

theorem visit_of_usable (hx : isUsable x.lifecycleState = true) :
    found.visit grow x = { found with
      memory := (Slice.append grow found.memory found.fileSystemSummaries x).1
      fileSystemSummaries := (Slice.append grow found.memory found.fileSystemSummaries x).2 } := by
  rw [FileSystemsFound.visit, if_pos hx]

theorem visit_of_not_usable (hx : isUsable x.lifecycleState = false) :
    found.visit grow x = { found with
      memory := (Slice.append grow found.memory found.fileSystemSummaries x).1
      conflictingFileSystemSummaries :=
        (Slice.append grow found.memory found.fileSystemSummaries x).2
      foundConflicting := true } := by
  rw [FileSystemsFound.visit, if_neg (by rw [hx]; decide)]

theorem Reports.visit_usable (h : Reports before x found)
    (hvalid : found.fileSystemSummaries.Valid found.memory)
    (hlen : (usable before).length ≤ found.fileSystemSummaries.len)
    (hy : isUsable y.lifecycleState = true) : Reports before x (found.visit grow y) := by
  rw [visit_of_usable hy]
  refine ⟨h.valid.append hvalid, h.len, ?_, fun hnone => ?_⟩
  · exact (Slice.take_read_append h.valid hvalid hlen).trans h.take
  · obtain ⟨hread, hne⟩ := h.alone hnone
    exact ⟨(Slice.read_append_of_ne h.valid hne).trans hread, Slice.array_ne_append h.valid hne⟩

/-- The list begins anew with a conflicting file system. -/
theorem FoundIn.reports_visit (h : FoundIn items found) (hx : isUsable x.lifecycleState = false) :
    Reports items x (found.visit grow x) := by
  have hvalid : (Slice.append grow found.memory found.fileSystemSummaries x).2.Valid
      (Slice.append grow found.memory found.fileSystemSummaries x).1 := Slice.valid_append h.valid
  have hread : (Slice.append grow found.memory found.fileSystemSummaries x).2.read
      (Slice.append grow found.memory found.fileSystemSummaries x).1 =
      Listings.usable items ++ [x] := by
    rw [← h.usable]
    exact Slice.read_append h.valid
  have hlen := Slice.length_read hvalid
  rw [hread, length_append] at hlen
  rw [visit_of_not_usable hx]
  refine ⟨hvalid, hlen.symm, ?_, fun hnone => ⟨?_, ?_⟩⟩
  · dsimp only
    rw [hread, take_left']
    rfl
  · dsimp only
    rw [hread, hnone]
    rfl
  · have hfull : found.fileSystemSummaries.cap ≤ found.fileSystemSummaries.len := by
      rw [h.full hnone]
      exact Nat.zero_le _
    dsimp only
    rw [Slice.array_append_of_full hfull]
    exact Nat.ne_of_gt h.valid.inUse

theorem FoundIn.visit (h : FoundIn items found) (x : Summary) :
    FoundIn (items ++ [x]) (found.visit grow x) := by
  cases hx : isUsable x.lifecycleState with
  | true =>
    have hlen := Slice.length_read h.valid
    rw [h.usable] at hlen
    have hreports : ∀ before y after, items = before ++ y :: after → Reports before y found →
        Reports before y (found.visit grow x) := by
      intro before y after hitems hreports
      refine hreports.visit_usable h.valid ?_ hx
      rw [← hlen, hitems, Listings.usable, Listings.usable, filter_append, length_append]
      exact Nat.le_add_right _ _
    rw [visit_of_usable hx] at hreports ⊢
    refine ⟨Slice.valid_append h.valid, ?_, fun hnone => ?_, fun hfound => ?_, fun hfound => ?_⟩
    · rw [usable_concat hx, ← h.usable]
      exact Slice.read_append h.valid
    · rw [usable_concat hx] at hnone
      exact absurd hnone (append_ne_nil_of_right_ne_nil _ (cons_ne_nil _ _))
    · rw [conflicting_concat hx]
      exact h.nothing hfound
    · obtain ⟨before, y, after, hitems, hy, hafter, hold⟩ := h.reports hfound
      refine ⟨before, y, after ++ [x], ?_, hy, ?_, hreports before y after hitems hold⟩
      · rw [hitems, append_assoc, cons_append]
      · rw [conflicting_concat hx]
        exact hafter
  | false =>
    have hreports : Reports items x (found.visit grow x) := h.reports_visit hx
    rw [visit_of_not_usable hx] at hreports ⊢
    refine ⟨h.valid.append h.valid, ?_, fun hnone => ?_, fun hfound => ?_, fun _ => ?_⟩
    · rw [usable_concat_of_not hx, ← h.usable]
      exact Slice.read_append_self h.valid
    · rw [usable_concat_of_not hx] at hnone
      exact h.full hnone
    · cases hfound
    · exact ⟨items, x, [], rfl, hx, rfl, hreports⟩

theorem foundIn_foldl (grow : Nat → Nat) (items : List Summary) :
    FoundIn items (items.foldl (FileSystemsFound.visit grow) .nothing) := by
  induction items using List.reverseRecOn with
  | nil => exact foundIn_nothing
  | append_singleton items x ih =>
    rw [foldl_concat]
    exact ih.visit x

end Visit

/-! ## Results -/

theorem result_getFileSystemSummaryByDisplayName (grow : Nat → Nat) (items : List Summary) :
    (getFileSystemSummaryByDisplayName grow).result .nothing items =
      match Csi.Fss.getFileSystemSummaryByDisplayName { items, grow } with
      | (foundConflicting, summaries, err) => (foundConflicting, some summaries, err) := by
  have hvisit : ∀ found, (getFileSystemSummaryByDisplayName grow).visitAll found items =
      .inl (items.foldl (FileSystemsFound.visit grow) found) := by
    induction items with
    | nil => exact fun _ => rfl
    | cons x items ih => exact fun found => ih (found.visit grow x)
  rw [Loop.result, hvisit]
  rfl

/-- If there is a conflict the list has exactly the conflicting items, and otherwise the usable
ones. -/
def ListsRight (items : List Summary) (result : Bool × Option (List Summary) × Option ClientError) :
    Prop :=
  (result.1 = true → result.2.1 = some (conflicting items)) ∧
    (result.1 = false → result.2.1 = some (usable items))

/-- For items that arrive on one page the loop over the file systems ends with the right list, and
with the same list as the loop over the mount targets. -/
def ConflictsListed (grow : Nat → Nat) (items : List Summary) : Prop :=
  ∃ fuel requests result fuel' requests' result',
    (getFileSystemSummaryByDisplayName grow).run ((Split.single items).serve unknownPage) fuel 0 none
      .nothing = some (result, requests) ∧
    getMountTargetSummaryByDisplayName.run ((Split.single items).serve unknownPage) fuel' 0 none
      ([], []) = some (result', requests') ∧
    ListsRight items result ∧ result.1 = result'.1 ∧ result.2.1 = result'.2.1

/-- What is to be reported: is there a conflict, and the list. -/
def reported (items : List Summary) : Bool × List Summary :=
  if conflicting items ≠ [] then (true, conflicting items) else (false, usable items)

theorem listsRight_iff {result : Bool × Option (List Summary) × Option ClientError}
    (hflag : result.1 = (reported items).1) :
    ListsRight items result ↔ result.2.1 = some (reported items).2 := by
  unfold ListsRight
  rw [hflag]
  unfold reported
  split_ifs
  · exact ⟨fun h => h.1 rfl, fun h => ⟨fun _ => h, fun hfalse => absurd hfalse (by decide)⟩⟩
  · exact ⟨fun h => h.2 rfl, fun h => ⟨fun htrue => absurd htrue (by decide), fun _ => h⟩⟩

theorem result_getMountTargets (items : List Summary) :
    (getMountTargetSummaryByDisplayName.result ([], []) items).1 = (reported items).1 ∧
      (getMountTargetSummaryByDisplayName.result ([], []) items).2.1 =
        some (reported items).2 := by
  have hvisit : getMountTargetSummaryByDisplayName.visitAll ([], []) items =
      .inl (usable items, conflicting items) :=
    visitAll_getMountTargetSummaryByDisplayName ([], []) items
  rw [Loop.result, hvisit]
  unfold reported
  dsimp only [getMountTargetSummaryByDisplayName]
  split_ifs
  · exact ⟨rfl, rfl⟩
  · exact ⟨rfl, rfl⟩

section Found

variable {items before after : List Summary} {x : Summary} {found : FileSystemsFound}

theorem foundConflicting_eq (h : FoundIn items found) :
    found.foundConflicting = (reported items).1 := by
  unfold reported
  cases hfound : found.foundConflicting with
  | false => rw [if_neg (not_not_intro (h.nothing hfound))]
  | true =>
    obtain ⟨before, x, after, rfl, hx, -, -⟩ := h.reports hfound
    have hmem : x ∈ conflicting (before ++ x :: after) :=
      mem_conflicting.mpr ⟨mem_append_right _ mem_cons_self, hx⟩
    rw [if_pos (ne_nil_of_mem hmem)]

/-- The list that is returned has the usable file systems before the last conflicting one, so it is
the right one only if there are none and no other is conflicting. -/
theorem Reports.read_eq_iff (h : Reports before x found) (hx : isUsable x.lifecycleState = false)
    (hafter : conflicting after = []) :
    found.conflictingFileSystemSummaries.read found.memory = conflicting (before ++ x :: after) ↔
      before = [] := by
  have hsplit : conflicting (before ++ x :: after) = conflicting before ++ [x] := by
    rw [conflicting, filter_append, filter_cons, hx, ← conflicting, ← conflicting, hafter]
    rfl
  rw [hsplit]
  constructor
  · intro hread
    have hnone : usable before = [] := by
      rw [eq_nil_iff_forall_not_mem]
      intro y hy
      -- a usable file system in the list of the conflicting ones
      have hmem : y ∈ conflicting before ++ [x] := by
        rw [← hread]
        refine mem_of_mem_take (i := (usable before).length) ?_
        rw [h.take]
        exact hy
      rw [← hsplit] at hmem
      have hconflict := (mem_conflicting.mp hmem).2
      rw [(mem_usable.mp hy).2] at hconflict
      cases hconflict
    have hlen := congrArg List.length hread
    rw [Slice.length_read h.valid, h.len, hnone, length_append] at hlen
    have hnone' : conflicting before = [] := eq_nil_of_length_eq_zero (by simpa using hlen.symm)
    rw [eq_nil_iff_forall_not_mem]
    intro y hy
    cases hu : isUsable y.lifecycleState with
    | true =>
      have hmem := mem_usable.mpr ⟨hy, hu⟩
      rw [hnone] at hmem
      cases hmem
    | false =>
      have hmem := mem_conflicting.mpr ⟨hy, hu⟩
      rw [hnone'] at hmem
      cases hmem
  · rintro rfl
    exact (h.alone rfl).1

theorem eq_nil_iff_tail (hx : isUsable x.lifecycleState = false) (hafter : conflicting after = []) :
    before = [] ↔ ∀ y ∈ (before ++ x :: after).tail, isUsable y.lifecycleState := by
  constructor
  · rintro rfl y hy
    exact isUsable_of_mem hafter hy
  · intro htail
    cases before with
    | nil => rfl
    | cons z before =>
      have husable := htail x (mem_append_right before mem_cons_self)
      rw [hx] at husable
      cases husable

end Found

theorem result_getFileSystems (grow : Nat → Nat) (items : List Summary) :
    ((getFileSystemSummaryByDisplayName grow).result .nothing items).1 = (reported items).1 ∧
      (((getFileSystemSummaryByDisplayName grow).result .nothing items).2.1 =
        some (reported items).2 ↔ ∀ x ∈ items.tail, isUsable x.lifecycleState) := by
  have h := foundIn_foldl grow items
  rw [result_getFileSystemSummaryByDisplayName]
  dsimp only [Csi.Fss.getFileSystemSummaryByDisplayName]
  generalize items.foldl (FileSystemsFound.visit grow) .nothing = found at h
  have hflag := foundConflicting_eq h
  unfold FileSystemsFound.summaries
  cases hfound : found.foundConflicting with
  | false =>
    have hnone := h.nothing hfound
    rw [hfound] at hflag
    refine ⟨hflag, ?_⟩
    unfold reported
    rw [if_neg (not_not_intro hnone)]
    refine iff_of_true (congrArg some h.usable) fun x hx => ?_
    exact isUsable_of_mem hnone (mem_of_mem_tail hx)
  | true =>
    obtain ⟨before, x, after, rfl, hx, hafter, hreports⟩ := h.reports hfound
    rw [hfound] at hflag
    refine ⟨hflag, ?_⟩
    have hmem : x ∈ conflicting (before ++ x :: after) :=
      mem_conflicting.mpr ⟨mem_append_right _ mem_cons_self, hx⟩
    unfold reported
    rw [if_pos (ne_nil_of_mem hmem), ← eq_nil_iff_tail hx hafter, ← hreports.read_eq_iff hx hafter]
    exact Option.some_inj

/-- The conflicts are listed as they should be exactly if no item after the first is conflicting,
whatever room `append` gives to new arrays. -/
theorem conflictsListed_iff (grow : Nat → Nat) (items : List Summary) :
    ConflictsListed grow items ↔ ∀ x ∈ items.tail, isUsable x.lifecycleState := by
  obtain ⟨hflag, hlist⟩ := result_getFileSystems grow items
  obtain ⟨hflag', hlist'⟩ := result_getMountTargets items
  rw [← hlist]
  constructor
  · rintro ⟨fuel, requests, result, fuel', requests', result', hrun, hrun', hright, hagree⟩
    obtain rfl := eq_result_of_run_single hrun
    exact (listsRight_iff hflag).mp hright
  · intro hright
    refine ⟨1, _, _, 1, _, _, run_single_succ _ items 0, run_single_succ _ items 0,
      (listsRight_iff hflag).mpr hright, ?_, ?_⟩
    · exact hflag.trans hflag'.symm
    · exact hright.trans hlist'.symm

/-- File systems of which one is being deleted. -/
def mixedSummaries : List Summary :=
  [⟨"a", .active⟩, ⟨"b", .active⟩, ⟨"c", .active⟩, ⟨"d", .deleting⟩, ⟨"e", .active⟩]

/-- If an array is doubled when it is full, there is room for the one that is being deleted after
the first three, and the last one is written over it: the conflicting ones are all active. -/
theorem not_conflictsListed_mixedSummaries :
    ((getFileSystemSummaryByDisplayName fun n => 2 * (n - 1)).result .nothing mixedSummaries).2.1 =
        some [⟨"a", .active⟩, ⟨"b", .active⟩, ⟨"c", .active⟩, ⟨"e", .active⟩] ∧
      ¬ConflictsListed (fun n => 2 * (n - 1)) mixedSummaries := by
  refine ⟨by decide +kernel, ?_⟩
  rintro ⟨fuel, requests, result, fuel', requests', result', hrun, -, ⟨hconflict, -⟩, -⟩
  obtain rfl := eq_result_of_run_single hrun
  exact absurd (hconflict (by decide +kernel)) (by decide +kernel)

end OciCcm.Listings
