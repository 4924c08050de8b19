import OciCcm.Csi.BlockVolume
import OciCcm.Csi.FssController

/-! # Listings of the client

The functions of the client that list resources page by page. Three of them do
not pass the token of the next page on and ask for the first page again.
-/

namespace OciCcm.Listings

open Client Go Pages
open Csi.BlockVolume (Volume isListedVolume)
open Csi.Fss (Summary ExportSummary FileSystemsFound isUsable)

/-! ## The loops -/

section Collecting

variable {NetworkSecurityGroup SecurityRule PrivateIp : Type}

def listNetworkSecurityGroups : Loop ClientError NetworkSecurityGroup (List NetworkSecurityGroup)
    (Except ClientError (List NetworkSecurityGroup)) :=
  .collecting true fun _ => true

def listNetworkSecurityGroupSecurityRules :
    Loop ClientError SecurityRule (List SecurityRule) (Except ClientError (List SecurityRule)) :=
  .collecting true fun _ => true

/-- The request has no field for the page. -/
def listPrivateIps :
    Loop ClientError PrivateIp (List PrivateIp) (Except ClientError (List PrivateIp)) :=
  .collecting false fun _ => true

def getVolumesByName : Loop ClientError Volume (List Volume) (Except ClientError (List Volume)) :=
  .collecting true isListedVolume

end Collecting

/-- The request does not name the page. -/
def getFileSystemSummaryByDisplayName (grow : Nat → Nat) :
    Loop ClientError Summary FileSystemsFound (Bool × Option (List Summary) × Option ClientError) where
  passesToken := false
  start := .nothing
  visit found fileSystemSummary := .inl (found.visit grow fileSystemSummary)
  failed found err := (found.foundConflicting, none, some err)
  finish found :=
    match found.summaries with
    | (foundConflicting, summaries, err) => (foundConflicting, some summaries, err)

/-- The usable mount targets and the others. The request does not name the page. -/
def getMountTargetSummaryByDisplayName :
    Loop ClientError Summary (List Summary × List Summary)
      (Bool × Option (List Summary) × Option ClientError) where
  passesToken := false
  start := ([], [])
  visit found mountTargetSummary :=
    .inl (if isUsable mountTargetSummary.lifecycleState then
        (found.1 ++ [mountTargetSummary], found.2)
      else (found.1, found.2 ++ [mountTargetSummary]))
  failed found err := (found.2 ≠ [], none, some err)
  finish found :=
    if found.2 ≠ [] then
      (true, some found.2,
        some (.other "Found mount target summary neither active nor creating state"))
    else (false, some found.1, none)

/-- The first export with the path ends the loop. -/
def findExport (path : String) :
    Loop ClientError ExportSummary Unit (Option ExportSummary × Option ClientError) where
  passesToken := true
  start := ()
  visit _ e :=
    if e.path = path then
      .inr (if isUsable e.lifecycleState then (some e, none)
        else (some e, some (.other ("Found export in conflicting state " ++ e.id ++ ": " ++
          e.lifecycleState.text))))
    else .inl ()
  failed _ err := (none, some err)
  finish _ := (none, some .errNotFound)

/-! ## Termination and completeness -/

/-- The error for a token that was not given out. -/
def unknownPage : ClientError := .serviceError 400 "InvalidParameter"

/-- The loop ends for a split of the items, asks for no page twice, and returns what it returns if
all items are on one page. -/
def Complete {α σ ρ : Type} (l : Loop ClientError α σ ρ) (s : Split α) : Prop :=
  ∃ fuel requests result,
    l.run (s.serve unknownPage) fuel 0 none l.start = some (result, requests) ∧ requests.Nodup ∧
    ∃ fuel' requests',
      l.run ((Split.single s.items).serve unknownPage) fuel' 0 none l.start =
        some (result, requests')

variable {α σ ρ : Type} {l : Loop ClientError α σ ρ} {s : Split α}

theorem run_single_succ (l : Loop ClientError α σ ρ) (items : List α) (fuel : Nat) :
    l.run ((Split.single items).serve unknownPage) (fuel + 1) 0 none l.start =
      some (l.result l.start items, [none]) := by
  have hserve : (Split.single items).serve unknownPage 0 none = .ok (items, none) := rfl
  cases hvisit : l.visitAll l.start items with
  | inl st => simp only [Loop.run, Loop.result, ite_self, hserve, hvisit]
  | inr r => simp only [Loop.run, Loop.result, ite_self, hserve, hvisit]

theorem run_single (l : Loop ClientError α σ ρ) (items : List α) :
    ∃ fuel requests, l.run ((Split.single items).serve unknownPage) fuel 0 none l.start =
      some (l.result l.start items, requests) ∧ requests.Nodup :=
  ⟨1, [none], run_single_succ l items 0, List.nodup_singleton _⟩

theorem eq_result_of_run_single {items : List α} {fuel : Nat} {r : ρ}
    {requests : List (Option String)}
    (h : l.run ((Split.single items).serve unknownPage) fuel 0 none l.start = some (r, requests)) :
    r = l.result l.start items := by
  cases fuel with
  | zero => cases h
  | succ fuel =>
    rw [run_single_succ] at h
    exact (Prod.mk.inj (Option.some.inj h)).1.symm

theorem complete_of_passesToken (htoken : l.passesToken = true) (s : Split α) : Complete l s := by
  obtain ⟨fuel, requests, hrun, hnodup⟩ : ∃ fuel requests,
      l.run (s.serve unknownPage) fuel 0 none l.start = some (l.result l.start s.items, requests) ∧
        requests.Nodup := Split.run_of_passesToken htoken
  obtain ⟨fuel', requests', hrun', -⟩ := run_single l s.items
  exact ⟨fuel, requests, _, hrun, hnodup, fuel', requests', hrun'⟩

theorem complete_iff_of_not_passesToken (htoken : l.passesToken = false)
    (hvisit : ∀ st x, ∃ st', l.visit st x = .inl st') : Complete l s ↔ s.rest = [] := by
  constructor
  · rintro ⟨fuel, requests, result, hrun, -⟩
    by_contra hrest
    rw [Split.run_eq_none htoken hvisit hrest] at hrun
    cases hrun
  · intro hrest
    obtain ⟨first, rest, hnodup⟩ := s
    obtain rfl : rest = [] := hrest
    obtain ⟨fuel, requests, hrun, hnodup⟩ := run_single l first
    refine ⟨fuel, requests, _, hrun, hnodup, fuel, requests, ?_⟩
    simpa [Split.items] using hrun

/-- The listings all end with the complete result, without asking for a page twice, exactly if the
ones that do not pass the token on have a single page. -/
theorem complete_listings_iff {NetworkSecurityGroup SecurityRule PrivateIp : Type}
    (groups : Split NetworkSecurityGroup) (rules : Split SecurityRule) (ips : Split PrivateIp)
    (volumes : Split Volume) (grow : Nat → Nat) (fileSystems mountTargets : Split Summary)
    (path : String) (exports : Split ExportSummary) :
    (Complete listNetworkSecurityGroups groups ∧
      Complete listNetworkSecurityGroupSecurityRules rules ∧ Complete listPrivateIps ips ∧
      Complete getVolumesByName volumes ∧
      Complete (getFileSystemSummaryByDisplayName grow) fileSystems ∧
      Complete getMountTargetSummaryByDisplayName mountTargets ∧
      Complete (findExport path) exports) ↔
    ips.rest = [] ∧ fileSystems.rest = [] ∧ mountTargets.rest = [] := by
  have hgroups := complete_of_passesToken (l := listNetworkSecurityGroups) rfl groups
  have hrules := complete_of_passesToken (l := listNetworkSecurityGroupSecurityRules) rfl rules
  have hvolumes := complete_of_passesToken (l := getVolumesByName) rfl volumes
  have hexports := complete_of_passesToken (l := findExport path) rfl exports
  have hips : Complete listPrivateIps ips ↔ ips.rest = [] :=
    complete_iff_of_not_passesToken rfl fun _ _ => ⟨_, rfl⟩
  have hfileSystems : Complete (getFileSystemSummaryByDisplayName grow) fileSystems ↔
      fileSystems.rest = [] := complete_iff_of_not_passesToken rfl fun _ _ => ⟨_, rfl⟩
  have hmountTargets : Complete getMountTargetSummaryByDisplayName mountTargets ↔
      mountTargets.rest = [] := complete_iff_of_not_passesToken rfl fun _ _ => ⟨_, rfl⟩
  rw [hips, hfileSystems, hmountTargets]
  exact ⟨fun ⟨_, _, hips, _, hfileSystems, hmountTargets, _⟩ => ⟨hips, hfileSystems, hmountTargets⟩,
    fun ⟨hips, hfileSystems, hmountTargets⟩ =>
      ⟨hgroups, hrules, hips, hvolumes, hfileSystems, hmountTargets, hexports⟩⟩

/-- Two private addresses on two pages are asked for without end. -/
theorem not_complete_listPrivateIps :
    ¬Complete listPrivateIps (⟨["10.0.0.2"], [("2", ["10.0.0.3"])], by decide⟩ : Split String) := by
  rintro ⟨fuel, requests, result, hrun, -⟩
  rw [Split.run_eq_none rfl (fun _ _ => ⟨_, rfl⟩) (by simp)] at hrun
  cases hrun

/-! ## The results of the other modules

The volume and file system drivers are modelled over these.
-/

theorem visitAll_getMountTargetSummaryByDisplayName (found : List Summary × List Summary)
    (items : List Summary) :
    getMountTargetSummaryByDisplayName.visitAll found items =
      .inl (found.1 ++ items.filter (isUsable ·.lifecycleState),
        found.2 ++ items.filter (!isUsable ·.lifecycleState)) := by
  induction items generalizing found with
  | nil => simp [Loop.visitAll]
  | cons x items ih =>
    cases hx : isUsable x.lifecycleState with
    | true =>
      have hvisit : getMountTargetSummaryByDisplayName.visit found x =
          .inl (found.1 ++ [x], found.2) := by simp [getMountTargetSummaryByDisplayName, hx]
      rw [Loop.visitAll, hvisit]
      dsimp only
      rw [ih]
      simp [hx]
    | false =>
      have hvisit : getMountTargetSummaryByDisplayName.visit found x =
          .inl (found.1, found.2 ++ [x]) := by simp [getMountTargetSummaryByDisplayName, hx]
      rw [Loop.visitAll, hvisit]
      dsimp only
      rw [ih]
      simp [hx]

end OciCcm.Listings
