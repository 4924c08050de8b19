import OciCcm.Csi.LustreController

/-! # Deleting what is gone

A resource can disappear before or while it is deleted. The requests that delete
volumes and snapshots should then succeed, whichever of their calls is the first
to find out.
-/

namespace OciCcm.Csi.BlockVolume

open Client

/-- `k8sapierrors.IsNotFound`. An error of the cloud is never one of the Kubernetes API. -/
def isKubernetesNotFound : ClientError → Bool := fun _ => false

/-- The errors have no code of their own. -/
def deleteVolume (volumeId : String) (deleteVolume : Option ClientError) : Except Status Unit :=
  if volumeId = "" then .error ⟨.invalidArgument, "DeleteVolume Volume ID must be provided"⟩
  else match deleteVolume.filter fun err => !isNotFound err with
    | some err => .error ⟨.unknown, "failed to delete volume, volumeId: " ++ volumeId ++
        ", error: " ++ err.error⟩
    | none => .ok ()

def deleteSnapshot (snapshotId : String) (deleteVolumeBackup : Option ClientError) :
    Except Status Unit :=
  if snapshotId = "" then .error ⟨.invalidArgument, "SnapshotId must be provided"⟩
  else match deleteVolumeBackup.filter fun err => !isKubernetesNotFound err with
    | some err => .error ⟨.unknown, "failed to delete snapshot, snapshotId: " ++ snapshotId ++
        ", error: " ++ err.error⟩
    | none => .ok ()

end OciCcm.Csi.BlockVolume

namespace OciCcm.Csi.Deletes

open Client

/-! ## Requests -/

/-- A request that deletes something, with the answers to its calls. -/
inductive Request where
  | blockVolume (volumeId : String) (deleteVolume : Option ClientError)
  | snapshot (snapshotId : String) (deleteVolumeBackup : Option ClientError)
  | fss (volumeId : String) (handler : Fss.FSSVolumeHandler) (a : Fss.DeleteAnswers)
  | lustre (volumeId : String) (a : Lustre.DeleteAnswers)

/-- The error of a get, if it fails. -/
def failure {α : Type} : Except ClientError α → Option ClientError
  | .error err => some err
  | .ok _ => none

namespace Request

def result : Request → Except Status Unit
  | blockVolume volumeId deleteVolume => BlockVolume.deleteVolume volumeId deleteVolume
  | snapshot snapshotId deleteVolumeBackup =>
    BlockVolume.deleteSnapshot snapshotId deleteVolumeBackup
  | fss volumeId handler a => (Fss.deleteVolume volumeId handler a).1
  | lustre volumeId a => Lustre.deleteVolume volumeId a

/-- The request passes the checks before the first call. -/
def Valid : Request → Prop
  | blockVolume volumeId _ => volumeId ≠ ""
  | snapshot snapshotId _ => snapshotId ≠ ""
  | fss _ handler a => a.token = .ok () ∧ handler.filesystemOcid ≠ "" ∧
      handler.mountTargetIPAddress ≠ "" ∧ handler.fsExportPath ≠ ""
  | lustre volumeId _ => volumeId ≠ "" ∧ Lustre.extractLustreFilesystemId volumeId ≠ ""

def errors : Request → List (Option ClientError)
  | blockVolume _ deleteVolume => [deleteVolume]
  | snapshot _ deleteVolumeBackup => [deleteVolumeBackup]
  | fss _ _ a => [failure a.getFileSystem, a.deleteMountTarget, a.listExports, a.deleteExport,
      a.deleteFileSystem]
  | lustre _ a => failure a.getLustreFileSystem :: a.deleteLustreFileSystem :: a.polls.map failure

/-- A request that waits for a deletion lives long enough to see the end of it. -/
def SeesEnd : Request → Prop
  | lustre _ a => ∃ poll ∈ a.polls, ∀ fs, poll = .ok fs → fs.lifecycleState = .deleted
  | _ => True

/-- No call fails but because something is gone. -/
structure OnlyGone (r : Request) : Prop where
  valid : r.Valid
  errors : ∀ err, some err ∈ r.errors → isNotFound err
  seesEnd : r.SeesEnd

/-- The request comes to a call for which not-found is an error, and the call fails. -/
def FailsIfGone : Request → Prop
  | blockVolume .. => False
  | snapshot _ deleteVolumeBackup => deleteVolumeBackup.isSome
  | fss _ handler a => a.deleteExport.isSome ∧ ∃ fileSystem e, a.getFileSystem = .ok fileSystem ∧
      (fileSystem.freeformTags.lookup "exportSetId").getD "" ≠ "" ∧
      Fss.findExport handler.fsExportPath a.listExports a.exports = (some e, none)
  | lustre _ a => a.deleteLustreFileSystem.isSome ∧ ∃ fs, a.getLustreFileSystem = .ok fs ∧
      fs.lifecycleState ≠ .deleted ∧ fs.lifecycleState ≠ .deleting

end Request

/-! ## Calls for which not-found is no error -/

variable {err : Option ClientError} {rest : Except Status Unit × List Fss.DeleteCall}
  {a : Fss.DeleteAnswers} {volumeId : String}

theorem filter_eq_none (h : ∀ e, some e = err → isNotFound e) :
    (err.filter fun e => !isNotFound e) = none := by
  cases err with
  | none => rfl
  | some e => simp [h e rfl]

theorem stops_eq_none {message : String} (h : ∀ e, some e = err → isNotFound e) :
    Fss.stops err message = none := by
  rw [Fss.stops, filter_eq_none h]
  rfl

theorem fst_thenCalls {calls : List Fss.DeleteCall} {status : Option Status} :
    (Fss.thenCalls calls status rest).1 = .ok () ↔ status = none ∧ rest.1 = .ok () := by
  cases status with
  | none => simp [Fss.thenCalls]
  | some status => simp [Fss.thenCalls]

theorem awaitLustreFileSystemDeleted_eq_none
    {polls : List (Except ClientError Lustre.LustreFileSystem)}
    (herrors : ∀ err, some err ∈ polls.map failure → isNotFound err)
    (hend : ∃ poll ∈ polls, ∀ fs, poll = .ok fs → fs.lifecycleState = .deleted) :
    Lustre.awaitLustreFileSystemDeleted polls = none := by
  induction polls with
  | nil =>
    obtain ⟨poll, hpoll, -⟩ := hend
    cases hpoll
  | cons poll polls ih =>
    cases poll with
    | error err =>
      rw [Lustre.awaitLustreFileSystemDeleted, if_pos (herrors err List.mem_cons_self)]
    | ok fs =>
      rw [Lustre.awaitLustreFileSystemDeleted]
      split
      · rfl
      · next hstate =>
        refine ih (fun err herr => herrors err (List.mem_cons_of_mem _ herr)) ?_
        obtain ⟨poll, hpoll, hdeleted⟩ := hend
        rcases List.mem_cons.mp hpoll with rfl | hpoll
        · exact absurd (hdeleted fs rfl) hstate
        · exact ⟨poll, hpoll, hdeleted⟩

theorem isNotFound_of_findExport {path : String} {listExports err : Option ClientError}
    {exports : List Fss.ExportSummary} (hlist : ∀ e, some e = listExports → isNotFound e)
    (h : Fss.findExport path listExports exports = (none, err)) :
    ∀ e, some e = err → isNotFound e := by
  unfold Fss.findExport at h
  split at h
  · next e' =>
    intro e he
    rw [← (Prod.mk.inj h).2] at he
    exact hlist e he
  · split at h
    · rintro e he
      rw [← (Prod.mk.inj h).2] at he
      cases he
      rfl
    · split at h
      · cases h
      · cases h

/-! ## The requests -/

theorem deleteExport_ok_iff {path exportSetId : String}
    (hlist : ∀ e, some e = a.listExports → isNotFound e) (hrest : rest.1 = .ok ()) :
    (Fss.deleteExport path exportSetId a rest).1 = .ok () ↔
      ¬(a.deleteExport.isSome ∧ exportSetId ≠ "" ∧
        ∃ e, Fss.findExport path a.listExports a.exports = (some e, none)) := by
  unfold Fss.deleteExport
  split
  · next hid => simp [hid, hrest]
  · next hid =>
    split
    · next err hfind =>
      rw [fst_thenCalls, stops_eq_none (isNotFound_of_findExport hlist hfind)]
      simp [hfind, hrest]
    · next hfind => simp [hfind, hrest]
    · next e hfind =>
      rw [fst_thenCalls]
      simp [hfind, hid, hrest]

theorem fss_deleteVolume_ok_iff {handler : Fss.FSSVolumeHandler}
    (h : (Request.fss volumeId handler a).OnlyGone) :
    (Fss.deleteVolume volumeId handler a).1 = .ok () ↔
      ¬(Request.fss volumeId handler a).FailsIfGone := by
  obtain ⟨⟨htoken, hocid, hip, hpath⟩, herrors, -⟩ := h
  unfold Fss.deleteVolume
  rw [htoken]
  dsimp only
  rw [if_neg (by simp [hocid, hip, hpath])]
  cases hget : a.getFileSystem with
  | error err =>
    have hgone : isNotFound err := herrors err (by simp [Request.errors, failure, hget])
    simp [hgone, Request.FailsIfGone, hget]
  | ok fileSystem =>
    have hlast : (Fss.deleteFileSystem volumeId handler.filesystemOcid a).1 = .ok () := by
      refine fst_thenCalls.mpr ⟨stops_eq_none fun e he => herrors e ?_, rfl⟩
      simp [Request.errors, he]
    have hlist : ∀ e, some e = a.listExports → isNotFound e := fun e he =>
      herrors e (by simp [Request.errors, he])
    have hfirst : ∀ id rest, (Fss.deleteMountTarget id
        (decide ((fileSystem.freeformTags.lookup "isDeleteMountTarget").getD "" = "true")) a rest).1 =
          .ok () ↔ rest.1 = .ok () := by
      intro id rest
      unfold Fss.deleteMountTarget
      split
      · rw [fst_thenCalls, stops_eq_none fun e he => herrors e (by simp [Request.errors, he])]
        simp
      · rfl
    refine (hfirst _ _).trans ((deleteExport_ok_iff hlist hlast).trans ?_)
    simp only [Request.FailsIfGone, hget, Except.ok.injEq, exists_and_left, exists_eq_left']

theorem lustre_deleteVolume_ok_iff {a : Lustre.DeleteAnswers}
    (h : (Request.lustre volumeId a).OnlyGone) :
    Lustre.deleteVolume volumeId a = .ok () ↔ ¬(Request.lustre volumeId a).FailsIfGone := by
  obtain ⟨⟨hvolume, hid⟩, herrors, hend⟩ := h
  have hawait : Lustre.awaitDeleted a = .ok () := by
    rw [Lustre.awaitDeleted, awaitLustreFileSystemDeleted_eq_none (fun err herr => ?_) hend]
    exact herrors err (List.mem_cons_of_mem _ (List.mem_cons_of_mem _ herr))
  unfold Lustre.deleteVolume
  rw [if_neg hvolume, if_neg hid]
  cases hget : a.getLustreFileSystem with
  | error err =>
    have hgone : isNotFound err := herrors err (by simp [Request.errors, failure, hget])
    simp [hgone, Request.FailsIfGone, hget]
  | ok fs =>
    simp only [Request.FailsIfGone, hget, Except.ok.injEq, exists_eq_left']
    cases fs.lifecycleState with
    | deleted => simp
    | deleting => simp [hawait]
    | creating | updating | active | inactive | failed =>
      cases a.deleteLustreFileSystem with
      | none => simp [hawait]
      | some err => simp

/-- If calls fail only because something is gone, a request succeeds exactly if it does not come to
one of the three calls for which not-found is an error. -/
theorem result_eq_ok_iff {r : Request} (h : r.OnlyGone) : r.result = .ok () ↔ ¬r.FailsIfGone := by
  cases r with
  | blockVolume volumeId deleteVolume =>
    have hgone : ∀ e, some e = deleteVolume → isNotFound e := fun e he =>
      h.errors e (List.mem_singleton.mpr he)
    simp only [Request.result, BlockVolume.deleteVolume, if_neg h.valid, filter_eq_none hgone,
      Request.FailsIfGone, not_false_eq_true]
  | snapshot snapshotId deleteVolumeBackup =>
    simp only [Request.result, BlockVolume.deleteSnapshot, if_neg h.valid, Request.FailsIfGone]
    cases deleteVolumeBackup with
    | none => simp
    | some err =>
      show Except.error _ = .ok () ↔ _
      simp
  | fss volumeId handler a => exact fss_deleteVolume_ok_iff h
  | lustre volumeId a => exact lustre_deleteVolume_ok_iff h

/-- The error of the cloud for what is gone. -/
def gone : ClientError := .serviceError 404 "NotAuthorizedOrNotFound"

/-- A file system whose mount target and export are deleted with it. -/
def fileSystem : Fss.FileSystem where
  id := "ocid1.filesystem"
  displayName := "pvc-1"
  compartmentId := "compartment"
  availabilityDomain := "AD-1"
  freeformTags := .ofPairs [("isDeleteMountTarget", "true"), ("mountTargetOCID", "ocid1.mounttarget"),
    ("exportSetId", "ocid1.exportset")]
  definedTags := none

/-- The file system is deleted when its mount target is gone. -/
def fssRequest (exports : List Fss.ExportSummary) : Request :=
  .fss "ocid1.filesystem:10.0.0.1:/pvc-1" ⟨"ocid1.filesystem", "10.0.0.1", "/pvc-1"⟩
    { getFileSystem := .ok fileSystem
      deleteMountTarget := some gone
      exports := exports
      deleteExport := some gone
      deleteFileSystem := some gone }

def lustreRequest : Request :=
  .lustre "ocid1.lustrefilesystem:10.0.0.1@tcp:/fs"
    { getLustreFileSystem := .ok ⟨"ocid1.lustrefilesystem", .active, 31200, none, none, none⟩
      deleteLustreFileSystem := some gone
      polls := [.error gone] }

theorem onlyGone_fssRequest (exports : List Fss.ExportSummary) : (fssRequest exports).OnlyGone := by
  refine ⟨⟨rfl, by decide, by decide, by decide⟩, ?_, trivial⟩
  intro err herr
  obtain rfl : err = gone := by simpa [fssRequest, Request.errors, failure] using herr
  rfl

/-- The request succeeds if the export is gone before it is looked for. -/
theorem result_fssRequest : (fssRequest []).OnlyGone ∧ (fssRequest []).result = .ok () := by
  refine ⟨onlyGone_fssRequest [], (result_eq_ok_iff (onlyGone_fssRequest [])).mpr ?_⟩
  rintro ⟨-, fileSystem, e, -, -, hfind⟩
  cases hfind

/-- A snapshot, an export and a Lustre file system that are gone when they are deleted. -/
theorem result_ne_ok_gone :
    ((Request.snapshot "ocid1.volumebackup" (some gone)).OnlyGone ∧
      (Request.snapshot "ocid1.volumebackup" (some gone)).result ≠ .ok ()) ∧
    ((fssRequest [⟨"ocid1.export", "/pvc-1", .active⟩]).OnlyGone ∧
      (fssRequest [⟨"ocid1.export", "/pvc-1", .active⟩]).result ≠ .ok ()) ∧
    (lustreRequest.OnlyGone ∧ lustreRequest.result ≠ .ok ()) := by
  have hid : "ocid1.volumebackup" ≠ "" := by decide
  refine ⟨⟨⟨hid, ?_, trivial⟩, by decide +kernel⟩,
    ⟨onlyGone_fssRequest _, by decide +kernel⟩,
    ⟨⟨⟨by decide, by decide +kernel⟩, ?_, ?_⟩, by decide +kernel⟩⟩
  · intro err herr
    obtain rfl : err = gone := by simpa [Request.errors] using herr
    rfl
  · intro err herr
    obtain rfl : err = gone := by simpa [lustreRequest, Request.errors, failure] using herr
    rfl
  · refine ⟨.error gone, List.mem_cons_self, fun fs hfs => ?_⟩
    cases hfs

end OciCcm.Csi.Deletes
