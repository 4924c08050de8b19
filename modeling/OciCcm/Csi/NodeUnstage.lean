import Mathlib.Data.Set.Basic
import OciCcm.Csi.Status
import OciCcm.Go.Strings

/-! # Unstaging a block volume

`NodeUnstageVolume` unmounts the staging path of a volume, logs out of its iSCSI
target and removes the record of the target. It finds the target through the
mount table, so a call that follows a half-finished one sees a path that is not
mounted and takes the volume for unstaged.
-/

namespace OciCcm.Csi

open Go

inductive AttachmentType where
  | iscsi
  | multipathIscsi
  | paravirtualized
deriving DecidableEq, Repr

/-- A volume with how it is attached and whether it is used as a raw block device. -/
structure Volume where
  attachmentType : AttachmentType
  isRawBlockVolume : Bool
deriving DecidableEq, Repr

/-- What the node has for the volume. For a raw block volume the path is that of the device
file in the staging directory. -/
structure Host where
  /-- How often the path is mounted. -/
  mounts : Nat
  pathExists : Bool
  /-- Is there an iSCSI session to the volume's target? -/
  loggedIn : Bool
  /-- Is there a record of the target in the node database? -/
  nodeRecord : Bool
deriving DecidableEq, Repr

/-- What goes wrong in one call. -/
structure Faults where
  /-- Another operation on the volume holds the lock. -/
  lock : Bool := false
  /-- The check for a device file fails. -/
  pathIsDevice : Bool := false
  /-- The mount table cannot be read. -/
  mountTable : Bool := false
  /-- The links in `/dev/disk/by-path` cannot be followed. -/
  diskByPath : Bool := false
  deviceOpened : Bool := false
  pathExists : Bool := false
  isMountPoint : Bool := false
  unmount : Outcome := .success
  /-- The check for a mount point fails after the unmount. -/
  isMountPointAfter : Bool := false
  /-- The path cannot be removed. -/
  remove : Bool := false
  logout : Outcome := .success
  removeFromDB : Outcome := .success
deriving DecidableEq, Repr

structure NodeUnstageVolumeRequest where
  volumeId : String
  stagingTargetPath : String
deriving DecidableEq, Repr

variable (v : Volume) (f : Faults)

/-- Is the volume's device there? The link of an iSCSI device comes with its session. -/
def devicePresent (h : Host) : Bool := v.attachmentType ≠ .iscsi || h.loggedIn

def diskByPathsForMountPoint (h : Host) : Except String Unit :=
  if f.diskByPath then .error "error evaluating symlink"
  else if devicePresent v h then .ok ()
  else .error "disk by path link not found"

/-- The disk paths of the mounted device, or `none` if the path is not a mount point. The
staging directory of a raw block volume never is one. -/
def getDiskPathFromMountPath (h : Host) : Except String (Option Unit) :=
  if f.mountTable then .error "error listing mount points"
  else if v.isRawBlockVolume ∨ h.mounts = 0 then .ok none
  else if v.attachmentType = .multipathIscsi then .ok (some ())
  else (diskByPathsForMountPoint v f h).map some

/-- The disk paths of the device that is bound to the device file. Every entry of the mount table
for the file has a device. -/
def getDiskPathFromBindDeviceFilePath (h : Host) : Except String (Option Unit) :=
  if f.mountTable then .error "findmnt failed"
  else if h.mounts ≠ 1 then .error "did not find exactly a single block device"
  else (diskByPathsForMountPoint v f h).map some

/-- A mounted device is open. -/
def deviceOpened (h : Host) : Except String Bool :=
  if f.deviceOpened then .error "error opening the device"
  else .ok (devicePresent v h && 0 < h.mounts)

/-- If the second check for a mount point fails, the error that is returned is that of the
unmount, which was none. Failures to remove an unmounted path are suppressed. -/
def unmountPath (h : Host) : Except String Unit × Host :=
  if f.pathExists then (.error "Error checking if path exists", h)
  else if !h.pathExists then (.ok (), h)
  else if f.isMountPoint then (.error "error checking the mount point", h)
  else if h.mounts = 0 then
    if f.remove then (.error "error removing the path", h)
    else (.ok (), { h with pathExists := false })
  else
    let unmounted := { h with mounts := h.mounts - 1 }
    match f.unmount with
    | .failure => (.error "unmount failed", h)
    | .failureAfterEffect => (.error "unmount failed", unmounted)
    | .success =>
      if f.isMountPointAfter then (.ok (), unmounted)
      else if unmounted.mounts = 0 then
        (.ok (), if f.remove then unmounted else { unmounted with pathExists := false })
      else (.error "Failed to unmount path", unmounted)

/-- A command with the given effect and outcome. -/
def command (outcome : Outcome) (effect : Host → Host) (msg : String) (h : Host) :
    Except String Unit × Host :=
  match outcome with
  | .success => (.ok (), effect h)
  | .failure => (.error msg, h)
  | .failureAfterEffect => (.error msg, effect h)

/-- Only iSCSI volumes without multipath have to log out. -/
def logout (h : Host) : Except String Unit × Host :=
  if v.attachmentType = .iscsi then
    command f.logout (fun h => { h with loggedIn := false }) "iscsi: error logging out target" h
  else (.ok (), h)

def removeFromDB (h : Host) : Except String Unit × Host :=
  if v.attachmentType = .iscsi then
    command f.removeFromDB (fun h => { h with nodeRecord := false })
      "iscsi: error removing target from database" h
  else (.ok (), h)

/-- One step after another, as long as none fails. -/
def andThen (r : Except String Unit × Host) (next : Host → Except String Unit × Host) :
    Except String Unit × Host :=
  match r with
  | (.error err, h) => (.error err, h)
  | (.ok (), h) => next h

/-- The last three steps of `NodeUnstageVolume`. -/
def releaseDevice (h : Host) : Except String Unit × Host :=
  andThen (andThen (unmountPath f h) (logout v f)) (removeFromDB v f)

def internal (r : Except String Unit × Host) : Except Status Unit × Host :=
  (r.1.mapError (⟨.internal, ·⟩), r.2)

def nodeUnstageVolume (req : NodeUnstageVolumeRequest) (h : Host) : Except Status Unit × Host :=
  if req.volumeId = "" then (.error ⟨.invalidArgument, "Volume ID must be provided"⟩, h)
  else if req.stagingTargetPath = "" then
    (.error ⟨.invalidArgument, "Staging target path must be provided"⟩, h)
  else if f.lock then
    (.error ⟨.aborted, "An operation for the volume: " ++ req.volumeId ++ " already exists."⟩, h)
  else
    -- a failed check counts as no device file
    let isRawBlockVolume := !f.pathIsDevice && v.isRawBlockVolume && 0 < h.mounts
    let diskPath := if isRawBlockVolume then getDiskPathFromBindDeviceFilePath v f h
      else getDiskPathFromMountPath v f h
    match diskPath with
    | .error err => (.error ⟨.internal, err⟩, h)
    | .ok none => (.ok (), h)
    | .ok (some ()) =>
      match if isRawBlockVolume then .ok true else deviceOpened v f h with
      | .error err => (.error ⟨.internal, err⟩, h)
      | .ok false => (.ok (), h)
      | .ok true => internal (releaseDevice v f h)

/-! ## Released devices -/

/-- The node after a volume was staged. -/
def staged : Host where
  mounts := 1
  pathExists := true
  loggedIn := true
  nodeRecord := true

/-- The path is not mounted, the session is logged out and its record removed. -/
abbrev Released (h : Host) : Prop :=
  h.mounts = 0 ∧ h.loggedIn = false ∧ h.nodeRecord = false

/-- Does the unmount not take place? -/
def StopsBeforeUnmount : Prop :=
  f.lock ∨ f.mountTable ∨ f.diskByPath ∨ (¬v.isRawBlockVolume ∧ f.deviceOpened) ∨ f.pathExists ∨
    f.isMountPoint ∨ f.unmount = .failure

/-- Does everything from the unmount on take effect, with at most the last step reported as
failed? -/
def Completes : Prop :=
  f.unmount = .success ∧ f.logout = .success ∧ f.removeFromDB ≠ .failure

/-- The faults after which a retry starts from a staged volume or has nothing left to do. -/
def Harmless : Prop :=
  (v.isRawBlockVolume ∧ f.pathIsDevice → f.lock ∨ f.mountTable) ∧
    (StopsBeforeUnmount v f ∨ Completes f)

/-- A call, and whether one has succeeded so far. -/
def unstage (req : NodeUnstageVolumeRequest) (st : Bool × Host) (f : Faults) : Bool × Host :=
  (st.1 || (nodeUnstageVolume v f req st.2).1.isOk, (nodeUnstageVolume v f req st.2).2)

/-- Once a call of the run has succeeded, the device is released. -/
def ReleasesDevice (req : NodeUnstageVolumeRequest) (faults : List Faults) : Prop :=
  (faults.foldl (unstage v req) (false, staged)).1 = true →
    Released (faults.foldl (unstage v req) (false, staged)).2

section Steps

variable {v f} {req : NodeUnstageVolumeRequest} {h : Host}

theorem unmountPath_of_stops (hstops : f.pathExists ∨ f.isMountPoint ∨ f.unmount = .failure) :
    ∃ err, unmountPath f staged = (.error err, staged) := by
  by_cases hexists : f.pathExists
  · simp [unmountPath, hexists]
  by_cases hmount : f.isMountPoint
  · simp [unmountPath, hexists, hmount, staged]
  have hunmount : f.unmount = .failure := by simpa [hexists, hmount] using hstops
  simp [unmountPath, hexists, hmount, hunmount, staged]

theorem unmountPath_of_not_stops
    (hstops : ¬(f.pathExists ∨ f.isMountPoint ∨ f.unmount = .failure)) :
    ∃ pathExists, unmountPath f staged =
      (if f.unmount = .success then .ok () else .error "unmount failed",
        { staged with mounts := 0, pathExists := pathExists }) := by
  simp only [not_or] at hstops
  obtain ⟨hexists, hmount, hunmount⟩ := hstops
  unfold unmountPath
  cases houtcome : f.unmount with
  | failure => exact absurd houtcome hunmount
  | failureAfterEffect => exact ⟨true, by simp [hexists, hmount, staged]⟩
  | success =>
    by_cases hafter : f.isMountPointAfter
    · exact ⟨true, by simp [hexists, hmount, hafter, staged]⟩
    · by_cases hremove : f.remove
      · exact ⟨true, by simp [hexists, hmount, hafter, hremove, staged]⟩
      · exact ⟨false, by simp [hexists, hmount, hafter, hremove, staged]⟩

@[simp] theorem mounts_staged : staged.mounts = 1 := rfl

@[simp] theorem devicePresent_staged : devicePresent v staged = true := by
  simp [devicePresent, staged]

/-- Does the call get as far as the unmount? -/
def ReachesUnmount (v : Volume) (f : Faults) : Prop :=
  ¬f.lock ∧ ¬f.mountTable ∧ ¬f.diskByPath ∧ (v.isRawBlockVolume ∨ ¬f.deviceOpened) ∧
    ¬(v.isRawBlockVolume ∧ f.pathIsDevice)

section Calls

variable (hiscsi : v.attachmentType = .iscsi) (hid : req.volumeId ≠ "")
  (hpath : req.stagingTargetPath ≠ "")

include hid hpath

/-- A call that finds no mount point has nothing to do. -/
theorem nodeUnstageVolume_of_no_mountPoint
    (hnone : h.mounts = 0 ∨ v.isRawBlockVolume ∧ f.pathIsDevice) :
    (nodeUnstageVolume v f req h).2 = h ∧
      (nodeUnstageVolume v f req h).1.isOk = (!f.lock && !f.mountTable) := by
  have hraw : (!f.pathIsDevice && v.isRawBlockVolume && decide (0 < h.mounts)) = false := by
    rcases hnone with hmounts | ⟨-, hfails⟩
    · simp [hmounts]
    · simp [hfails]
  have hpaths : getDiskPathFromMountPath v f h =
      if f.mountTable then .error "error listing mount points" else .ok none := by
    unfold getDiskPathFromMountPath
    rw [if_pos (hnone.symm.imp And.left id)]
  by_cases hlock : f.lock
  · simp [nodeUnstageVolume, hid, hpath, hlock, Except.isOk, Except.toBool]
  by_cases htable : f.mountTable
  · simp [nodeUnstageVolume, hid, hpath, hlock, hraw, hpaths, htable, Except.isOk, Except.toBool]
  · simp [nodeUnstageVolume, hid, hpath, hlock, hraw, hpaths, htable, Except.isOk, Except.toBool]

theorem nodeUnstageVolume_of_reaches (hreaches : ReachesUnmount v f) :
    nodeUnstageVolume v f req staged = internal (releaseDevice v f staged) := by
  obtain ⟨hlock, htable, hdisk, hopened, hdevice⟩ := hreaches
  have hdisks : diskByPathsForMountPoint v f staged = .ok () := by
    simp [diskByPathsForMountPoint, hdisk]
  by_cases hraw : v.isRawBlockVolume
  · have hdevice : f.pathIsDevice = false := by simpa [hraw] using hdevice
    simp [nodeUnstageVolume, hid, hpath, hlock, hdevice, hraw, getDiskPathFromBindDeviceFilePath,
      htable, hdisks, Except.map]
  · have hopened : f.deviceOpened = false := by simpa [hraw] using hopened
    have hpaths : getDiskPathFromMountPath v f staged = .ok (some ()) := by
      unfold getDiskPathFromMountPath
      rw [if_neg htable, if_neg (by simp [hraw]), hdisks]
      split <;> rfl
    have hopen : deviceOpened v f staged = .ok true := by
      simp [deviceOpened, hopened]
    simp [nodeUnstageVolume, hid, hpath, hlock, hraw, hpaths, hopen]

include hiscsi

/-- A call that does not get as far leaves the volume staged. It succeeds only if the device
file of a raw block volume is not recognised. -/
theorem nodeUnstageVolume_of_not_reaches (hreaches : ¬ReachesUnmount v f) :
    (nodeUnstageVolume v f req staged).2 = staged ∧
      ((nodeUnstageVolume v f req staged).1.isOk ↔
        v.isRawBlockVolume ∧ f.pathIsDevice ∧ ¬f.lock ∧ ¬f.mountTable) := by
  by_cases hlock : f.lock
  · simp [nodeUnstageVolume, hid, hpath, hlock, Except.isOk, Except.toBool]
  by_cases htable : f.mountTable
  · have hpaths : (if !f.pathIsDevice && v.isRawBlockVolume && decide (0 < staged.mounts) then
        getDiskPathFromBindDeviceFilePath v f staged else getDiskPathFromMountPath v f staged) =
        .error (if !f.pathIsDevice && v.isRawBlockVolume then "findmnt failed"
          else "error listing mount points") := by
      by_cases hraw : !f.pathIsDevice && v.isRawBlockVolume
      · simp [hraw, getDiskPathFromBindDeviceFilePath, htable]
      · simp [hraw, getDiskPathFromMountPath, htable]
    simp only [nodeUnstageVolume, hid, hpath, hlock, hpaths]
    simp [htable, Except.isOk, Except.toBool]
  by_cases hraw : v.isRawBlockVolume
  · by_cases hdevice : f.pathIsDevice
    · simp [nodeUnstageVolume, getDiskPathFromMountPath, hid, hpath, hlock, htable, hraw, hdevice,
        Except.isOk, Except.toBool]
    · have hdisk : f.diskByPath := by
        simpa [ReachesUnmount, hlock, htable, hraw, hdevice] using hreaches
      simp [nodeUnstageVolume, getDiskPathFromBindDeviceFilePath, diskByPathsForMountPoint, hid,
        hpath, hlock, htable, hraw, hdevice, hdisk, Except.map, Except.isOk, Except.toBool]
  · by_cases hdisk : f.diskByPath
    · simp [nodeUnstageVolume, getDiskPathFromMountPath, diskByPathsForMountPoint, hid, hpath,
        hlock, htable, hraw, hdisk, hiscsi, Except.map, Except.isOk, Except.toBool]
    · have hopened : f.deviceOpened := by
        simpa [ReachesUnmount, hlock, htable, hraw, hdisk] using hreaches
      simp [nodeUnstageVolume, getDiskPathFromMountPath, diskByPathsForMountPoint, deviceOpened,
        hid, hpath, hlock, htable, hraw, hdisk, hopened, hiscsi, Except.map, Except.isOk,
        Except.toBool]

omit hid hpath in
/-- What is done from the unmount on: nothing, everything, or a part after which the volume is
neither staged nor released. -/
theorem releaseDevice_staged :
    ((f.pathExists ∨ f.isMountPoint ∨ f.unmount = .failure) →
      ∃ err, releaseDevice v f staged = (.error err, staged)) ∧
    (¬(f.pathExists ∨ f.isMountPoint ∨ f.unmount = .failure) →
      (releaseDevice v f staged).2.mounts = 0 ∧
      (Completes f → Released (releaseDevice v f staged).2) ∧
      (¬Completes f → ¬Released (releaseDevice v f staged).2)) := by
  constructor
  · intro hstops
    obtain ⟨err, herr⟩ := unmountPath_of_stops hstops
    exact ⟨err, by simp [releaseDevice, herr, andThen]⟩
  · intro hstops
    obtain ⟨pathExists, hunmount⟩ := unmountPath_of_not_stops hstops
    rw [releaseDevice, hunmount, Completes]
    cases houtcome : f.unmount with
    | failure => simp [andThen, Released, staged]
    | failureAfterEffect => simp [andThen, Released, staged]
    | success =>
      cases hlogout : f.logout <;> cases hremove : f.removeFromDB <;>
        simp [andThen, logout, removeFromDB, command, hiscsi, hlogout, hremove, Released, staged]

/-- A harmless call on a staged volume leaves it staged without reporting success, or
releases it. -/
theorem unstage_of_harmless (hf : Harmless v f) :
    ((nodeUnstageVolume v f req staged).1.isOk = false ∧
      (nodeUnstageVolume v f req staged).2 = staged) ∨
    Released (nodeUnstageVolume v f req staged).2 := by
  obtain ⟨hdevice, hf⟩ := hf
  by_cases hreaches : ReachesUnmount v f
  · rw [nodeUnstageVolume_of_reaches hid hpath hreaches]
    obtain ⟨hstops, hgoes⟩ := @releaseDevice_staged v f hiscsi
    by_cases hstop : f.pathExists ∨ f.isMountPoint ∨ f.unmount = .failure
    · obtain ⟨err, herr⟩ := hstops hstop
      rw [herr]
      exact .inl ⟨rfl, rfl⟩
    · right
      refine (hgoes hstop).2.1 (hf.resolve_left fun hearly => ?_)
      obtain ⟨hlock, htable, hdisk, hopened, -⟩ := hreaches
      rcases hearly with h | h | h | ⟨hraw, h⟩ | h
      · exact hlock h
      · exact htable h
      · exact hdisk h
      · exact hopened.elim hraw (absurd h)
      · exact hstop h
  · obtain ⟨hsame, hok⟩ := nodeUnstageVolume_of_not_reaches hiscsi hid hpath hreaches
    refine .inl ⟨?_, hsame⟩
    rw [Bool.eq_false_iff, ne_eq, hok]
    rintro ⟨hraw, hfails, hlock, htable⟩
    exact (hdevice ⟨hraw, hfails⟩).elim hlock htable

/-- Before a success the volume is staged or released, and afterwards it is released. -/
def RunInv (st : Bool × Host) : Prop := (st.1 = false ∧ st.2 = staged) ∨ Released st.2

theorem runInv_unstage (hf : Harmless v f) {st : Bool × Host} (hst : RunInv st) :
    RunInv (unstage v req st f) := by
  rcases hst with ⟨hno, hstaged⟩ | hreleased
  · unfold RunInv unstage
    rw [hno, hstaged, Bool.false_or]
    exact unstage_of_harmless hiscsi hid hpath hf
  · right
    unfold unstage
    rw [(nodeUnstageVolume_of_no_mountPoint hid hpath (.inl hreleased.1)).1]
    exact hreleased

theorem runInv_foldl {faults : List Faults} (hfaults : ∀ f ∈ faults, Harmless v f)
    {st : Bool × Host} (hst : RunInv st) :
    RunInv (faults.foldl (unstage v req) st) :=
  List.foldlRecOn _ _ hst fun _ hst f hf => runInv_unstage hiscsi hid hpath (hfaults f hf) hst

/-- Faults that are not harmless do harm in a run of at most two calls. -/
theorem harmless_of_releases (h₁ : ReleasesDevice v req [f])
    (h₂ : ReleasesDevice v req [f, f]) : Harmless v f := by
  by_cases hreaches : ReachesUnmount v f
  · obtain ⟨hlock, htable, hdisk, hopened, hdevice⟩ := id hreaches
    refine ⟨fun h => absurd h hdevice, ?_⟩
    by_contra hno
    rw [not_or] at hno
    obtain ⟨hstops, hcompletes⟩ := hno
    obtain ⟨hmounts, -, hhalf⟩ := (@releaseDevice_staged v f hiscsi).2 fun h =>
      hstops (.inr (.inr (.inr (.inr h))))
    have hfirst := nodeUnstageVolume_of_reaches hid hpath hreaches
    -- the second call finds no mount point and reports success
    obtain ⟨hsame, hok⟩ := @nodeUnstageVolume_of_no_mountPoint v f req
      (releaseDevice v f staged).2 hid hpath (.inl hmounts)
    refine hhalf hcompletes ?_
    have hreleased : Released (nodeUnstageVolume v f req
        (nodeUnstageVolume v f req staged).2).2 := by
      apply h₂
      change (_ || (nodeUnstageVolume v f req (nodeUnstageVolume v f req staged).2).1.isOk) = true
      rw [hfirst]
      change (_ || (nodeUnstageVolume v f req (releaseDevice v f staged).2).1.isOk) = true
      rw [hok]
      simp [hlock, htable]
    rw [hfirst] at hreleased
    change Released (nodeUnstageVolume v f req (releaseDevice v f staged).2).2 at hreleased
    rwa [hsame] at hreleased
  · obtain ⟨hsame, hok⟩ := nodeUnstageVolume_of_not_reaches hiscsi hid hpath hreaches
    have hnot : ¬(nodeUnstageVolume v f req staged).1.isOk := by
      intro hsuccess
      have hreleased : Released (nodeUnstageVolume v f req staged).2 := by
        apply h₁
        change (false || (nodeUnstageVolume v f req staged).1.isOk) = true
        rw [hsuccess, Bool.or_true]
      rw [hsame] at hreleased
      exact absurd hreleased (by decide)
    rw [hok] at hnot
    have hdevice : v.isRawBlockVolume ∧ f.pathIsDevice → f.lock ∨ f.mountTable := by
      rintro ⟨hraw, hfails⟩
      by_contra hno
      rw [not_or] at hno
      exact hnot ⟨hraw, hfails, hno⟩
    refine ⟨hdevice, .inl ?_⟩
    by_contra hstops
    simp only [StopsBeforeUnmount, not_or] at hstops
    obtain ⟨hlock, htable, hdisk, hopened, -⟩ := hstops
    refine hreaches ⟨hlock, htable, hdisk, ?_, fun h => (hdevice h).elim hlock htable⟩
    by_cases hraw : v.isRawBlockVolume
    · exact .inl hraw
    · exact .inr fun h => hopened ⟨hraw, h⟩

end Calls

/-- If the faults of the calls are among `F`, a success means that the device is released in
every run, exactly if all of them are harmless. -/
theorem releasesDevice_iff_harmless (hiscsi : v.attachmentType = .iscsi)
    (hid : req.volumeId ≠ "") (hpath : req.stagingTargetPath ≠ "") (F : Set Faults) :
    (∀ faults : List Faults, (∀ f ∈ faults, f ∈ F) → ReleasesDevice v req faults) ↔
      ∀ f ∈ F, Harmless v f := by
  constructor
  · intro h f hf
    exact harmless_of_releases hiscsi hid hpath (h [f] (by simpa using hf))
      (h [f, f] (by simpa using hf))
  · intro h faults hfaults hsuccess
    have hinv : RunInv (faults.foldl (unstage v req) (false, staged)) :=
      runInv_foldl hiscsi hid hpath (fun f hf => h f (hfaults f hf)) (.inl ⟨rfl, rfl⟩)
    rcases hinv with ⟨hno, -⟩ | hreleased
    · rw [hno] at hsuccess
      cases hsuccess
    · exact hreleased

/-- Without faults, or with ones that stop a call before the unmount, retries are safe. -/
theorem releasesDevice_busyMount :
    ReleasesDevice ⟨.iscsi, false⟩ ⟨"volume", "/staging"⟩ [{ unmount := .failure }, {}] := by
  refine (releasesDevice_iff_harmless rfl (by decide) (by decide)
    {f | Harmless ⟨.iscsi, false⟩ f}).mpr (fun f hf => hf) _ ?_
  intro f hf
  rcases List.mem_cons.mp hf with rfl | hf
  · exact ⟨by simp, .inl (by simp [StopsBeforeUnmount])⟩
  · obtain rfl := List.mem_singleton.mp hf
    exact ⟨by simp, .inr ⟨rfl, rfl, by decide⟩⟩

/-- The logout fails in the first call; the second one finds no mount point, reports success,
and leaves the session and its record. -/
theorem failedLogout_not_releasesDevice :
    ¬ReleasesDevice ⟨.iscsi, false⟩ ⟨"volume", "/staging"⟩ [{ logout := .failure }, {}] := by
  intro h
  exact absurd (h rfl) (by decide)

end Steps

end OciCcm.Csi
