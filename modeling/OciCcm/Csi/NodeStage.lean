import OciCcm.Csi.BlockVolume
import OciCcm.Csi.NodeUnstage
import OciCcm.Go.Net

/-! # Staging a block volume

`NodeStageVolume` logs in to the target of a volume and mounts its device at the
staging path. A file system that is mounted there already is left alone. For a
raw block volume the device is bound to a file in the staging path, and nothing
asks whether it is bound already, so every call binds it once more.
-/

namespace OciCcm.Csi

open Go Net List

/-! ## Requests and the node -/

/-- How the volume is accessed. -/
inductive AccessType where
  | block
  | mount (fsType : String)
deriving DecidableEq, Repr

structure NodeStageVolumeRequest where
  volumeId : String
  publishContext : GoMap String
  stagingTargetPath : String
  volumeCapability : Option AccessType

namespace NodeStageVolumeRequest

variable (req : NodeStageVolumeRequest)

def isRawBlockVolume : Bool := req.volumeCapability = some .block

def fsType : String :=
  match req.volumeCapability with
  | some (.mount fsType) => fsType
  | _ => ""

/-- The file that the device of a raw block volume is bound to. -/
def stagingTargetFilePath : String := req.stagingTargetPath ++ "/mountfile"

/-- Where the device is mounted. -/
def targetPath : String :=
  if req.isRawBlockVolume then req.stagingTargetFilePath else req.stagingTargetPath

def attachment : String := (req.publishContext.lookup "attachment-type").getD "iscsi"

end NodeStageVolumeRequest

/-- An entry of the mount table. -/
structure MountPoint where
  device : String
  path : String
deriving DecidableEq, Repr

/-- The mount table, with the oldest entry first, and what the node has for the volume. -/
structure Node where
  mountTable : List MountPoint
  pathExists : Bool
  loggedIn : Bool
  nodeRecord : Bool
deriving DecidableEq, Repr

/-- The node as `NodeUnstageVolume` sees it. -/
def Node.host (node : Node) (path : String) : Host where
  mounts := node.mountTable.countP (·.path = path)
  pathExists := node.pathExists
  loggedIn := node.loggedIn
  nodeRecord := node.nodeRecord

structure BlockVolumeNodeDriver where
  preferredNodeIpFamily : String := ""

/-- What the node answers in one call. An error is given by its text. -/
structure StageAnswers where
  /-- Another operation on the volume holds the lock. -/
  lock : Bool := false
  /-- The multipath devices cannot be read from the context. -/
  multipathDevices : Bool := false
  getMultipathIscsiDevicePath : Except String String := .ok ""
  /-- An error of the check for a mount point, other than that the path does not exist. -/
  isLikelyNotMountPoint : Option String := none
  getIscsiDevicePath : Except String String := .ok ""
  evalSymlinks : String → Except String String := .ok
  listMounts : Option String := none
  addToDB : Outcome := .success
  updateQueueDepth : Outcome := .success
  setAutomaticLogin : Outcome := .success
  login : Outcome := .success
  waitForDevicePathToExist : Except String String := .ok ""
  waitForVolumeLoginOrTimeout : Option String := none
  waitForPathToExist : Bool := true
  logout : Outcome := .success
  removeFromDB : Outcome := .success
  createFilePath : Option String := none
  /-- An error of the look at the staging path, other than that it does not exist. -/
  stat : Option String := none
  mkdirAll : Option String := none
  getDiskFormat : Except String String := .ok ""
  mount : Outcome := .success
  /-- The name that a device has in the mount table. -/
  deviceName : String → String := id

/-! ## Steps -/

/-- A part of the call, which may fail and leaves the node as it then is. -/
def Stage (α : Type) := Node → Except Status α × Node

namespace Stage

variable {α β : Type}

instance : Monad Stage where
  pure a := fun node => (.ok a, node)
  bind x f := fun node =>
    match x node with
    | (.error status, node) => (.error status, node)
    | (.ok a, node) => f a node

def fail (status : Status) : Stage α := fun node => (.error status, node)

def update (f : Node → Node) : Stage Unit := fun node => (.ok (), f node)

/-- `post` holds of the result and of the node that a part leaves, if the part succeeds. -/
def Ensures (x : Stage α) (node : Node) (post : α → Node → Prop) : Prop :=
  ∀ a node', x node = (.ok a, node') → post a node'

namespace Ensures

variable {node : Node} {x : Stage α} {post post' : α → Node → Prop}

theorem pure {a : α} (h : post a node) : Ensures (Pure.pure a) node post := by
  rintro _ _ ⟨⟩
  exact h

theorem fail {status : Status} : Ensures (Stage.fail status) node post := nofun

theorem update {f : Node → Node} {post : Unit → Node → Prop} (h : post () (f node)) :
    Ensures (Stage.update f) node post := by
  rintro _ _ ⟨⟩
  exact h

theorem mono (h : Ensures x node post) (hpost : ∀ a node', post a node' → post' a node') :
    Ensures x node post' :=
  fun a node' heq => hpost a node' (h a node' heq)

theorem bind {f : α → Stage β} {post : β → Node → Prop}
    (h : Ensures x node fun a node₁ => Ensures (f a) node₁ post) : Ensures (x >>= f) node post := by
  intro b node' heq
  simp only [Bind.bind] at heq
  split at heq
  · cases heq
  · next a node₁ hx => exact h a node₁ hx b node' heq

end Ensures

end Stage

/-- The implementations of the interface `disk.Interface`, with the path of the device where it
is known from the start. -/
inductive MountHandler where
  | iSCSIMounter
  | iSCSIUHPMounter (devicePath : String)
  | pvMounter (devicePath : String)
deriving DecidableEq, Repr

def MountHandler.attachmentType : MountHandler → AttachmentType
  | iSCSIMounter => .iscsi
  | iSCSIUHPMounter _ => .multipathIscsi
  | pvMounter _ => .paravirtualized

variable (d : BlockVolumeNodeDriver) (a : StageAnswers) (req : NodeStageVolumeRequest)

def convertIscsiIpFromIpv4ToIpv6 (ipv4IscsiIp : String) : Except String Unit :=
  if (parseIP ipv4IscsiIp).any IP.isTo4 then .ok ()
  else .error ("invalid iSCSIIp identified " ++ ipv4IscsiIp)

def extractISCSIInformation : Except String String :=
  match req.publishContext.lookup "iscci_iqn" with
  | none => .error "unable to get the IQN from the attribute list"
  | some _ =>
    match req.publishContext.lookup "iscsi_ip" with
    | none => .error "unable to get the iSCSIIp from the attribute list"
    | some iSCSIIp =>
      match req.publishContext.lookup "iscsi_port" with
      | none => .error "unable to get the port from the attribute list"
      | some port =>
        if (parseInt port).isNone then .error ("invalid port number: " ++ port)
        else .ok iSCSIIp

def getMultipathDevicesFromReq : Except String Unit :=
  if a.multipathDevices then
    .error "rpc error: code = Internal desc = Failed to get multipath devices from publish context."
  else if (parseInt ((req.publishContext.lookup "iscsi_port").getD "")).isNone then
    .error "rpc error: code = Internal desc = Invalid port number received for iscsi session"
  else .ok ()

/-- Is multipath enabled for the volume? -/
def multipathEnabledVolume : Except Status Bool :=
  let value := (req.publishContext.lookup "multipathEnabled").getD ""
  if value = "" then .ok false
  else match parseBool value with
    | some enabled => .ok enabled
    | none => .error ⟨.internal, "failed to determine if volume is multipath enabled: " ++
        "strconv.ParseBool: parsing \"" ++ value ++ "\": invalid syntax"⟩

/-- The checks before the lock is taken. -/
def mountHandler : Except Status MountHandler :=
  if req.volumeId = "" then .error ⟨.invalidArgument, "Volume ID must be provided"⟩
  else if req.publishContext.toPairs = [] then
    .error ⟨.invalidArgument, "PublishContext must be provided"⟩
  else if req.stagingTargetPath = "" then
    .error ⟨.invalidArgument, "Staging Target Path must be provided"⟩
  else if req.volumeCapability = none then
    .error ⟨.invalidArgument, "Volume Capability must be provided"⟩
  else do
    let multipathEnabled ← multipathEnabledVolume req
    if req.attachment = "iscsi" then
      if multipathEnabled then
        (getMultipathDevicesFromReq a req).mapError fun err => ⟨.internal,
          "Failed to get multipath device list for multipath enabled volume: " ++ err⟩
        let devicePath ← a.getMultipathIscsiDevicePath.mapError fun err => ⟨.internal,
          "Failed to get device path for multipath enabled volume: " ++ err⟩
        .ok (.iSCSIUHPMounter devicePath)
      else
        let iscsiIp ← (extractISCSIInformation req).mapError fun err =>
          ⟨.invalidArgument, "PublishContext is invalid: " ++ err⟩
        if equalFold d.preferredNodeIpFamily "IPv6" then
          (convertIscsiIpFromIpv4ToIpv6 iscsiIp).mapError fun err =>
            ⟨.internal, "Failed get ipv6 address for Iscsi Target: " ++ err⟩
        .ok .iSCSIMounter
    else if req.attachment = "paravirtualized" then
      match req.publishContext.lookup "device" with
      | none => .error ⟨.invalidArgument, "Unable to get the device from the attribute list"⟩
      | some devicePath => .ok (.pvMounter devicePath)
    else .error ⟨.invalidArgument, "unknown attachment type. supported attachment types are " ++
      "iscsi and paravirtualized"⟩

/-- The device that is expected at the staging path. -/
def resolvedDevicePath : MountHandler → Except String String
  | .iSCSIMounter =>
    match a.getIscsiDevicePath with
    | .error err =>
      if contains err "No such file or directory" then .error ("ISCSI login not complete for " ++
        "volume but staging path is a mount point, mapped to wrong device")
      else .error "failed to find /dev/disk/by-path path for volume"
    | .ok diskByPath => (a.evalSymlinks diskByPath).mapError fun err =>
      "failed to resolve symlink for /dev/disk/by-path path " ++ diskByPath ++ ": " ++ err
  | .iSCSIUHPMounter devicePath => .ok devicePath
  | .pvMounter devicePath => (a.evalSymlinks devicePath).mapError fun err =>
    "failed to resolve symlink for consistent device path " ++ devicePath ++ ": " ++ err

/-- The first entry for the path decides. -/
def isMounted (handler : MountHandler) (targetPath : String) (node : Node) : Except String Bool :=
  match a.isLikelyNotMountPoint with
  | some err => .error ("failed to check if " ++ targetPath ++ " is a mount point: " ++ err)
  | none =>
    if !node.pathExists || !node.mountTable.any (·.path = targetPath) then .ok false
    else do
      let device ← resolvedDevicePath a handler
      match a.listMounts with
      | some err => .error ("could not list mount points: " ++ err)
      | none =>
        match node.mountTable.find? (·.path = targetPath) with
        | none => .ok false
        | some m =>
          if m.device = device then .ok true
          else .error ("expected device " ++ device ++ " but found " ++ m.device ++
            " mounted at " ++ targetPath)

/-- A raw block volume is never taken for mounted. -/
def alreadyMounted (handler : MountHandler) : Stage Bool := fun node =>
  if req.isRawBlockVolume then (.ok false, node)
  else ((isMounted a handler req.stagingTargetPath node).mapError (⟨.internal, ·⟩), node)

/-- A command that only volumes attached by iSCSI without multipath need. -/
def iscsiadm (handler : MountHandler) (outcome : Outcome) (effect : Node → Node) (msg : String) :
    Stage (Except String Unit) := fun node =>
  if handler = .iSCSIMounter then
    match outcome with
    | .success => (.ok (.ok ()), effect node)
    | .failure => (.ok (.error msg), node)
    | .failureAfterEffect => (.ok (.error msg), effect node)
  else (.ok (.ok ()), node)

/-- The error of a step as a status. -/
def orInternal (step : Stage (Except String Unit)) : Stage Unit := do
  match ← step with
  | .error err => .fail ⟨.internal, err⟩
  | .ok () => pure ()

def iSCSILogoutOnFailure (handler : MountHandler) : Stage (Except String Unit) := do
  let loggedOut ← iscsiadm handler a.logout (fun node => { node with loggedIn := false })
    "rpc error: code = Internal desc = iscsi: error logging out target"
  match loggedOut with
  | .error err => pure (.error err)
  | .ok () =>
    iscsiadm handler a.removeFromDB (fun node => { node with nodeRecord := false })
      "rpc error: code = Internal desc = iscsi: error removing target from database"

/-- A failure after the login. -/
def failAndLogout {α : Type} (handler : MountHandler) (message : String) (status : Status) :
    Stage α := do
  match ← iSCSILogoutOnFailure a handler with
  | .error err => .fail ⟨.internal, message ++ err⟩
  | .ok () => .fail status

/-- The path of the device after the login. -/
def devicePath (handler : MountHandler) : Stage String :=
  match handler with
  | .iSCSIMounter =>
    match a.waitForDevicePathToExist with
    | .ok path => pure path
    | .error _ => failAndLogout a handler
      "Failed to iscsi logout after timeout on waiting for device path to exist: "
      ⟨.invalidArgument, "Failed to get device path for iscsi volume"⟩
  | .iSCSIUHPMounter path =>
    match a.waitForVolumeLoginOrTimeout with
    | some err => .fail ⟨.internal, err⟩
    | none => pure path
  | .pvMounter path =>
    if a.waitForPathToExist then pure path
    else .fail ⟨.deadlineExceeded, "Failed to wait for device to exist."⟩

def higherPerformanceOption : Int := 20

def updateQueueDepth (handler : MountHandler) (vpusPerGB : Int) : Stage Unit :=
  if vpusPerGB = higherPerformanceOption then
    orInternal (iscsiadm handler a.updateQueueDepth id "iscsi: error updating queue depth in target")
  else pure ()

/-- The steps that make the device available. -/
def login (handler : MountHandler) : Stage String := do
  orInternal (iscsiadm handler a.addToDB (fun node => { node with nodeRecord := true })
    "iscsi: error adding node record to db")
  match BlockVolume.extractBlockVolumePerformanceLevel
      ((req.publishContext.lookup "vpusPerGB").getD "10") with
  | .error err => .fail ⟨.invalidArgument, BlockVolume.statusText err⟩
  | .ok vpusPerGB =>
    updateQueueDepth a handler vpusPerGB
    orInternal (iscsiadm handler a.setAutomaticLogin id
      "iscsi: error configuring automatic node login")
    orInternal (iscsiadm handler a.login (fun node => { node with loggedIn := true })
      "iscsi: error logging in target")
    devicePath a handler

/-- A mount adds an entry to the mount table. -/
def mountDevice (handler : MountHandler) (source target : String) : Stage Unit :=
  let mounted : Stage Unit := .update fun node =>
    { node with mountTable := node.mountTable ++ [⟨a.deviceName source, target⟩] }
  let failed : Stage Unit := failAndLogout a handler
    "Failed to iscsi logout after mount failure: " ⟨.internal, "mount failed"⟩
  match a.mount with
  | .success => mounted
  | .failure => failed
  | .failureAfterEffect => do
    mounted
    failed

/-- A failure to create the file ends the driver. -/
def bindDevice (handler : MountHandler) (source : String) : Stage Unit :=
  match a.createFilePath with
  | some err =>
    failAndLogout a handler "Failed to iscsi logout after mount failure: " ⟨.internal, err⟩
  | none => do
    .update fun node => { node with pathExists := true }
    mountDevice a handler source req.stagingTargetFilePath

def validateFsType (fsType : String) : String :=
  if fsType = "ext4" ∨ fsType = "ext3" ∨ fsType = "xfs" then fsType else "ext4"

/-- The staging path is created if it does not exist. -/
def createStagingTargetPath (handler : MountHandler) : Stage Unit := fun node =>
  if node.pathExists then (.ok (), node)
  else match a.mkdirAll with
    | some _ => failAndLogout a handler
      "Failed to iscsi logout after failure to create StagingTargetPath directory: "
      ⟨.internal, "Failed to create StagingTargetPath directory"⟩ node
    | none => (.ok (), { node with pathExists := true })

/-- A format that cannot be found out counts as none. -/
def formatAndMount (handler : MountHandler) (source fsType : String) : Stage Unit :=
  let existingFs := a.getDiskFormat.toOption.getD ""
  match a.stat with
  | some _ =>
    failAndLogout a handler "Failed to iscsi logout after failure to check if staging path exists: "
      ⟨.internal, "failed to check if stagingTargetPath \"" ++ req.stagingTargetPath ++ "\" exists"⟩
  | none => do
    createStagingTargetPath a handler
    if existingFs ≠ "" ∧ existingFs ≠ fsType then
      failAndLogout a handler "Failed to iscsi logout after failure due to FS Type mismatch: "
        ⟨.internal, "FS Type mismatch detected. The existing fs type on the volume: \"" ++
          existingFs ++ "\" doesn't match the requested fs type: \"" ++ fsType ++
          "\". Please change fs type in PV to match the existing fs type."⟩
    else mountDevice a handler source req.stagingTargetPath

def nodeStageVolume : Stage Unit :=
  match mountHandler d a req with
  | .error status => .fail status
  | .ok handler => do
    if a.lock then
      .fail ⟨.aborted, "An operation for the volume: " ++ req.volumeId ++ " already exists."⟩
    else if ← alreadyMounted a req handler then pure ()
    else
      let source ← login a req handler
      if req.isRawBlockVolume then bindDevice a req handler source
      else formatAndMount a req handler source (validateFsType req.fsType)

/-! ## Calls that succeed -/

section Succeeds

variable {d a req} {handler : MountHandler} {node node' : Node}

theorem ensures_failAndLogout {α : Type} {message : String} {status : Status}
    {post : α → Node → Prop} : (failAndLogout a handler message status).Ensures node post := by
  refine .bind fun result node₁ _ => ?_
  cases result <;> exact .fail

theorem ensures_iscsiadm {outcome : Outcome} {effect : Node → Node} {msg : String} :
    (orInternal (iscsiadm handler outcome effect msg)).Ensures node fun _ node' =>
      node' = if handler = .iSCSIMounter then effect node else node := by
  refine .bind fun result node₁ hstep => ?_
  unfold iscsiadm at hstep
  by_cases hiscsi : handler = .iSCSIMounter
  · rw [if_pos hiscsi] at hstep ⊢
    cases outcome <;> cases hstep
    · exact .pure rfl
    · exact .fail
    · exact .fail
  · rw [if_neg hiscsi] at hstep ⊢
    cases hstep
    exact .pure rfl

theorem ensures_devicePath : (devicePath a handler).Ensures node fun _ node' => node' = node := by
  unfold devicePath
  split
  · split
    · exact .pure rfl
    · exact ensures_failAndLogout
  · split
    · exact .fail
    · exact .pure rfl
  · split
    · exact .pure rfl
    · exact .fail

theorem ensures_updateQueueDepth {vpusPerGB : Int} :
    (updateQueueDepth a handler vpusPerGB).Ensures node fun _ node' => node' = node := by
  unfold updateQueueDepth
  split
  · exact ensures_iscsiadm.mono fun _ _ h => h.trans (ite_self node)
  · exact .pure rfl

theorem ensures_login : (login a req handler).Ensures node fun _ node' =>
    node'.mountTable = node.mountTable ∧ (handler = .iSCSIMounter → node'.loggedIn) := by
  refine .bind (ensures_iscsiadm.mono fun _ node₁ hadd => ?_)
  split
  · exact .fail
  refine .bind (ensures_updateQueueDepth.mono fun _ node₂ hqueue => ?_)
  refine .bind (ensures_iscsiadm.mono fun _ node₃ hauto => ?_)
  refine .bind (ensures_iscsiadm.mono fun _ node₄ hlogin => ?_)
  refine ensures_devicePath.mono fun _ node₅ hdevice => ?_
  have hauto := hauto.trans (ite_self node₂)
  subst hdevice hqueue hauto
  by_cases hiscsi : handler = .iSCSIMounter
  · rw [if_pos hiscsi] at hadd hlogin
    subst hlogin hadd
    exact ⟨rfl, fun _ => rfl⟩
  · rw [if_neg hiscsi] at hadd hlogin
    subst hlogin hadd
    exact ⟨rfl, fun h => absurd h hiscsi⟩

theorem ensures_mountDevice {source target : String} :
    (mountDevice a handler source target).Ensures node fun _ node' =>
      node' = { node with mountTable := node.mountTable ++ [⟨a.deviceName source, target⟩] } := by
  unfold mountDevice
  dsimp only
  split
  · exact .update rfl
  · exact ensures_failAndLogout
  · exact .bind (.update ensures_failAndLogout)

/-- A call that mounts the device: there is one more entry in the mount table, and the path and
the device are there. -/
structure Mounts (req : NodeStageVolumeRequest) (handler : MountHandler) (node node' : Node) :
    Prop where
  mountTable : ∃ device, node'.mountTable = node.mountTable ++ [⟨device, req.targetPath⟩]
  pathExists : node'.pathExists
  loggedIn : handler = .iSCSIMounter → node'.loggedIn

theorem Mounts.of_mounted {node₁ : Node} {device target : String}
    (hlogin : node₁.mountTable = node.mountTable ∧ (handler = .iSCSIMounter → node₁.loggedIn))
    (htarget : req.targetPath = target)
    (hnode : node' = { node₁ with
      pathExists := true
      mountTable := node₁.mountTable ++ [⟨device, target⟩] }) :
    Mounts req handler node node' := by
  subst hnode
  exact ⟨⟨device, by rw [hlogin.1, htarget]⟩, rfl, hlogin.2⟩

theorem ensures_bindDevice {source : String} :
    (bindDevice a req handler source).Ensures node fun _ node' => node' = { node with
      pathExists := true
      mountTable := node.mountTable ++ [⟨a.deviceName source, req.stagingTargetFilePath⟩] } := by
  unfold bindDevice
  split
  · exact ensures_failAndLogout
  · exact .bind (.update ensures_mountDevice)

theorem ensures_createStagingTargetPath : (createStagingTargetPath a handler).Ensures node
    fun _ node' => node' = { node with pathExists := true } := by
  intro _ node' h
  unfold createStagingTargetPath at h
  split at h
  · next hexists =>
    cases h
    cases node
    cases hexists
    rfl
  · split at h
    · exact ((ensures_failAndLogout : Stage.Ensures _ _ fun _ _ => False) _ _ h).elim
    · cases h
      rfl

theorem ensures_formatAndMount {source fsType : String} :
    (formatAndMount a req handler source fsType).Ensures node fun _ node' => node' = { node with
      pathExists := true
      mountTable := node.mountTable ++ [⟨a.deviceName source, req.stagingTargetPath⟩] } := by
  unfold formatAndMount
  dsimp only
  split
  · exact ensures_failAndLogout
  refine .bind (ensures_createStagingTargetPath.mono ?_)
  rintro _ _ rfl
  split
  · exact ensures_failAndLogout
  · exact ensures_mountDevice

theorem isMounted_ok {targetPath : String} {mounted : Bool}
    (h : isMounted a handler targetPath node = .ok mounted) :
    mounted = (node.pathExists && node.mountTable.any (·.path = targetPath)) := by
  unfold isMounted at h
  split at h
  · cases h
  split at h
  · next hnot =>
    cases h
    rw [← Bool.not_and, Bool.not_eq_true'] at hnot
    exact hnot.symm
  · next hmount =>
    obtain ⟨device, -, h⟩ := bind_ok h
    split at h
    · cases h
    rw [← Bool.not_and, Bool.not_eq_true', Bool.not_eq_false] at hmount
    split at h
    · next hnone =>
      rw [Bool.and_eq_true, any_eq_true] at hmount
      obtain ⟨-, m, hm, hpath⟩ := hmount
      exact absurd hpath (List.find?_eq_none.mp hnone m hm)
    · split at h
      · cases h
        exact hmount.symm
      · cases h

/-- Is a file system mounted at the staging path? -/
def fileSystemMounted (req : NodeStageVolumeRequest) (node : Node) : Bool :=
  node.pathExists && node.mountTable.any (·.path = req.stagingTargetPath)

theorem ensures_alreadyMounted : (alreadyMounted a req handler).Ensures node fun mounted node' =>
    node' = node ∧ mounted = (!req.isRawBlockVolume && fileSystemMounted req node) := by
  intro mounted node' h
  unfold alreadyMounted at h
  split at h
  · next hraw =>
    cases h
    simp [hraw]
  · next hraw =>
    obtain ⟨hresult, rfl⟩ := Prod.mk.inj h
    refine ⟨rfl, ?_⟩
    cases hmounted : isMounted a handler req.stagingTargetPath node with
    | error err =>
      rw [hmounted] at hresult
      cases hresult
    | ok mounted' =>
      rw [hmounted] at hresult
      cases hresult
      rw [isMounted_ok hmounted, Bool.eq_false_iff.mpr hraw]
      rfl

/-- A call that succeeds has found the file system mounted and changes nothing, or it has not and
mounts the device. -/
theorem ensures_nodeStageVolume : (nodeStageVolume d a req).Ensures node fun _ node' =>
    ∃ handler, mountHandler d a req = .ok handler ∧
      (req.isRawBlockVolume = false ∧ fileSystemMounted req node ∧ node' = node ∨
        (req.isRawBlockVolume = false → fileSystemMounted req node = false) ∧
          Mounts req handler node node') := by
  unfold nodeStageVolume
  split
  · exact .fail
  next handler hhandler =>
  split
  · exact .fail
  refine .bind (ensures_alreadyMounted.mono ?_)
  rintro mounted node ⟨rfl, hmounted⟩
  cases mounted with
  | true =>
    rw [eq_comm, Bool.and_eq_true, Bool.not_eq_true'] at hmounted
    exact .pure ⟨handler, hhandler, .inl ⟨hmounted.1, hmounted.2, rfl⟩⟩
  | false =>
    refine .bind (ensures_login.mono fun source node₂ hlogin => ?_)
    have hnot : req.isRawBlockVolume = false → fileSystemMounted req node = false := by
      intro hraw
      rw [hraw] at hmounted
      exact hmounted.symm
    split
    · next hraw => exact ensures_bindDevice.mono fun _ _ h =>
        ⟨handler, hhandler, .inr ⟨hnot, .of_mounted hlogin (if_pos hraw) h⟩⟩
    · next hraw => exact ensures_formatAndMount.mono fun _ _ h =>
        ⟨handler, hhandler, .inr ⟨hnot, .of_mounted hlogin (if_neg hraw) h⟩⟩

end Succeeds

/-! ## Calls again -/

/-- Further calls, all of which succeed. -/
def stageAgain (node : Node) : List StageAnswers → Option Node
  | [] => some node
  | a :: as =>
    match nodeStageVolume d a req node with
    | (.ok (), node) => stageAgain node as
    | (.error _, _) => none

section Runs

variable {d a req} {node node₁ nodeₙ : Node} {as : List StageAnswers}

theorem exists_of_stageAgain_cons (h : stageAgain d req node (a :: as) = some nodeₙ) :
    ∃ node₁, nodeStageVolume d a req node = (.ok (), node₁) ∧
      stageAgain d req node₁ as = some nodeₙ := by
  rw [stageAgain] at h
  split at h
  · next node₁ hstage => exact ⟨node₁, hstage, h⟩
  · cases h

theorem fileSystemMounted_of_ok (hraw : req.isRawBlockVolume = false)
    (h : nodeStageVolume d a req node = (.ok (), node₁)) : fileSystemMounted req node₁ := by
  obtain ⟨handler, -, ⟨-, hmounted, rfl⟩ | ⟨-, hmounts⟩⟩ := ensures_nodeStageVolume _ _ h
  · exact hmounted
  · obtain ⟨device, htable⟩ := hmounts.mountTable
    have htarget : req.targetPath = req.stagingTargetPath := by
      rw [NodeStageVolumeRequest.targetPath, if_neg (Bool.eq_false_iff.mp hraw)]
    rw [fileSystemMounted, hmounts.pathExists, htable, htarget]
    simp

theorem eq_of_fileSystemMounted (hraw : req.isRawBlockVolume = false)
    (hmounted : fileSystemMounted req node) (h : nodeStageVolume d a req node = (.ok (), node₁)) :
    node₁ = node := by
  obtain ⟨handler, -, ⟨-, -, hnode⟩ | ⟨hnot, -⟩⟩ := ensures_nodeStageVolume _ _ h
  · exact hnode
  · rw [hnot hraw] at hmounted
    cases hmounted

theorem stageAgain_eq_of_fileSystemMounted (hraw : req.isRawBlockVolume = false)
    (hmounted : fileSystemMounted req node) (h : stageAgain d req node as = some nodeₙ) :
    nodeₙ = node := by
  induction as with
  | nil => exact (Option.some.inj h).symm
  | cons a as ih =>
    obtain ⟨node₁, hstage, h⟩ := exists_of_stageAgain_cons h
    rw [eq_of_fileSystemMounted hraw hmounted hstage] at h
    exact ih h

/-- Every call binds the device of a raw block volume once more. -/
theorem length_stageAgain (hraw : req.isRawBlockVolume)
    (h : stageAgain d req node as = some nodeₙ) :
    nodeₙ.mountTable.length = node.mountTable.length + as.length := by
  induction as generalizing node with
  | nil => rw [Option.some.inj h, length_nil, Nat.add_zero]
  | cons a as ih =>
    obtain ⟨node₁, hstage, h⟩ := exists_of_stageAgain_cons h
    obtain ⟨handler, -, ⟨hnot, -⟩ | ⟨-, hmounts⟩⟩ := ensures_nodeStageVolume _ _ hstage
    · rw [hraw] at hnot
      cases hnot
    · obtain ⟨device, htable⟩ := hmounts.mountTable
      rw [ih h, htable, length_append, length_singleton, length_cons]
      omega

end Runs

/-! ## Unstaging -/

section Unstage

variable {v : Volume} {f : Faults} {h : Host}

theorem mounts_unmountPath_of_ok (hmounts : h.mounts = 1) (hexists : h.pathExists)
    (hok : (unmountPath f h).1 = .ok ()) : (unmountPath f h).2.mounts = 0 := by
  simp only [unmountPath, hexists, hmounts] at hok ⊢
  by_cases hcheck : f.pathExists
  · simp [hcheck] at hok
  by_cases hmount : f.isMountPoint
  · simp [hcheck, hmount] at hok
  cases houtcome : f.unmount with
  | failure => simp [hcheck, hmount, houtcome] at hok
  | failureAfterEffect => simp [hcheck, hmount, houtcome] at hok
  | success =>
    by_cases hafter : f.isMountPointAfter
    · simp [hcheck, hmount, hafter]
    · by_cases hremove : f.remove
      · simp [hcheck, hmount, hafter, hremove]
      · simp [hcheck, hmount, hafter, hremove]

theorem mounts_andThen_of_ok {r : Except String Unit × Host} {next : Host → Except String Unit × Host}
    (hnext : ∀ h, (next h).2.mounts = h.mounts) (hok : (andThen r next).1 = .ok ()) :
    r.1 = .ok () ∧ (andThen r next).2.mounts = r.2.mounts := by
  obtain ⟨result, h⟩ := r
  cases result with
  | error err => cases hok
  | ok _ => exact ⟨rfl, hnext h⟩

theorem mounts_logout (h : Host) : (logout v f h).2.mounts = h.mounts := by
  unfold logout
  split
  · cases f.logout <;> rfl
  · rfl

theorem mounts_removeFromDB (h : Host) : (removeFromDB v f h).2.mounts = h.mounts := by
  unfold removeFromDB
  split
  · cases f.removeFromDB <;> rfl
  · rfl

theorem mounts_releaseDevice_of_ok (hmounts : h.mounts = 1) (hexists : h.pathExists)
    (hok : (releaseDevice v f h).1 = .ok ()) : (releaseDevice v f h).2.mounts = 0 := by
  obtain ⟨hlogout, hremoved⟩ := mounts_andThen_of_ok mounts_removeFromDB hok
  obtain ⟨hunmount, hloggedOut⟩ := mounts_andThen_of_ok mounts_logout hlogout
  exact (hremoved.trans hloggedOut).trans (mounts_unmountPath_of_ok hmounts hexists hunmount)

theorem exists_error_or_disk (hmounts : h.mounts = 1) :
    (∃ err, getDiskPathFromMountPath v f h = .error err) ∨
      v.isRawBlockVolume ∨ getDiskPathFromMountPath v f h = .ok (some ()) := by
  unfold getDiskPathFromMountPath
  split
  · exact .inl ⟨_, rfl⟩
  split
  · next hnone =>
    rw [hmounts] at hnone
    exact .inr (.inl (hnone.resolve_right Nat.one_ne_zero))
  split
  · exact .inr (.inr rfl)
  · cases diskByPathsForMountPoint v f h with
    | error err => exact .inl ⟨err, rfl⟩
    | ok _ => exact .inr (.inr rfl)

theorem getDiskPathFromBindDeviceFilePath_ne_none :
    getDiskPathFromBindDeviceFilePath v f h ≠ .ok none := by
  unfold getDiskPathFromBindDeviceFilePath
  split_ifs
  · exact fun h => nomatch h
  · exact fun h => nomatch h
  · cases diskByPathsForMountPoint v f h <;> exact fun h => nomatch h

theorem nodeUnstageVolume_of_ok {req : NodeUnstageVolumeRequest} (hmounts : h.mounts = 1)
    (hdevice : devicePresent v h) (hfile : v.isRawBlockVolume → ¬f.pathIsDevice)
    (hok : (nodeUnstageVolume v f req h).1.isOk) :
    nodeUnstageVolume v f req h = internal (releaseDevice v f h) := by
  by_cases hid : req.volumeId = ""
  · simp [nodeUnstageVolume, hid, Except.isOk, Except.toBool] at hok
  by_cases hpath : req.stagingTargetPath = ""
  · simp [nodeUnstageVolume, hid, hpath, Except.isOk, Except.toBool] at hok
  by_cases hlock : f.lock
  · simp [nodeUnstageVolume, hid, hpath, hlock, Except.isOk, Except.toBool] at hok
  by_cases hraw : v.isRawBlockVolume
  · have hisRaw : (!f.pathIsDevice && v.isRawBlockVolume && decide (0 < h.mounts)) = true := by
      simp [hfile hraw, hraw, hmounts]
    rcases hdisk : getDiskPathFromBindDeviceFilePath v f h with err | _ | _
    · simp [nodeUnstageVolume, hid, hpath, hlock, hisRaw, hdisk, Except.isOk, Except.toBool] at hok
    · exact absurd hdisk getDiskPathFromBindDeviceFilePath_ne_none
    · simp [nodeUnstageVolume, hid, hpath, hlock, hisRaw, hdisk]
  · have hisRaw : (!f.pathIsDevice && v.isRawBlockVolume && decide (0 < h.mounts)) = false := by
      simp [hraw]
    rcases @exists_error_or_disk v f h hmounts with ⟨err, hdisk⟩ | h' | hdisk
    · simp [nodeUnstageVolume, hid, hpath, hlock, hisRaw, hdisk, Except.isOk, Except.toBool] at hok
    · exact absurd h' hraw
    · by_cases hopened : f.deviceOpened
      · simp [nodeUnstageVolume, hid, hpath, hlock, hisRaw, hdisk, deviceOpened, hopened, Except.isOk,
          Except.toBool] at hok
      · simp [nodeUnstageVolume, hid, hpath, hlock, hraw, hdisk, deviceOpened, hopened, hdevice,
          hmounts]

theorem mounts_nodeUnstageVolume_of_ok {req : NodeUnstageVolumeRequest} (hmounts : h.mounts = 1)
    (hexists : h.pathExists) (hdevice : devicePresent v h)
    (hfile : v.isRawBlockVolume → ¬f.pathIsDevice)
    (hok : (nodeUnstageVolume v f req h).1.isOk) : (nodeUnstageVolume v f req h).2.mounts = 0 := by
  have hcall := nodeUnstageVolume_of_ok hmounts hdevice hfile hok
  rw [hcall] at hok ⊢
  refine mounts_releaseDevice_of_ok hmounts hexists ?_
  cases hresult : (releaseDevice v f h).1 with
  | ok _ => rfl
  | error err =>
    rw [internal, hresult] at hok
    cases hok

/-- A call for a volume that is mounted once leaves it unmounted when it succeeds, unless the device
file of a raw block volume is not recognised. -/
theorem unmounts_iff {req : NodeUnstageVolumeRequest} (hid : req.volumeId ≠ "")
    (hpath : req.stagingTargetPath ≠ "") (hmounts : h.mounts = 1) (hexists : h.pathExists)
    (hdevice : devicePresent v h) :
    ((nodeUnstageVolume v f req h).1.isOk → (nodeUnstageVolume v f req h).2.mounts = 0) ↔
      (v.isRawBlockVolume → f.pathIsDevice → f.lock ∨ f.mountTable) := by
  by_cases hfile : v.isRawBlockVolume ∧ f.pathIsDevice
  · obtain ⟨hsame, hok⟩ := @nodeUnstageVolume_of_no_mountPoint v f req h hid hpath (.inr hfile)
    rw [hsame, hok, hmounts]
    by_cases hlock : f.lock <;> simp [hfile, hlock]
  · have hfile : v.isRawBlockVolume → ¬f.pathIsDevice := fun hraw hfails => hfile ⟨hraw, hfails⟩
    exact iff_of_true (mounts_nodeUnstageVolume_of_ok hmounts hexists hdevice hfile)
      fun hraw hfails => absurd hfails (hfile hraw)

end Unstage

/-! ## Staging twice -/

section Twice

variable {d a req} {node node₁ nodeₙ : Node} {as : List StageAnswers}

theorem mountTable_stageAgain_eq_iff (hfirst : nodeStageVolume d a req node = (.ok (), node₁))
    (hagain : stageAgain d req node₁ as = some nodeₙ) :
    nodeₙ.mountTable = node₁.mountTable ↔ as = [] ∨ req.isRawBlockVolume = false := by
  by_cases hraw : req.isRawBlockVolume
  · constructor
    · intro htable
      have hlength := length_stageAgain hraw hagain
      rw [htable] at hlength
      exact .inl (length_eq_zero_iff.mp (by omega))
    · rintro (rfl | hnot)
      · rw [Option.some.inj hagain]
      · rw [hraw] at hnot
        cases hnot
  · have hraw : req.isRawBlockVolume = false := Bool.eq_false_iff.mpr hraw
    have hsame := stageAgain_eq_of_fileSystemMounted hraw (fileSystemMounted_of_ok hraw hfirst) hagain
    exact iff_of_true (congrArg Node.mountTable hsame) (.inr hraw)

/-- A first call mounts the device once. -/
theorem host_of_first {handler : MountHandler} (hhandler : mountHandler d a req = .ok handler)
    (hnone : ∀ m ∈ node.mountTable, m.path ≠ req.targetPath)
    (hfirst : nodeStageVolume d a req node = (.ok (), node₁)) :
    (node₁.host req.targetPath).mounts = 1 ∧ (node₁.host req.targetPath).pathExists ∧
      devicePresent ⟨handler.attachmentType, req.isRawBlockVolume⟩ (node₁.host req.targetPath) := by
  obtain ⟨handler', hhandler', ⟨hraw, hmounted, -⟩ | ⟨-, hmounts⟩⟩ := ensures_nodeStageVolume _ _ hfirst
  · -- the file system cannot be there before
    rw [NodeStageVolumeRequest.targetPath, if_neg (Bool.eq_false_iff.mp hraw)] at hnone
    rw [fileSystemMounted, Bool.and_eq_true, any_eq_true] at hmounted
    obtain ⟨-, m, hm, hpath⟩ := hmounted
    exact absurd (of_decide_eq_true hpath) (hnone m hm)
  · obtain rfl := Except.ok.inj (hhandler.symm.trans hhandler')
    obtain ⟨device, htable⟩ := hmounts.mountTable
    refine ⟨?_, hmounts.pathExists, ?_⟩
    · have hcount : node.mountTable.countP (·.path = req.targetPath) = 0 :=
        countP_eq_zero.mpr fun m hm => by simpa using hnone m hm
      rw [Node.host, htable, countP_append, hcount]
      simp
    · cases handler with
      | iSCSIMounter => exact (Bool.or_eq_true _ _).mpr (.inr (hmounts.loggedIn rfl))
      | iSCSIUHPMounter | pvMounter => rfl

/-- The mount table is as after the first call, and a call of `NodeUnstageVolume` that succeeds
leaves the volume unmounted. -/
def StagedOnce (v : Volume) (req : NodeStageVolumeRequest) (f : Faults) (node₁ nodeₙ : Node) :
    Prop :=
  let unstaged := nodeUnstageVolume v f ⟨req.volumeId, req.stagingTargetPath⟩
    (nodeₙ.host req.targetPath)
  nodeₙ.mountTable = node₁.mountTable ∧ (unstaged.1.isOk → unstaged.2.mounts = 0)

theorem request_of_mountHandler {handler : MountHandler} (h : mountHandler d a req = .ok handler) :
    req.volumeId ≠ "" ∧ req.stagingTargetPath ≠ "" := by
  unfold mountHandler at h
  split_ifs at h with hid _ hpath <;> exact ⟨hid, hpath⟩

/-- A volume that was not mounted is staged as if once, if and only if there is no further call or
the volume has a file system, and the device file of a raw block volume is recognised when it is
unstaged, unless that call ends before it looks for mount points. -/
theorem stagedOnce_iff (d : BlockVolumeNodeDriver) (req : NodeStageVolumeRequest)
    (a : StageAnswers) (as : List StageAnswers) (node node₁ nodeₙ : Node) (handler : MountHandler)
    (hhandler : mountHandler d a req = .ok handler)
    (hnone : ∀ m ∈ node.mountTable, m.path ≠ req.targetPath)
    (hfirst : nodeStageVolume d a req node = (.ok (), node₁))
    (hagain : stageAgain d req node₁ as = some nodeₙ) (f : Faults) :
    StagedOnce ⟨handler.attachmentType, req.isRawBlockVolume⟩ req f node₁ nodeₙ ↔
      (as = [] ∨ req.isRawBlockVolume = false) ∧
        (req.isRawBlockVolume → f.pathIsDevice → f.lock ∨ f.mountTable) := by
  have htable := mountTable_stageAgain_eq_iff hfirst hagain
  unfold StagedOnce
  dsimp only
  rw [htable]
  refine and_congr_right fun hcondition => ?_
  have hsame : nodeₙ = node₁ := by
    rcases hcondition with rfl | hraw
    · exact (Option.some.inj hagain).symm
    · exact stageAgain_eq_of_fileSystemMounted hraw (fileSystemMounted_of_ok hraw hfirst) hagain
  subst hsame
  obtain ⟨hid, hpath⟩ := request_of_mountHandler hhandler
  obtain ⟨hmounts, hexists, hdevice⟩ := host_of_first hhandler hnone hfirst
  exact unmounts_iff hid hpath hmounts hexists hdevice

end Twice

/-- A paravirtualized volume. -/
def paravirtualizedRequest (volumeCapability : AccessType) : NodeStageVolumeRequest where
  volumeId := "ocid1.volume.a"
  publishContext := GoMap.ofPairs
    [("attachment-type", "paravirtualized"), ("device", "/dev/oracleoci/oraclevdb")]
  stagingTargetPath := "/staging"
  volumeCapability := some volumeCapability

def emptyNode : Node where
  mountTable := []
  pathExists := false
  loggedIn := false
  nodeRecord := false

/-- The node after the volume is mounted. -/
def nodeWith (mountTable : List MountPoint) : Node where
  mountTable := mountTable
  pathExists := true
  loggedIn := false
  nodeRecord := false

/-- The file system of a volume is mounted once. It has no device file. -/
theorem stagedOnce_fileSystem :
    ∃ nodeₙ, stageAgain {} (paravirtualizedRequest (.mount "ext4"))
        (nodeWith [⟨"/dev/oracleoci/oraclevdb", "/staging"⟩]) [{}, {}] = some nodeₙ ∧
      StagedOnce ⟨.paravirtualized, false⟩ (paravirtualizedRequest (.mount "ext4"))
        { pathIsDevice := true } (nodeWith [⟨"/dev/oracleoci/oraclevdb", "/staging"⟩]) nodeₙ :=
  ⟨_, rfl, (stagedOnce_iff {} (paravirtualizedRequest (.mount "ext4")) {} [{}, {}] emptyNode _ _
    (.pvMounter "/dev/oracleoci/oraclevdb") rfl (forall_mem_nil _) rfl rfl _).mpr
      ⟨.inr rfl, fun h => nomatch h⟩⟩

/-- The device of a raw block volume is bound by both calls, so that a call of `NodeUnstageVolume`
finds two devices and leaves both. -/
theorem not_stagedOnce_rawBlock :
    nodeStageVolume {} {} (paravirtualizedRequest .block) emptyNode =
        (.ok (), nodeWith [⟨"/dev/oracleoci/oraclevdb", "/staging/mountfile"⟩]) ∧
      stageAgain {} (paravirtualizedRequest .block)
          (nodeWith [⟨"/dev/oracleoci/oraclevdb", "/staging/mountfile"⟩]) [{}] =
        some (nodeWith [⟨"/dev/oracleoci/oraclevdb", "/staging/mountfile"⟩,
          ⟨"/dev/oracleoci/oraclevdb", "/staging/mountfile"⟩]) ∧
      nodeUnstageVolume ⟨.paravirtualized, true⟩ {} ⟨"ocid1.volume.a", "/staging"⟩
          ((nodeWith [⟨"/dev/oracleoci/oraclevdb", "/staging/mountfile"⟩,
            ⟨"/dev/oracleoci/oraclevdb", "/staging/mountfile"⟩]).host "/staging/mountfile") =
        (.error ⟨.internal, "did not find exactly a single block device"⟩,
          ⟨2, true, false, false⟩) := by
  refine ⟨rfl, rfl, by decide⟩

end OciCcm.Csi
