import OciCcm.Client
import OciCcm.Csi.Status
import OciCcm.Go.Map
import OciCcm.Go.Pages
import OciCcm.Go.Strings

/-! # Block volumes and their snapshots

`CreateVolume` and `CreateSnapshot` of the block volume controller. Both look for
a volume or a backup with the requested name before they create one.
-/

namespace OciCcm.Csi.BlockVolume

open Client Go

/-! ## Requests -/

inductive AccessType where
  | block
  | mount
deriving DecidableEq, Repr

structure VolumeCapability where
  accessType : Option AccessType
  accessMode : AccessMode
deriving DecidableEq, Repr

structure CapacityRange where
  requiredBytes : Int
  limitBytes : Int
deriving DecidableEq, Repr

inductive VolumeContentSource where
  | snapshot (snapshotId : String)
  | volume (volumeId : String)
  /-- No type is set. -/
  | unset
deriving DecidableEq, Repr

/-- The segments of the preferred and of the requisite topologies. -/
structure TopologyRequirement where
  preferred : List (GoMap String) := []
  requisite : List (GoMap String) := []

structure CreateVolumeRequest where
  name : String
  volumeCapabilities : List VolumeCapability
  capacityRange : Option CapacityRange := none
  parameters : GoMap String := ∅
  volumeContentSource : Option VolumeContentSource := none
  accessibilityRequirements : Option TopologyRequirement := none

structure CreateSnapshotRequest where
  name : String
  sourceVolumeId : String
  parameters : GoMap String := ∅

structure BlockVolumeControllerDriver where
  compartmentID : String
  isIpv6SingleStackCluster : Bool := false
  /-- Can the text be read as free-form tags? -/
  unmarshalFreeformTags : String → Bool := fun _ => true
  unmarshalDefinedTags : String → Bool := fun _ => true

/-! ## The cloud -/

inductive VolumeLifecycleState where
  | provisioning
  | restoring
  | available
  | terminating
  | terminated
  | faulty
deriving DecidableEq, Repr

structure Volume where
  id : String
  lifecycleState : VolumeLifecycleState
  sizeInMBs : Int
  availabilityDomain : String
deriving DecidableEq, Repr

inductive VolumeBackupLifecycleState where
  | requestReceived
  | creating
  | available
  | terminating
  | terminated
  | faulty
deriving DecidableEq, Repr

structure VolumeBackup where
  id : String
  lifecycleState : VolumeBackupLifecycleState
  volumeId : Option String
  sizeInMBs : Int
deriving DecidableEq, Repr

/-- The answer to a call that creates something. A call that fails may have been accepted. -/
structure CreateAnswer (α : Type) where
  error : Option ClientError := none
  /-- Is the error about the system tags of the cluster? -/
  isSystemTagError : Bool := false
  accepted : Bool := false
  created : α

def CreateAnswer.creates {α : Type} (c : CreateAnswer α) : List α :=
  if c.error.isNone || c.accepted then [c.created] else []

/-- The answers to the calls of one `CreateVolume` request. -/
structure VolumeAnswers where
  /-- The size of the backup in MiB. -/
  getVolumeBackup : Except ClientError Int := .error .errNotFound
  getVolume : Except ClientError Volume := .error .errNotFound
  listVolumes : Pages.Server ClientError Volume
  getAvailabilityDomainByName : Except ClientError String := .ok ""
  create : CreateAnswer Volume
  /-- The answer to the call without system tags. -/
  createAgain : CreateAnswer Volume
  await : Option ClientError := none

/-- The answers to the calls of one `CreateSnapshot` request. -/
structure SnapshotAnswers where
  listVolumeBackups : Pages.Server ClientError VolumeBackup
  create : CreateAnswer VolumeBackup
  await : Option ClientError := none

/-! ## Finding by name -/

def isListedVolume (v : Volume) : Bool :=
  v.lifecycleState = .available || v.lifecycleState = .provisioning

/-- The volumes with the name, unless the listing goes on for ever. -/
def getVolumesByName (fuel : Nat) (a : VolumeAnswers) :
    Option (Except ClientError (List Volume)) :=
  (Pages.collect a.listVolumes isListedVolume fuel 0 none []).map Prod.fst

def isListedBackup (b : VolumeBackup) : Bool :=
  b.lifecycleState = .available || b.lifecycleState = .creating

def getVolumeBackupsByName (fuel : Nat) (a : SnapshotAnswers) :
    Option (Except ClientError (List VolumeBackup)) :=
  (Pages.collect a.listVolumeBackups isListedBackup fuel 0 none []).map Prod.fst

/-! ## Sizes -/

def KiB : Int := 1024

def MiB : Int := 1024 * KiB

def GiB : Int := 1024 * MiB

def TiB : Int := 1024 * GiB

def minimumVolumeSizeInBytes : Int := 50 * GiB

def maximumVolumeSizeInBytes : Int := 32 * TiB

def defaultVolumeSizeInBytes : Int := minimumVolumeSizeInBytes

/-- The size with one decimal place, which is left out if it is zero. -/
def formatBytes (inputBytes : Int) : String :=
  let unit : Int × String :=
    if TiB ≤ inputBytes then (TiB, "Ti") else if GiB ≤ inputBytes then (GiB, "Gi")
    else if MiB ≤ inputBytes then (MiB, "Mi") else if KiB ≤ inputBytes then (KiB, "Ki")
    else (1, "")
  let q := inputBytes * 10 / unit.1
  let r := inputBytes * 10 % unit.1
  let tenths := if unit.1 < 2 * r ∨ 2 * r = unit.1 ∧ q % 2 = 1 then q + 1 else q
  toString (tenths / 10) ++ (if tenths % 10 = 0 then "" else "." ++ toString (tenths % 10)) ++
    unit.2

def extractStorage (capRange : Option CapacityRange) : Except String Int :=
  match capRange with
  | none => .ok defaultVolumeSizeInBytes
  | some ⟨requiredBytes, limitBytes⟩ =>
    let requiredSet := 0 < requiredBytes
    let limitSet := 0 < limitBytes
    if ¬requiredSet ∧ ¬limitSet then .ok defaultVolumeSizeInBytes
    else if requiredSet ∧ limitSet ∧ limitBytes < requiredBytes then
      .error ("limit (" ++ formatBytes limitBytes ++ ") can not be less than required (" ++
        formatBytes requiredBytes ++ ") size")
    else if requiredSet ∧ ¬limitSet then .ok (max requiredBytes minimumVolumeSizeInBytes)
    else .ok (max limitBytes minimumVolumeSizeInBytes)
    -- the checks against the maximum that follow are never reached

/-! ## Parameters -/

structure VolumeParameters where
  diskEncryptionKey : String := ""
  attachmentType : String := ""
  vpusPerGB : Int := 10
deriving DecidableEq, Repr

def maxUltraHighPerformanceOption : Int := 120

def extractBlockVolumePerformanceLevel (level : String) : Except String Int :=
  match parseInt level with
  | none => .error ("unable to parse performance level value " ++ level ++ " as int64")
  | some vpusPerGB =>
    if vpusPerGB < 0 ∨ maxUltraHighPerformanceOption < vpusPerGB then
      .error ("invalid performance option : " ++ level ++ " provided  for storage class. " ++
        "Supported values for performance options are between 0 and " ++
        toString maxUltraHighPerformanceOption)
    else .ok vpusPerGB

/-- An error of gRPC as a text. -/
def statusText (desc : String) : String := "rpc error: code = InvalidArgument desc = " ++ desc

/-- One entry in `extractVolumeParameters`. The tags are only checked. -/
def volumeParameter (d : BlockVolumeControllerDriver) (p : VolumeParameters)
    (e : String × String) : Except String VolumeParameters :=
  if e.1 = "kms-key-id" then
    .ok (if e.2 ≠ "" then { p with diskEncryptionKey := e.2 } else p)
  else if e.1 = "attachment-type" then
    if toLower e.2 = "iscsi" ∨ toLower e.2 = "paravirtualized" then
      .ok { p with attachmentType := toLower e.2 }
    else .error ("invalid attachment-type: " ++ e.2 ++ " provided for storageclass. supported " ++
      "attachment-types are iscsi and paravirtualized")
  else if e.1 = "oci.oraclecloud.com/initial-freeform-tags-override" then
    if e.2 = "" ∨ d.unmarshalFreeformTags e.2 then .ok p
    else .error ("failed to parse freeform tags provided for storageclass. please check the " ++
      "parameters block on the storage class")
  else if e.1 = "oci.oraclecloud.com/initial-defined-tags-override" then
    if e.2 = "" ∨ d.unmarshalDefinedTags e.2 then .ok p
    else .error ("failed to parse defined tags provided for storageclass. please check the " ++
      "parameters block on the storage class")
  else if e.1 = "vpusPerGB" then
    (extractBlockVolumePerformanceLevel e.2).map fun vpusPerGB => { p with vpusPerGB := vpusPerGB }
  else .ok p

def extractVolumeParameters (d : BlockVolumeControllerDriver) (o : RangeOrder)
    (parameters : GoMap String) : Except String VolumeParameters :=
  ((o.range 0 parameters).foldlM (volumeParameter d) {}).mapError statusText

inductive BackupType where
  | incremental
  | full
deriving DecidableEq, Repr

/-- One entry in `extractSnapshotParameters`. -/
def snapshotParameter (d : BlockVolumeControllerDriver) (backupType : BackupType)
    (e : String × String) : Except String BackupType :=
  if e.1 = "backupType" then
    if toLower e.2 = "incremental" then .ok .incremental
    else if toLower e.2 = "full" then .ok .full
    else .error ("invalid backupType: " ++ e.2 ++ " provided in volumesnapshotclass. supported " ++
      "backupType are incremental and full")
  else if e.1 = "oci.oraclecloud.com/freeform-tags" then
    if e.2 = "" ∨ d.unmarshalFreeformTags e.2 then .ok backupType
    else .error ("failed to parse freeform tags provided in volumesnapshotclass. please check " ++
      "the parameters block on the volume snapshot class")
  else if e.1 = "oci.oraclecloud.com/defined-tags" then
    if e.2 = "" ∨ d.unmarshalDefinedTags e.2 then .ok backupType
    else .error ("failed to parse defined tags provided in volumesnapshotclass. please check " ++
      "the parameters block on the volume snapshot class")
  else .ok backupType

def extractSnapshotParameters (d : BlockVolumeControllerDriver) (o : RangeOrder)
    (parameters : GoMap String) : Except String BackupType :=
  ((o.range 0 parameters).foldlM (snapshotParameter d) .incremental).mapError statusText

/-! ## Checks before the lookup -/

def supportedVolumeCapabilities : List (AccessType × AccessMode) :=
  [(.mount, .singleNodeWriter), (.block, .singleNodeWriter), (.block, .multiNodeMultiWriter)]

def hasSupport (c : VolumeCapability) : Bool :=
  supportedVolumeCapabilities.any fun m => c.accessMode = m.2 && c.accessType = some m.1

def validateCapabilities (caps : List VolumeCapability) : Except String Unit :=
  match caps.find? fun c => !hasSupport c with
  | none => .ok ()
  | some c => .error ("invalid volume capabilities requested: AccessMode=" ++ c.accessMode.text ++
      " AccessType=" ++ match c.accessType with
        | some .block => "Block"
        | some .mount => "Mount"
        | none => "")

def isBootVolume (ocid : String) : Bool := Go.contains ocid ".bootvolume."

/-- What is known about the source of a new volume: its availability domain if it is a
volume, and whether it is smaller than the new one. -/
structure Source where
  srcSnapshotId : String := ""
  srcVolumeId : String := ""
  availableDomainShortName : String := ""
  needResize : Bool := false
deriving DecidableEq, Repr

/-- An error of the cloud is never one of the Kubernetes API, so a backup that does not exist
is an internal error. -/
def volumeContentSource (a : VolumeAnswers) (size : Int) :
    Option VolumeContentSource → Except Status Source
  | none => .ok {}
  | some .unset => .error ⟨.invalidArgument, "Unsupported volumeContentSource"⟩
  | some (.snapshot id) =>
    match a.getVolumeBackup with
    | .error err => .error ⟨.internal, "Failed to fetch snapshot with ID " ++ id ++
        " with error " ++ err.error⟩
    | .ok sizeInMBs => .ok { srcSnapshotId := id, needResize := sizeInMBs * MiB < size }
  | some (.volume id) =>
    if isBootVolume id then
      .error ⟨.invalidArgument, "Boot volume as data source is not supported"⟩
    else match a.getVolume with
      | .error err =>
        if isNotFound err then .error ⟨.notFound, "Failed to get volume with ID " ++ id⟩
        else .error ⟨.internal, "Failed to fetch volume with ID " ++ id ++ " with error " ++
          err.error⟩
      | .ok v => .ok
          { srcVolumeId := id
            availableDomainShortName := v.availabilityDomain
            needResize := v.sizeInMBs * MiB < size }

def labelTopologyZone := "topology.kubernetes.io/zone"

def labelZoneFailureDomain := "failure-domain.beta.kubernetes.io/zone"

/-- The first of the topologies that names an availability domain, or else the last. -/
def availableDomainOfTopologies : List (GoMap String) → String
  | [] => ""
  | t :: ts =>
    let name := (t.lookup labelTopologyZone).getD ((t.lookup labelZoneFailureDomain).getD "")
    if name ≠ "" then name else availableDomainOfTopologies ts

def availableDomain (source : Source) (r : Option TopologyRequirement) : String :=
  let preferred := (r.map (·.preferred)).getD []
  let requisite := (r.map (·.requisite)).getD []
  let name := if source.availableDomainShortName ≠ "" then source.availableDomainShortName
    else availableDomainOfTopologies preferred
  if name ≠ "" then name else availableDomainOfTopologies requisite

/-- What `CreateVolume` knows before it looks for the volume. -/
structure Checked where
  size : Int
  volumeParams : VolumeParameters
  source : Source
  availableDomainShortName : String

def checkVolume (d : BlockVolumeControllerDriver) (o : RangeOrder) (req : CreateVolumeRequest)
    (a : VolumeAnswers) : Except Status Checked :=
  if req.name = "" then .error ⟨.invalidArgument, "CreateVolume Name must be provided"⟩
  else if req.volumeCapabilities = [] then
    .error ⟨.invalidArgument, "VolumeCapabilities must be provided in CreateVolumeRequest"⟩
  else do
    let _ ← (validateCapabilities req.volumeCapabilities).mapError (⟨.invalidArgument, ·⟩)
    let size ← (extractStorage req.capacityRange).mapError
      fun err => ⟨.outOfRange, "invalid capacity range: " ++ err⟩
    let volumeParams ← (extractVolumeParameters d o req.parameters).mapError
      fun err => ⟨.invalidArgument, "failed to parse storageclass parameters " ++ err⟩
    let _ ← (if req.volumeCapabilities.any (·.accessType = some .block) ∧
        30 ≤ volumeParams.vpusPerGB then
      .error ⟨.invalidArgument, "failed to support Block volumeMode for Ultra High Performance " ++
        "Volumes (vpusPerGB >= 30)"⟩ else .ok ())
    let source ← volumeContentSource a size req.volumeContentSource
    let name := availableDomain source req.accessibilityRequirements
    if name = "" then
      .error ⟨.invalidArgument, "(" ++ labelTopologyZone ++ ") or (" ++ labelZoneFailureDomain ++
        ") is required in PreferredTopologies or allowedTopologies"⟩
    else .ok ⟨size, volumeParams, source, name⟩

/-! ## Creating a volume -/

structure CreateVolumeResponse where
  volumeId : String
  capacityBytes : Int
  zone : String
  needResize : Bool
  /-- The size to resize to, if the volume is to be resized. -/
  newSize : Option Int
  attachmentType : String
  vpusPerGB : Int
  contentSource : Option VolumeContentSource
deriving DecidableEq, Repr

def getAvailableDomainInNodeLabel (fullAD : String) : String := ((split fullAD ':').getLast?).getD ""

/-- The new volume and all volumes that were created on the way. The call is repeated without
the system tags if it fails because of them. -/
def provisionVolume (a : VolumeAnswers) : Except Status Volume × List Volume :=
  let answer (c : CreateAnswer Volume) : Except Status Volume :=
    match c.error with
    | none => .ok c.created
    | some err => .error ⟨.internal, "New volume creation failed " ++ err.error⟩
  if a.create.error.isSome ∧ a.create.isSystemTagError then
    (answer a.createAgain, a.create.creates ++ a.createAgain.creates)
  else (answer a.create, a.create.creates)

/-- The volume with the requested name, created if there is none. -/
def findOrProvisionVolume (d : BlockVolumeControllerDriver) (req : CreateVolumeRequest)
    (c : Checked) (a : VolumeAnswers) (volumes : List Volume) :
    Except Status Volume × List Volume :=
  match volumes with
  | [v] => (.ok v, [])
  | [] =>
    match if d.isIpv6SingleStackCluster then .ok "" else a.getAvailabilityDomainByName with
    | .error _ => (.error ⟨.invalidArgument, "invalid available domain: " ++
        c.availableDomainShortName ++ " or compartment ID: " ++ d.compartmentID⟩, [])
    | .ok _ => provisionVolume a
  | _ => (.error ⟨.unknown, "duplicate volume \"" ++ req.name ++ "\" exists"⟩, [])

/-- The answer to a request with the volumes that it has created, unless the listing goes on
for ever. -/
def createVolume (d : BlockVolumeControllerDriver) (o : RangeOrder) (fuel : Nat)
    (req : CreateVolumeRequest) (a : VolumeAnswers) :
    Option (Except Status CreateVolumeResponse × List Volume) :=
  match checkVolume d o req a with
  | .error status => some (.error status, [])
  | .ok c =>
    (getVolumesByName fuel a).map fun
      | .error err =>
        (.error ⟨.internal, "failed to check existence of volume " ++ err.error⟩, [])
      | .ok volumes =>
        match findOrProvisionVolume d req c a volumes with
        | (.error status, created) => (.error status, created)
        | (.ok v, created) =>
          match a.await with
          | some err => (.error ⟨.deadlineExceeded, "Create volume failed with time out " ++
              err.error⟩, created)
          | none => (.ok
              { volumeId := v.id
                capacityBytes := v.sizeInMBs * MiB
                zone := getAvailableDomainInNodeLabel v.availabilityDomain
                needResize := c.source.needResize
                newSize := if c.source.needResize then some c.size else none
                attachmentType := c.volumeParams.attachmentType
                vpusPerGB := c.volumeParams.vpusPerGB
                contentSource := req.volumeContentSource }, created)

/-! ## Creating a snapshot -/

structure CreateSnapshotResponse where
  snapshotId : String
  sourceVolumeId : String
  sizeBytes : Int
  readyToUse : Bool
deriving DecidableEq, Repr

/-- The answer for a backup. One that is not available in time is not an error. -/
def awaitBackup (name : String) (backup : VolumeBackup) (a : SnapshotAnswers) :
    Except Status CreateSnapshotResponse :=
  let response (readyToUse : Bool) : CreateSnapshotResponse :=
    { snapshotId := backup.id
      sourceVolumeId := backup.volumeId.getD ""
      sizeBytes := backup.sizeInMBs * MiB
      readyToUse := readyToUse }
  match a.await with
  | none => .ok (response true)
  | some err =>
    if Go.contains err.error "timed out" then .ok (response false)
    else .error ⟨.internal, "Backup did not become available \"" ++ name ++ "\": " ++ err.error⟩

def provisionSnapshot (d : BlockVolumeControllerDriver) (o : RangeOrder)
    (req : CreateSnapshotRequest) (a : SnapshotAnswers) :
    Except Status CreateSnapshotResponse × List VolumeBackup :=
  match extractSnapshotParameters d o req.parameters with
  | .error err =>
    (.error ⟨.invalidArgument, "failed to parse volumesnapshotclass parameters " ++ err⟩, [])
  | .ok _ =>
    match a.create.error with
    | some err => (.error ⟨.internal, "Could not create snapshot \"" ++ req.name ++ "\": " ++
        err.error⟩, a.create.creates)
    | none => (awaitBackup req.name a.create.created a, a.create.creates)

/-- The answer to a request with the backups that it has created, unless the listing goes on
for ever. -/
def createSnapshot (d : BlockVolumeControllerDriver) (o : RangeOrder) (fuel : Nat)
    (req : CreateSnapshotRequest) (a : SnapshotAnswers) :
    Option (Except Status CreateSnapshotResponse × List VolumeBackup) :=
  if req.name = "" then
    some (.error ⟨.invalidArgument, "Volume snapshot name must be provided"⟩, [])
  else if req.sourceVolumeId = "" then
    some (.error ⟨.invalidArgument, "Volume snapshot source ID must be provided"⟩, [])
  else if isBootVolume req.sourceVolumeId then
    some (.error ⟨.invalidArgument, "Volume snapshot feature not available for boot volumes"⟩, [])
  else (getVolumeBackupsByName fuel a).map fun
    | .error err =>
      (.error ⟨.internal, "failed to check existence of snapshot " ++ err.error⟩, [])
    | .ok [] => provisionSnapshot d o req a
    | .ok [backup] =>
      match backup.volumeId.filter (· ≠ req.sourceVolumeId) with
      | some volumeId => (.error ⟨.alreadyExists, "Snapshot " ++ req.name ++
          " exists for another volume with id " ++ volumeId⟩, [])
      | none => (awaitBackup req.name backup a, [])
    | .ok _ => (.error ⟨.unknown, "duplicate snapshot \"" ++ req.name ++ "\" exists"⟩, [])

end OciCcm.Csi.BlockVolume
