import OciCcm.Csi.BlockVolume
import OciCcm.Csi.FssController
import OciCcm.Csi.LustreParameters
import OciCcm.Go.Int64

/-! # Lustre file systems

`CreateVolume` and `DeleteVolume` of the Lustre controller. A Lustre volume is a
file system; its handle consists of the OCID and of what a node needs to mount it.
-/

namespace OciCcm.Csi.Lustre

open Client Go Tags
open BlockVolume (CapacityRange)
open Fss (VolumeCapability)

/-! ## The cloud -/

inductive LifecycleState where
  | creating
  | updating
  | active
  | inactive
  | deleting
  | deleted
  | failed
deriving DecidableEq, Repr

def LifecycleState.text : LifecycleState → String
  | creating => "CREATING"
  | updating => "UPDATING"
  | active => "ACTIVE"
  | inactive => "INACTIVE"
  | deleting => "DELETING"
  | deleted => "DELETED"
  | failed => "FAILED"

structure LustreFileSystem where
  id : String
  lifecycleState : LifecycleState
  capacityInGBs : Int
  managementServiceAddress : Option String
  lnet : Option String
  fileSystemName : Option String
deriving DecidableEq, Repr

structure WorkRequestSummary where
  id : Option String
  isCreateLustreFileSystem : Bool
deriving DecidableEq, Repr

inductive IdentitySquash where
  | root
  | none
deriving DecidableEq, Repr

structure RootSquashConfiguration where
  identitySquash : IdentitySquash
  clientExceptions : List String
  squashUid : Option Int
  squashGid : Option Int
deriving DecidableEq, Repr

structure CreateLustreFileSystemDetails where
  displayName : String
  compartmentId : String
  availabilityDomain : String
  fileSystemName : String
  capacityInGBs : Int
  subnetId : String
  performanceTier : String
  rootSquashConfiguration : RootSquashConfiguration
  freeformTags : Option (GoMap String)
  definedTags : Option DefinedTags
  kmsKeyId : Option String
  nsgIds : List String

/-! ## Requests -/

def lustreSupportedVolumeCapabilities : List AccessMode :=
  [.singleNodeWriter, .singleNodeReaderOnly, .multiNodeReaderOnly, .multiNodeSingleWriter,
    .multiNodeMultiWriter]

/-- The error is itself a status, with its code in the text. -/
def checkLustreSupportedVolumeCapabilities (volumeCaps : List VolumeCapability) :
    Except String Unit :=
  let status (desc : String) := "rpc error: code = InvalidArgument desc = " ++ desc
  volumeCaps.forM fun cap =>
    if cap.isBlock then
      .error (status "Lustre contoller driver does not support volume mode block")
    else if cap.accessMode ∈ lustreSupportedVolumeCapabilities then .ok ()
    else .error (status ("Lustre contoller driver does not support access mode " ++
      cap.accessMode.text))

structure CreateVolumeRequest where
  name : String
  volumeCapabilities : List VolumeCapability
  capacityRange : Option CapacityRange := none
  parameters : GoMap String := ∅

structure CreateVolumeResponse where
  volumeId : String
  capacityBytes : Int
  volumeContext : GoMap String

/-- The answers to the calls of one `CreateVolume` request. The listing has the ids of the file
systems; each await is answered by what it returns. -/
structure CreateAnswers where
  missingClient : Option ClientKind := none
  getAvailabilityDomainByName : Except ClientError String
  listLustreFileSystems : Pages.Server ClientError String
  getLustreFileSystem : String → Except ClientError LustreFileSystem := fun _ =>
    .error .errNotFound
  createLustreFileSystem : CreateLustreFileSystemDetails → Except ClientError LustreFileSystem :=
    fun _ => .error .errNotFound
  awaitLustreFileSystemActive : String → Except ClientError LustreFileSystem := fun _ =>
    .error .errNotFound
  listWorkRequests : Except ClientError (List WorkRequestSummary) := .ok []
  /-- The messages of the errors of a work request. -/
  listWorkRequestErrors : String → Except ClientError (List (Option String)) := fun _ => .ok []

/-! ## Handles -/

def buildLustreVolumeHandle (fs : LustreFileSystem) : String :=
  fs.id ++ ":" ++ fs.managementServiceAddress.getD "" ++ "@" ++ fs.lnet.getD "" ++ ":/" ++
    fs.fileSystemName.getD ""

/-- The part before the first colon, or nothing if the handle is malformed. -/
def extractLustreFilesystemId (volumeID : String) : String :=
  if volumeID = "" ∨ !hasPrefix volumeID "ocid" then ""
  else if ':' ∉ volumeID.toList then ""
  else String.ofList (volumeID.toList.takeWhile (· ≠ ':'))

/-! ## `CreateVolume` -/

def KB : Int := 1000

def MB : Int := 1000 * KB

def GB : Int := 1000 * MB

def setIfGiven (key value : String) (m : GoMap String) : GoMap String :=
  if value ≠ "" then m.insert key value else m

def sendCreateVolumeSuccessResponse (sc : LustreStorageClassParameters) (fs : LustreFileSystem) :
    CreateVolumeResponse where
  volumeId := buildLustreVolumeHandle fs
  capacityBytes := toInt64 (fs.capacityInGBs * GB)
  volumeContext :=
    setIfGiven "lustrePostMountParameters" sc.lustrePostMountParameters
      (setIfGiven "lustreSubnetCidr" sc.lustreSubnetCidr
        (setIfGiven "setupLnet" sc.setupLnet ∅))

def createLustreFilesystemRequest (displayName : String) (sc : LustreStorageClassParameters)
    (capacityInGbs : Int) : CreateLustreFileSystemDetails where
  displayName := displayName
  compartmentId := sc.compartmentId
  availabilityDomain := sc.availabilityDomain
  fileSystemName := sc.fileSystemName
  capacityInGBs := capacityInGbs
  subnetId := sc.subnetId
  performanceTier := sc.performanceTier
  rootSquashConfiguration :=
    if sc.rootSquashEnabled then
      ⟨.root, sc.rootSquashClientExceptions, sc.rootSquashUid, sc.rootSquashGid⟩
    else ⟨.none, [], none, none⟩
  freeformTags := sc.scTags.freeformTags
  definedTags := sc.scTags.definedTags
  kmsKeyId := if sc.kmsKeyId ≠ "" then some sc.kmsKeyId else none
  nsgIds := sc.nsgIds

/-- Why a file system has failed: the latest error of the request that created it, if that can be
found out. -/
def errorFromWorkRequest (a : CreateAnswers) : String :=
  match a.listWorkRequests with
  | .error _ => ""
  | .ok wrs =>
    match (wrs.find? (·.isCreateLustreFileSystem)).bind (·.id) with
    | none => ""
    | some id =>
      match a.listWorkRequestErrors id with
      | .ok (some message :: _) => message
      | _ => ""

def unusable (a : CreateAnswers) (fs : LustreFileSystem) : Status :=
  let errMsg := "LustreFileSystem provisioning failed. Filesystem is in " ++
    fs.lifecycleState.text ++ " state and not usable."
  let reason := if fs.lifecycleState = .failed then errorFromWorkRequest a else ""
  ⟨.aborted, if reason ≠ "" then errMsg ++ " Error from workrequest : " ++ reason else errMsg⟩

def awaitActive (a : CreateAnswers) (id : String) : Except Status LustreFileSystem :=
  (a.awaitLustreFileSystemActive id).mapError fun err => ⟨.deadlineExceeded,
    "deadline reached while waiting for LustreFilesystem to become active, error : " ++ err.error⟩

/-- The file system with the requested name. Its capacity is not looked at. -/
def existingLustreFs (a : CreateAnswers) (existingId : String) : Except Status LustreFileSystem :=
  match a.getLustreFileSystem existingId with
  | .error err => .error ⟨.internal, "Failed to fetch existing filesystem: " ++ err.error⟩
  | .ok fs =>
    match fs.lifecycleState with
    | .active => .ok fs
    | .creating => awaitActive a existingId
    | _ => .error (unusable a fs)

/-- The capacity of a new file system. The limit is not looked at. -/
def capacityInGbs (capacityRange : Option CapacityRange) : Int :=
  let capacityInBytes := (capacityRange.map (·.requiredBytes)).getD 0
  if capacityInBytes > 0 then unitsFor capacityInBytes GB else 31200

def createLustreFs (a : CreateAnswers) (details : CreateLustreFileSystemDetails) :
    Except Status LustreFileSystem :=
  match a.createLustreFileSystem details with
  | .error err => .error ⟨.internal, "Lustre filesystem creation failed, error :  " ++ err.error⟩
  | .ok fs => awaitActive a fs.id

/-- The file systems with the name, unless the listing goes on for ever. That there are none may
also be reported as an error. -/
def listLustreFileSystems (fuel : Nat) (a : CreateAnswers) : Option (Except Status (List String)) :=
  (Pages.collect a.listLustreFileSystems (fun _ => true) fuel 0 none []).map fun r =>
    match r.1 with
    | .ok ids => .ok ids
    | .error err =>
      if isNotFound err then .ok []
      else .error ⟨.internal, "Failed to check existing file systems: " ++ err.error⟩

/-- The parameters of the storage class, with the tags of the cluster. -/
def checkRequest (lib : Library) (d : LustreControllerDriver) (o : RangeOrder.{0})
    (req : CreateVolumeRequest) (a : CreateAnswers) : Except Status LustreStorageClassParameters :=
  if req.name = "" then invalid "Name must be provided in CreateVolumeRequest"
  else if req.volumeCapabilities = [] then
    invalid "VolumeCapabilities must be provided in CreateVolumeRequest"
  else do
    let _ ← (checkLustreSupportedVolumeCapabilities req.volumeCapabilities).mapError
      fun err => (⟨.invalidArgument, "Requested Volume Capability not supported: " ++ err⟩ : Status)
    let _ ← checkClients a.missingClient
    let sc ← extractLustreStorageClassParameters lib req.parameters d o req.name
      a.getAvailabilityDomainByName
    match d.tags.bind (·.common) with
    | some common =>
      .ok (if d.enableOkeSystemTags then { sc with scTags := mergeTagConfig sc.scTags common }
        else sc)
    | none => .ok sc

/-- The file system for a request: the one that is listed, or else a new one. -/
def findOrCreateLustreFs (req : CreateVolumeRequest) (sc : LustreStorageClassParameters)
    (a : CreateAnswers) (existing : List String) : Except Status LustreFileSystem :=
  match existing with
  | [] => createLustreFs a
      (createLustreFilesystemRequest req.name sc (capacityInGbs req.capacityRange))
  | [existingId] => existingLustreFs a existingId
  | _ => .error ⟨.alreadyExists, "Duplicate Lustre file systems with displayName " ++ req.name ++
      " exist"⟩

/-- The answer to a request, unless the listing goes on for ever. -/
def createVolume (lib : Library) (d : LustreControllerDriver) (o : RangeOrder.{0}) (fuel : Nat)
    (req : CreateVolumeRequest) (a : CreateAnswers) : Option (Except Status CreateVolumeResponse) :=
  match checkRequest lib d o req a with
  | .error status => some (.error status)
  | .ok sc =>
    (listLustreFileSystems fuel a).map fun existing => do
      let fs ← findOrCreateLustreFs req sc a (← existing)
      return sendCreateVolumeSuccessResponse sc fs

/-! ## `DeleteVolume` -/

/-- The answers to the calls of one `DeleteVolume` request. While it waits for the deletion it gets
the file system again and again. -/
structure DeleteAnswers where
  getLustreFileSystem : Except ClientError LustreFileSystem
  deleteLustreFileSystem : Option ClientError := none
  polls : List (Except ClientError LustreFileSystem) := []

/-- The error with which the wait for a deletion ends, if any. When the answers end the request has
run out of time. -/
def awaitLustreFileSystemDeleted : List (Except ClientError LustreFileSystem) → Option ClientError
  | [] => some (.other "context deadline exceeded")
  | .error err :: _ => if isNotFound err then none else some err
  | .ok fs :: polls =>
    if fs.lifecycleState = .deleted then none else awaitLustreFileSystemDeleted polls

def awaitDeleted (a : DeleteAnswers) : Except Status Unit :=
  match awaitLustreFileSystemDeleted a.polls with
  | none => .ok ()
  | some err => .error ⟨.deadlineExceeded,
      "Error while waiting for Lustre Filesystem to be Deleted, error : " ++ err.error⟩

/-- An error of the deletion is returned also if there is nothing to delete any more. -/
def deleteVolume (volumeId : String) (a : DeleteAnswers) : Except Status Unit :=
  if volumeId = "" then invalid "Volume ID must be provided"
  else if extractLustreFilesystemId volumeId = "" then
    invalid ("Invalid Volume ID provided " ++ volumeId)
  else match a.getLustreFileSystem with
    | .error err =>
      if isNotFound err then .ok ()
      else .error ⟨.internal, "Failed to get Lustre filesystem for deletion, error: " ++ err.error⟩
    | .ok fs =>
      match fs.lifecycleState with
      | .deleted => .ok ()
      | .deleting => awaitDeleted a
      | _ =>
        match a.deleteLustreFileSystem with
        | some err => .error ⟨.internal, "Failed to delete Lustre filesystem, error :  " ++ err.error⟩
        | none => awaitDeleted a

end OciCcm.Csi.Lustre
