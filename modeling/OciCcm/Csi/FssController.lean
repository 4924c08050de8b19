import OciCcm.Client
import OciCcm.Csi.Status
import OciCcm.Go.Interleaving
import OciCcm.Go.Map
import OciCcm.Go.Slice
import OciCcm.Go.Strings

/-! # File storage volumes

A file storage volume is a file system that is exported through a mount target.
`CreateVolume` finds or creates the two and the export. It writes down in the
tags of the file system which mount target it has used, and `DeleteVolume` reads
these tags to find out what it has to delete.

The tags are a map that a request may share with others, so `CreateVolume` is a
process whose moves are its accesses to shared memory and its calls to the cloud.
-/

namespace OciCcm.Csi.Fss

open Client Go

/-! ## Requests -/

structure VolumeCapability where
  isBlock : Bool := false
  accessMode : AccessMode
deriving DecidableEq, Repr

def fssSupportedVolumeCapabilities : List AccessMode :=
  [.singleNodeWriter, .singleNodeReaderOnly, .multiNodeReaderOnly, .multiNodeSingleWriter,
    .multiNodeMultiWriter]

def checkForSupportedVolumeCapabilities (volumeCaps : List VolumeCapability) : Bool :=
  volumeCaps.all fun c => !c.isBlock && c.accessMode ∈ fssSupportedVolumeCapabilities

structure CreateVolumeRequest where
  name : String
  volumeCapabilities : List VolumeCapability
  parameters : GoMap String
  secrets : GoMap String := ∅
deriving DecidableEq

abbrev DefinedTags := GoMap (GoMap String)

/-- The free-form tags are a pointer to a map, or nil. -/
structure TagConfig where
  freeformTags : Option Pointer
  definedTags : Option DefinedTags

/-- The texts that `json.Unmarshal` accepts, and what it makes of them. The text `null` gives
a nil map. -/
structure Unmarshal where
  freeformTags : String → Option (Option (GoMap String))
  definedTags : String → Option (Option DefinedTags)
  nsgOcids : String → Bool
  exportOptions : String → Bool

structure FSSControllerDriver where
  compartmentID : String
  clusterIpFamily : String := ""
  isIpv6SingleStackCluster : Bool := false
  /-- The tags that the configuration of the cluster has for file storage. -/
  clusterTags : Option Pointer
  unmarshal : Unmarshal

/-- Data that no function reads back is left out: the key, the network security groups and
the export options. -/
structure StorageClassParameters where
  availabilityDomain : String := ""
  compartmentOcid : String := ""
  exportPath : String := ""
  mountTargetOcid : String := ""
  mountTargetSubnetOcid : String := ""
  encryptInTransit : String := "false"
  scTags : Pointer := 0
deriving DecidableEq, Repr

/-! ## The cloud -/

inductive LifecycleState where
  | creating
  | active
  | updating
  | deleting
  | deleted
  | failed
deriving DecidableEq, Repr

def LifecycleState.text : LifecycleState → String
  | creating => "CREATING"
  | active => "ACTIVE"
  | updating => "UPDATING"
  | deleting => "DELETING"
  | deleted => "DELETED"
  | failed => "FAILED"

/-- A mount target or a file system in a list. -/
structure Summary where
  id : String
  lifecycleState : LifecycleState
deriving DecidableEq, Repr

structure ExportSummary where
  id : String
  path : String
  lifecycleState : LifecycleState
deriving DecidableEq, Repr

structure MountTarget where
  id : String
  displayName : String
  compartmentId : String
  availabilityDomain : String
  freeformTags : GoMap String
deriving DecidableEq

structure FileSystem where
  id : String
  displayName : String
  compartmentId : String
  availabilityDomain : String
  freeformTags : GoMap String
  definedTags : Option DefinedTags
deriving DecidableEq

structure Export where
  id : String
  fileSystemId : String
  exportSetId : String
  path : String
deriving DecidableEq, Repr

/-- The memory of the driver, and what there is in the cloud. -/
structure World where
  configs : Heap TagConfig
  maps : Heap (GoMap String)
  mountTargets : List MountTarget
  fileSystems : List FileSystem
  exports : List Export

structure Subnet where
  cidrBlock : Option String
  ipv6CidrBlock : Option String
  ipv6CidrBlocks : List String
deriving DecidableEq, Repr

/-- The answers to the calls of one move. -/
structure Answer where
  /-- The error of the call, if it fails. -/
  error : Option ClientError := none
  /-- Has a creation that fails had its effect? -/
  tookEffect : Bool := false
  /-- The OCID of what the call creates. -/
  id : String := ""
  serviceAccountExists : Bool := true
  serviceAccountToken : Bool := true
  missingClient : Option ClientKind := none
  availabilityDomain : Except ClientError String := .ok ""
  items : List Summary := []
  /-- The room of a new array for so many summaries. -/
  grow : Nat → Nat := fun n => n
  exports : List ExportSummary := []
  subnet : Except ClientError Subnet := .error .errNotFound
  privateIpIds : List String := []
  privateIp : Except ClientError String := .ok ""

/-- Does a creation have its effect? -/
def Answer.creates (a : Answer) : Bool := a.error.isNone || a.tookEffect

/-! ## Storage class parameters -/

def getServiceAccountToken (saName saNamespace : String) (a : Answer) : Except Status Unit :=
  if saName = "" ∨ saNamespace = "" then
    .error ⟨.invalidArgument, "Failed to get service account token. Missing service account or " ++
      "namespaces in request."⟩
  else if !a.serviceAccountExists then
    .error ⟨.internal, "Error fetching service account " ++ saName ++ " in the namespace " ++
      saNamespace⟩
  else if !a.serviceAccountToken then
    .error ⟨.internal, "Error creating service account token for service account " ++ saName ++
      " in the namespace " ++ saNamespace⟩
  else .ok ()

/-- A token is asked for when the secrets name a service account or a namespace. -/
def serviceAccountToken (secrets : GoMap String) (a : Answer) : Except Status Unit :=
  let serviceAccount := (secrets.lookup "serviceAccount").getD ""
  let serviceAccountNamespace := (secrets.lookup "serviceAccountNamespace").getD ""
  if serviceAccount ≠ "" ∨ serviceAccountNamespace ≠ "" then
    getServiceAccountToken serviceAccount serviceAccountNamespace a
  else .ok ()

section Parameters

variable (d : FSSControllerDriver) (parameters : GoMap String)

def availabilityDomain (compartmentId : String) (a : Answer) : Except Status String :=
  match parameters.lookup "availabilityDomain" with
  | none => .error ⟨.invalidArgument, "AvailabilityDomain not provided in storage class"⟩
  | some name =>
    if d.isIpv6SingleStackCluster then
      if Go.contains name ":" then .ok name
      else .error ⟨.invalidArgument, "Full AvailabilityDomain with prefix not provided in " ++
        "storage class for IPv6 single stack cluster."⟩
    else match a.availabilityDomain with
      | .ok ad => .ok ad
      | .error err => .error ⟨.invalidArgument, "invalid available domain: " ++ name ++
          " or compartment ID: " ++ compartmentId ++ ", error: " ++ err.error⟩

/-- The mount target, or else the subnet for a new one. -/
def mountTargetParameters : Except Status (String × String) :=
  match parameters.lookup "mountTargetOcid" with
  | some mountTargetOcid => .ok (mountTargetOcid, "")
  | none =>
    match parameters.lookup "mountTargetSubnetOcid" with
    | none => .error ⟨.invalidArgument, "Neither Mount Target Ocid nor Mount Target Subnet Ocid " ++
        "provided in storage class"⟩
    | some mountTargetSubnetOcid =>
      if ((parameters.lookup "nsgOcids").map d.unmarshal.nsgOcids).getD true then
        .ok ("", mountTargetSubnetOcid)
      else .error ⟨.invalidArgument, "Failed to parse nsgOcids provided in storage class. " ++
        "Please provide valid input."⟩

def checkExportOptions : Except Status Unit :=
  match parameters.lookup "exportOptions" with
  | none => .ok ()
  | some options =>
    if options = "" ∨ d.unmarshal.exportOptions options then .ok ()
    else .error ⟨.invalidArgument, "failed to parse exportOptions provided for storage class. " ++
      "please check the exportOptions in parameters section of storage class"⟩

/-- The tags of one kind in the storage class, or nil. -/
def tagsOverride {α : Type} (key kind : String) (unmarshal : String → Option (Option α)) :
    Except Status (Option α) :=
  match parameters.lookup key with
  | none => .ok none
  | some text =>
    if text = "" then .ok none
    else match unmarshal text with
      | some tags => .ok tags
      | none => .error ⟨.invalidArgument, "failed to parse " ++ kind ++ " tags provided for " ++
          "storageclass. please check the parameters section on the storage class"⟩

def initialFreeformTagsOverride := "oci.oraclecloud.com/initial-freeform-tags-override"

def initialDefinedTagsOverride := "oci.oraclecloud.com/initial-defined-tags-override"

/-- The configuration of the tags of a request: a new one if the storage class has tags,
else the one of the cluster if there is one. -/
def tagConfig (freeformTags : Option (GoMap String)) (definedTags : Option DefinedTags)
    (w : World) : Pointer × World :=
  match freeformTags, definedTags, d.clusterTags with
  | none, none, some clusterTags => (clusterTags, w)
  | none, _, _ =>
    (w.configs.next, { w with configs := w.configs.alloc ⟨none, definedTags⟩ })
  | some tags, _, _ =>
    (w.configs.next,
      { w with
        maps := w.maps.alloc tags
        configs := w.configs.alloc ⟨some w.maps.next, definedTags⟩ })

def extractStorageClassParameters (volumeName : String) (a : Answer) (w : World) :
    Except Status (StorageClassParameters × World) := do
  let compartmentOcid := (parameters.lookup "compartmentOcid").getD d.compartmentID
  let ad ← availabilityDomain d parameters compartmentOcid a
  let mountTarget ← mountTargetParameters d parameters
  let _ ← checkExportOptions d parameters
  let freeformTags ←
    tagsOverride parameters initialFreeformTagsOverride "freeform" d.unmarshal.freeformTags
  let definedTags ←
    tagsOverride parameters initialDefinedTagsOverride "defined" d.unmarshal.definedTags
  let tags := tagConfig d freeformTags definedTags w
  return ({ availabilityDomain := ad
            compartmentOcid := compartmentOcid
            exportPath := (parameters.lookup "exportPath").getD ("/" ++ volumeName)
            mountTargetOcid := mountTarget.1
            mountTargetSubnetOcid := mountTarget.2
            encryptInTransit :=
              if parameters.lookup "encryptInTransit" = some "true" then "true" else "false"
            scTags := tags.1 }, tags.2)

end Parameters

/-- `CreateVolume` up to the mount target. -/
def checkRequest (d : FSSControllerDriver) (req : CreateVolumeRequest) (a : Answer) (w : World) :
    Except Status (StorageClassParameters × World) :=
  if req.name = "" then .error ⟨.invalidArgument, "CreateVolume Name must be provided"⟩
  else if req.volumeCapabilities = [] then
    .error ⟨.invalidArgument, "VolumeCapabilities must be provided in CreateVolumeRequest"⟩
  else do
    let _ ← serviceAccountToken req.secrets a
    let _ ← checkClients a.missingClient
    let _ ← (if checkForSupportedVolumeCapabilities req.volumeCapabilities then .ok ()
      else .error ⟨.invalidArgument, "Requested Volume Capability not supported"⟩)
    extractStorageClassParameters d req.parameters req.name a w

/-! ## Finding what exists -/

def isUsable (state : LifecycleState) : Bool := state = .active || state = .creating

/-- The usable mount targets of a list, or those that are not, with an error. -/
def getMountTargetSummaryByDisplayName (a : Answer) :
    Bool × List Summary × Option ClientError :=
  match a.error with
  | some err => (false, [], some err)
  | none =>
    let conflicting := a.items.filter fun s => !isUsable s.lifecycleState
    if conflicting = [] then (false, a.items, none)
    else (true, conflicting,
      some (.other "Found mount target summary neither active nor creating state"))

/-- What `GetFileSystemSummaryByDisplayName` has found. The list of the conflicting file systems is
appended to the other list, with which it may share its memory. -/
structure FileSystemsFound where
  memory : Heap (List Summary)
  fileSystemSummaries : Slice
  conflictingFileSystemSummaries : Slice
  foundConflicting : Bool

/-- Two empty lists. -/
def FileSystemsFound.nothing : FileSystemsFound :=
  let (memory, fileSystemSummaries) := Slice.make ⟨fun _ => [], 0⟩
  let (memory, conflictingFileSystemSummaries) := Slice.make memory
  { memory, fileSystemSummaries, conflictingFileSystemSummaries, foundConflicting := false }

/-- One iteration of the loop over the file systems of a page. -/
def FileSystemsFound.visit (grow : Nat → Nat) (found : FileSystemsFound)
    (fileSystemSummary : Summary) : FileSystemsFound :=
  let appended := Slice.append grow found.memory found.fileSystemSummaries fileSystemSummary
  if isUsable fileSystemSummary.lifecycleState then
    { found with memory := appended.1, fileSystemSummaries := appended.2 }
  else
    { found with
      memory := appended.1
      conflictingFileSystemSummaries := appended.2
      foundConflicting := true }

/-- What is returned after the last page. -/
def FileSystemsFound.summaries (found : FileSystemsFound) :
    Bool × List Summary × Option ClientError :=
  if found.foundConflicting then
    (true, found.conflictingFileSystemSummaries.read found.memory,
      some (.other "Found file system summary neither active nor creating state"))
  else (false, found.fileSystemSummaries.read found.memory, none)

def getFileSystemSummaryByDisplayName (a : Answer) : Bool × List Summary × Option ClientError :=
  match a.error with
  | some err => (false, [], some err)
  | none => (a.items.foldl (FileSystemsFound.visit a.grow) .nothing).summaries

/-- The id of the resource that exists, if there is one. -/
def existing (resource : String) (duplicate : Status)
    (found : Bool × List Summary × Option ClientError) : Except Status (Option String) :=
  match found with
  | (foundConflicting, summaries, err) =>
    match err.filter fun err => !isNotFound err with
    | some err =>
      let conflicts := String.join (summaries.map fun s => s.id ++ ": " ++ s.lifecycleState.text ++ ", ")
      let message := if foundConflicting then "conflicting " ++ resource ++ "(s) " ++ conflicts
        else "failed to check existence of " ++ resource
      .error ⟨.internal, message ++ ", error: " ++ err.error⟩
    | none =>
      match summaries with
      | [] => .ok none
      | [s] => .ok (some s.id)
      | _ => .error duplicate

def existingMountTarget (volumeName : String) (a : Answer) : Except Status (Option String) :=
  existing "Mount Target" ⟨.internal, "duplicate Mount Target " ++ volumeName ++ " exists"⟩
    (getMountTargetSummaryByDisplayName a)

/-- The error for a duplicate has no code of its own. -/
def existingFileSystem (volumeName : String) (a : Answer) : Except Status (Option String) :=
  existing "File System" ⟨.unknown, "duplicate File system \"" ++ volumeName ++ "\" exists"⟩
    (getFileSystemSummaryByDisplayName a)

/-- The first export with the path, and an error unless it is usable. -/
def findExport (path : String) (error : Option ClientError) (exports : List ExportSummary) :
    Option ExportSummary × Option ClientError :=
  match error with
  | some err => (none, some err)
  | none =>
    match exports.find? fun e => e.path = path with
    | none => (none, some .errNotFound)
    | some e =>
      if isUsable e.lifecycleState then (some e, none)
      else (some e, some (.other ("Found export in conflicting state " ++ e.id ++ ": " ++
        e.lifecycleState.text)))

def existingExport (path : String) (a : Answer) : Except Status (Option String) :=
  match findExport path a.error a.exports with
  | (exportSummary, err) =>
    match err.filter fun err => !isNotFound err with
    | some err =>
      let message := match exportSummary with
        | some e => "conflicting Export " ++ e.path
        | none => "failed to check existence of export"
      .error ⟨.internal, message ++ ", error: " ++ err.error⟩
    | none => .ok (exportSummary.map (·.id))

/-! ## The mount target -/

def ipv4Stack := "IPv4"

def ipv6Stack := "IPv6"

def isDualStackSubnet (s : Subnet) : Bool :=
  (s.cidrBlock.any fun cidr => cidr ≠ "" && !Go.contains cidr "null") &&
    ((s.ipv6CidrBlock.any (· ≠ "")) || s.ipv6CidrBlocks ≠ [])

def isIpv4SingleStackSubnet (s : Subnet) : Bool :=
  !isDualStackSubnet s && (s.cidrBlock.any fun cidr => cidr ≠ "" && !Go.contains cidr "null")

def isIpv6SingleStackSubnet (s : Subnet) : Bool :=
  !isDualStackSubnet s && !isIpv4SingleStackSubnet s

def isValidIpFamilyPresentInClusterIpFamily (clusterIpFamily : String) : Bool :=
  Go.contains clusterIpFamily ipv4Stack || Go.contains clusterIpFamily ipv6Stack

def validateMountTargetSubnetWithClusterIpFamily (clusterIpFamily : String)
    (subnet : Except ClientError Subnet) : Except Status Unit :=
  match subnet with
  | .error err => .error ⟨.internal, "Failed to get mount target subnet, error: " ++ err.error⟩
  | .ok subnet =>
    if isIpv4SingleStackSubnet subnet && !Go.contains clusterIpFamily ipv4Stack then
      .error ⟨.invalidArgument, "Invalid mount target subnet. For using IPv4 mount target " ++
        "subnet, cluster needs to be IPv4 or dual stack but found to be " ++ clusterIpFamily ++ "."⟩
    else if isDualStackSubnet subnet && !Go.contains clusterIpFamily ipv4Stack then
      .error ⟨.invalidArgument, "Invalid mount target subnet. For using dual stack mount target " ++
        "subnet, cluster needs to IPv4 or dual stack but found to be " ++ clusterIpFamily ++ "."⟩
    else if isIpv6SingleStackSubnet subnet && !Go.contains clusterIpFamily ipv6Stack then
      .error ⟨.invalidArgument, "Invalid mount target subnet. For using ipv6 mount target " ++
        "subnet, cluster needs to be IPv6 or dual stack but found to be " ++ clusterIpFamily ++ "."⟩
    else .ok ()

def validateMountTargetWithClusterIpFamily (clusterIpFamily : String)
    (mtIpv6Ids privateIpIds : List String) : Except Status Unit :=
  if mtIpv6Ids ≠ [] ∧ !Go.contains clusterIpFamily ipv6Stack then
    .error ⟨.invalidArgument, "Invalid mount target. For using IPv6 mount target, cluster needs " ++
      "to be IPv6 or dual stack but found to be " ++ clusterIpFamily ++ "."⟩
  else if privateIpIds ≠ [] ∧ !Go.contains clusterIpFamily ipv4Stack then
    .error ⟨.invalidArgument, "Invalid mount target. For using IPv4 mount target, cluster needs " ++
      "to IPv4 or dual stack but found to be " ++ clusterIpFamily ++ "."⟩
  else .ok ()

/-- What `getOrCreateMountTarget` returns. -/
structure ProvisionedMountTarget where
  mountTargetOCID : String
  mountTargetIp : String
  exportSetId : String
deriving DecidableEq, Repr

/-- The end of `getOrCreateMountTarget`. -/
def activeMountTarget (d : FSSControllerDriver) (mountTargetOCID : String)
    (isExistingMountTargetUsed : Bool) (exportSetId : Option String) (a : Answer) :
    Except Status ProvisionedMountTarget :=
  match a.error, a.privateIpIds with
  | some err, _ => .error ⟨.deadlineExceeded,
      "await mount target to be available failed with time out, error: " ++ err.error⟩
  | none, [] => .error ⟨.internal, "IP not assigned to mount target"⟩
  | none, mountTargetIpId :: _ => do
    let _ ← (if isExistingMountTargetUsed &&
        isValidIpFamilyPresentInClusterIpFamily d.clusterIpFamily then
      validateMountTargetWithClusterIpFamily d.clusterIpFamily [] a.privateIpIds else .ok ())
    match a.privateIp with
    | .error err => .error ⟨.internal, "Failed to get mount target privateIp ip from ip id " ++
        mountTargetIpId ++ ", error: " ++ err.error⟩
    | .ok mountTargetIp =>
      match exportSetId.filter (· ≠ "") with
      | none => .error ⟨.internal, "ExportSetId not assigned to mount target"⟩
      | some exportSetId => .ok ⟨mountTargetOCID, mountTargetIp, exportSetId⟩

/-! ## `CreateVolume` -/

/-- The parts of a volume's id. -/
structure FSSVolumeHandler where
  filesystemOcid : String
  mountTargetIPAddress : String
  fsExportPath : String
deriving DecidableEq, Repr

structure CreateVolumeResponse where
  volumeId : FSSVolumeHandler
  encryptInTransit : String
deriving DecidableEq, Repr

/-- Where a request is once it has a mount target. -/
inductive FileSystemPhase where
  | readTags
  | makeTags (freeformTags : Option Pointer)
  | tagIsDeleteMountTarget (freeformTags : Pointer)
  | tagMountTargetOCID (freeformTags : Pointer)
  | tagExportSetId (freeformTags : Pointer)
  | findFileSystem
  | readDetails
  | createFileSystem (freeformTags : Option Pointer) (definedTags : Option DefinedTags)
  | awaitFileSystem (filesystemOCID : String)
  | findExport (filesystemOCID : String)
  | createExport (filesystemOCID : String)
  | awaitExport (filesystemOCID exportId : String)
  | done (result : Except Status CreateVolumeResponse)

inductive Phase where
  | checkRequest
  | findMountTarget
  | createMountTarget
  | awaitMountTarget (mountTargetOCID : String) (isExistingMountTargetUsed : Bool)
  | failed (status : Status)
  | provision (mountTarget : ProvisionedMountTarget) (phase : FileSystemPhase)

structure Local where
  parameters : StorageClassParameters := {}
  phase : Phase := .checkRequest

/-- Only a mount target that the request has found or created by name may be deleted with
the volume. -/
def isDeleteMountTarget (p : StorageClassParameters) : String :=
  if p.mountTargetOcid ≠ "" then "false" else "true"

/-- One write into a map. -/
def World.tag (w : World) (m : Pointer) (key value : String) : World :=
  { w with maps := w.maps.store m ((w.maps.load m).insert key value) }

section CreateVolume

variable (req : CreateVolumeRequest) (p : StorageClassParameters) (mt : ProvisionedMountTarget)
  (a : Answer) (w : World)

/-- The free-form tags become those of the tag configuration only if it had none when they
were read. -/
def makeTags : Option Pointer → World × FileSystemPhase
  | some freeformTags => (w, .tagIsDeleteMountTarget freeformTags)
  | none =>
    let config := w.configs.load p.scTags
    ({ w with
        maps := w.maps.alloc ∅
        configs := w.configs.store p.scTags { config with freeformTags := some w.maps.next } },
      .tagIsDeleteMountTarget w.maps.next)

def provisionMountTarget : World × Phase :=
  let mountTarget : MountTarget :=
    { id := a.id
      displayName := req.name
      compartmentId := p.compartmentOcid
      availabilityDomain := p.availabilityDomain
      freeformTags := ((w.configs.load p.scTags).freeformTags.map w.maps.load).getD ∅ }
  (if a.creates then { w with mountTargets := w.mountTargets ++ [mountTarget] } else w,
    match a.error with
    | none => .awaitMountTarget a.id false
    | some err => .failed ⟨.internal, "New Mount Target creation failed, error: " ++ err.error⟩)

def provisionFileSystem (freeformTags : Option Pointer) (definedTags : Option DefinedTags) :
    World × FileSystemPhase :=
  let fileSystem : FileSystem :=
    { id := a.id
      displayName := req.name
      compartmentId := p.compartmentOcid
      availabilityDomain := p.availabilityDomain
      freeformTags := (freeformTags.map w.maps.load).getD ∅
      definedTags := definedTags }
  (if a.creates then { w with fileSystems := w.fileSystems ++ [fileSystem] } else w,
    match a.error with
    | none => .awaitFileSystem a.id
    | some err => .done (.error ⟨.internal, "New File System creation failed, error: " ++ err.error⟩))

def provisionExport (filesystemOCID : String) : World × FileSystemPhase :=
  let newExport : Export :=
    { id := a.id, fileSystemId := filesystemOCID, exportSetId := mt.exportSetId, path := p.exportPath }
  (if a.creates then { w with exports := w.exports ++ [newExport] } else w,
    match a.error with
    | none => .awaitExport filesystemOCID a.id
    | some err => .done (.error ⟨.internal, "New Export creation failed, error: " ++ err.error⟩))

/-- A move of a request that has a mount target. -/
def fileSystemMove : FileSystemPhase → World × FileSystemPhase
  | .readTags => (w, .makeTags (w.configs.load p.scTags).freeformTags)
  | .makeTags freeformTags => makeTags p w freeformTags
  | .tagIsDeleteMountTarget m =>
    (w.tag m "isDeleteMountTarget" (isDeleteMountTarget p), .tagMountTargetOCID m)
  | .tagMountTargetOCID m => (w.tag m "mountTargetOCID" mt.mountTargetOCID, .tagExportSetId m)
  | .tagExportSetId m => (w.tag m "exportSetId" mt.exportSetId, .findFileSystem)
  | .findFileSystem =>
    match existingFileSystem req.name a with
    | .error status => (w, .done (.error status))
    | .ok (some id) => (w, .awaitFileSystem id)
    | .ok none => (w, .readDetails)
  | .readDetails =>
    let config := w.configs.load p.scTags
    (w, .createFileSystem config.freeformTags config.definedTags)
  | .createFileSystem freeformTags definedTags =>
    provisionFileSystem req p a w freeformTags definedTags
  | .awaitFileSystem filesystemOCID =>
    match a.error with
    | some err => (w, .done (.error ⟨.deadlineExceeded,
        "Await File System failed with time out, error: " ++ err.error⟩))
    | none => (w, .findExport filesystemOCID)
  | .findExport filesystemOCID =>
    match existingExport p.exportPath a with
    | .error status => (w, .done (.error status))
    | .ok (some id) => (w, .awaitExport filesystemOCID id)
    | .ok none => (w, .createExport filesystemOCID)
  | .createExport filesystemOCID => provisionExport p mt a w filesystemOCID
  | .awaitExport filesystemOCID _ =>
    match a.error with
    | some err => (w, .done (.error ⟨.deadlineExceeded,
        "await export failed with time out, error: " ++ err.error⟩))
    | none => (w, .done (.ok
        { volumeId := ⟨filesystemOCID, mt.mountTargetIp, p.exportPath⟩
          encryptInTransit := p.encryptInTransit }))
  | .done result => (w, .done result)

end CreateVolume

/-- A move of `CreateVolume`. The export set of a mount target is given by the cloud. -/
def createVolume (d : FSSControllerDriver) (exportSetId : String → Option String)
    (req : CreateVolumeRequest) (a : Answer) (w : World) (l : Local) : World × Local :=
  let p := l.parameters
  match l.phase with
  | .checkRequest =>
    match checkRequest d req a w with
    | .error status => (w, { l with phase := .failed status })
    | .ok (p, w) =>
      (w, { parameters := p
            phase := if p.mountTargetOcid ≠ "" then .awaitMountTarget p.mountTargetOcid true
              else .findMountTarget })
  | .findMountTarget =>
    match existingMountTarget req.name a with
    | .error status => (w, { l with phase := .failed status })
    | .ok (some id) => (w, { l with phase := .awaitMountTarget id true })
    | .ok none =>
      if isValidIpFamilyPresentInClusterIpFamily d.clusterIpFamily then
        match validateMountTargetSubnetWithClusterIpFamily d.clusterIpFamily a.subnet with
        | .error status => (w, { l with phase := .failed status })
        | .ok () => (w, { l with phase := .createMountTarget })
      else (w, { l with phase := .createMountTarget })
  | .createMountTarget =>
    let r := provisionMountTarget req p a w
    (r.1, { l with phase := r.2 })
  | .awaitMountTarget mountTargetOCID isExistingMountTargetUsed =>
    match activeMountTarget d mountTargetOCID isExistingMountTargetUsed
        (exportSetId mountTargetOCID) a with
    | .error status => (w, { l with phase := .failed status })
    | .ok mt => (w, { l with phase := .provision mt .readTags })
  | .failed _ => (w, l)
  | .provision mt phase =>
    let r := fileSystemMove req p mt a w phase
    (r.1, { l with phase := .provision mt r.2 })

/-! ## `DeleteVolume` -/

/-- The calls of `DeleteVolume` that delete something. -/
inductive DeleteCall where
  | mountTarget (id : String)
  | export (id : String)
  | fileSystem (id : String)
deriving DecidableEq, Repr

structure DeleteAnswers where
  token : Except Status Unit := .ok ()
  getFileSystem : Except ClientError FileSystem
  deleteMountTarget : Option ClientError := none
  listExports : Option ClientError := none
  exports : List ExportSummary := []
  deleteExport : Option ClientError := none
  deleteFileSystem : Option ClientError := none

/-- The error of a call, if it is one that stops `DeleteVolume`. -/
def stops (err : Option ClientError) (message : String) : Option Status :=
  (err.filter fun err => !isNotFound err).map fun err => ⟨.internal, message ++ err.error⟩

/-- The calls so far, with those that follow unless there is an error. -/
def thenCalls (calls : List DeleteCall) (status : Option Status)
    (rest : Except Status Unit × List DeleteCall) : Except Status Unit × List DeleteCall :=
  match status with
  | some status => (.error status, calls)
  | none => (rest.1, calls ++ rest.2)

def deleteFileSystem (volumeId filesystemOcid : String) (a : DeleteAnswers) :
    Except Status Unit × List DeleteCall :=
  thenCalls [.fileSystem filesystemOcid]
    (stops a.deleteFileSystem ("failed to delete file system, volumeId: " ++ volumeId ++ ", error: "))
    (.ok (), [])

/-- An export that is found but not usable is left alone. A failure to delete one always
stops, also if it does not exist. -/
def deleteExport (exportPath exportSetId : String) (a : DeleteAnswers)
    (rest : Except Status Unit × List DeleteCall) : Except Status Unit × List DeleteCall :=
  if exportSetId = "" then rest
  else match findExport exportPath a.listExports a.exports with
    | (none, err) =>
      thenCalls [] (stops err ("failed to find export, exportPath: " ++ exportPath ++ ", error: ")) rest
    | (some _, some _) => rest
    | (some e, none) =>
      thenCalls [.export e.id] (a.deleteExport.map fun err =>
        ⟨.internal, "failed to delete export, exportId: " ++ e.id ++ ", error: " ++ err.error⟩) rest

def deleteMountTarget (mountTargetOCID : String) (isDeleteMountTarget : Bool) (a : DeleteAnswers)
    (rest : Except Status Unit × List DeleteCall) : Except Status Unit × List DeleteCall :=
  if isDeleteMountTarget then
    thenCalls [.mountTarget mountTargetOCID] (stops a.deleteMountTarget
      ("failed to delete mount target, mountTargetOcid: " ++ mountTargetOCID ++ ", error: ")) rest
  else rest

/-- The result of `DeleteVolume` and the calls it makes to delete something. -/
def deleteVolume (volumeId : String) (handler : FSSVolumeHandler) (a : DeleteAnswers) :
    Except Status Unit × List DeleteCall :=
  match a.token with
  | .error status => (.error status, [])
  | .ok () =>
    if handler.filesystemOcid = "" ∨ handler.mountTargetIPAddress = "" ∨
        handler.fsExportPath = "" then
      (.error ⟨.invalidArgument, "Invalid Volume ID provided " ++ volumeId⟩, [])
    else match a.getFileSystem with
      | .error err =>
        if isNotFound err then (.ok (), [])
        else (.error ⟨.internal, "failed to delete filesystem, volumeId: " ++ volumeId ++ " ERROR: " ++
          err.error⟩, [])
      | .ok fileSystem =>
        let tag := fun key => (fileSystem.freeformTags.lookup key).getD ""
        deleteMountTarget (tag "mountTargetOCID") (tag "isDeleteMountTarget" = "true") a
          (deleteExport handler.fsExportPath (tag "exportSetId") a
            (deleteFileSystem volumeId handler.filesystemOcid a))

end OciCcm.Csi.Fss
