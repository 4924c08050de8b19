import OciCcm.Csi.LustreHandles
import OciCcm.Go.Program

/-! # Staging Lustre volumes

`NodeStageVolume` sets up the network of a volume, mounts it and sets its
parameters. It works through calls to the worker node: command lines run by
`chroot-bash`, and the file system.
-/

namespace OciCcm.Csi.Lustre

open Go

/-! ## Calls -/

/-- The command lines of the driver. -/
inductive Command where
  | loadLnetKernelModule
  | configureLnetKernelService
  | showConfiguredLnet (lnetLabel : String)
  | deleteLnetInterface (lnetLabel : String)
  | configureLnetInterface (lnetLabel interfaceName : String)
  | lctlSetParam (key value : String)
  | lfsVersion
deriving DecidableEq, Repr

def Command.text : Command → String
  | loadLnetKernelModule => "modprobe lnet"
  | configureLnetKernelService => "lnetctl lnet configure"
  | showConfiguredLnet lnetLabel => "lnetctl net show --net " ++ lnetLabel
  | deleteLnetInterface lnetLabel => "lnetctl net del --net " ++ lnetLabel
  | configureLnetInterface lnetLabel interfaceName =>
    "lnetctl net add --net " ++ lnetLabel ++ " --if " ++ interfaceName ++
      " --peer-timeout 180 --peer-credits 120 --credits 1024"
  | lctlSetParam key value => "lctl set_param " ++ key ++ "=" ++ value
  | lfsVersion => "lfs --version"

structure NetInterface where
  interfaceIPv4 : String
  interfaceName : String
  lnetConfigured : Bool := false
deriving DecidableEq, Repr

/-- An entry of a net, with the first of its interfaces. -/
structure LocalNI where
  nid : String
  status : String
  interface : Option String
deriving DecidableEq, Repr

/-- The entries of the nets that `lnetctl` shows. -/
abbrev NetInfo := List (List LocalNI)

inductive Call where
  | command (c : Command)
  | getNetInterfacesInSubnet (subnetCIDR : String)
  | isMountPoint (path : String)
  | mkdirAll (path : String)
  | mount (source target : String)
  | unmount (target : String)
deriving DecidableEq, Repr

/-- The error of a look at a path. -/
structure PathError where
  isNotExist : Bool
  error : String
deriving DecidableEq, Repr

/-- A command answers with its output, also if it fails. -/
def Answer : Call → Type
  | .command _ => Except String String
  | .getNetInterfacesInSubnet _ => Except String (List NetInterface)
  | .isMountPoint _ => Except PathError Bool
  | .mkdirAll _ | .mount .. | .unmount _ => Except String Unit

abbrev NodeProgram (α : Type) := Program Call Answer String α

def executeCommandOnWorkerNode (c : Command) : NodeProgram String :=
  .call (.command c) fun
    | .ok output => pure output
    | .error output =>
      .done (.error ("Command failed: [" ++ c.text ++ "]\nOutput: " ++ output ++ "\n"))

def getNetInterfacesInSubnet (subnetCIDR : String) : NodeProgram (List NetInterface) :=
  .call (.getNetInterfacesInSubnet subnetCIDR) .done

/-! ## The network -/

structure LustreNodeDriver where
  lib : Library
  unmarshalNetInfo : String → Except String NetInfo
  /-- The orders in which parameters are checked and set. -/
  validateOrder : RangeOrder.{0} := .stored
  applyOrder : RangeOrder.{0} := .stored
  skipLustreParameters : Bool := false
  nodeInternalIP : String := ""

variable (d : LustreNodeDriver)

def isLustreClientPackagesInstalled : NodeProgram Bool := do
  let result ← (executeCommandOnWorkerNode .lfsVersion).attempt
  pure result.isOk

def getLnetInfoByLnetLabel (lnetLabel : String) : NodeProgram NetInfo := do
  let existingConfiguredLnetInfo ← (executeCommandOnWorkerNode (.showConfiguredLnet lnetLabel)).mapError
    ("Failed to get existing configured lnet information with error : " ++ ·)
  .done ((d.unmarshalNetInfo existingConfiguredLnetInfo).mapError
    ("Failed to parse lnet information with error : " ++ ·))

/-- Is the interface configured by this entry? -/
def configuredBy (lnetLabel : String) (iface : NetInterface) (localNI : LocalNI) : Bool :=
  localNI.interface = some iface.interfaceName && localNI.status = "up" &&
    localNI.nid = iface.interfaceIPv4 ++ "@" ++ lnetLabel

/-- The stale interface of an entry: it is the given one under another address, or it is down. -/
def staleIn (lnetLabel : String) (iface : NetInterface) (localNI : LocalNI) : Option String :=
  localNI.interface.filter fun existingInterfaceName =>
    if localNI.status = "up" ∧ existingInterfaceName = iface.interfaceName then
      localNI.nid ≠ iface.interfaceIPv4 ++ "@" ++ lnetLabel
    else localNI.status = "down"

def staleLnetInterfaces (interfacesInLustreSubnet : List NetInterface) (lnetLabel : String)
    (netInfo : NetInfo) : List String :=
  interfacesInLustreSubnet.flatMap fun iface => netInfo.flatten.filterMap (staleIn lnetLabel iface)

/-- An interface with the note whether it is configured. -/
def noted (lnetLabel : String) (netInfo : NetInfo) (iface : NetInterface) : NetInterface :=
  { iface with lnetConfigured :=
    iface.lnetConfigured || netInfo.flatten.any (configuredBy lnetLabel iface) }

/-- The second loop of `configureLnet`. Without stale interfaces only those that are not
configured yet are added. -/
def addInterfaces (interfaces : List NetInterface) (lnetLabel : String) (stale : List String) :
    NodeProgram Unit :=
  interfaces.forM fun iface => do
    if !iface.lnetConfigured || stale ≠ [] then
      let _ ← (executeCommandOnWorkerNode
        (.configureLnetInterface lnetLabel iface.interfaceName)).mapError fun _ =>
          "Lnet configuration failed for interface " ++ iface.interfaceName ++ "."

def configureLnet (interfacesInLustreSubnet : List NetInterface) (lnetLabel : String)
    (netInfo : NetInfo) : NodeProgram Unit := do
  let interfaces := interfacesInLustreSubnet.map (noted lnetLabel netInfo)
  let stale := staleLnetInterfaces interfacesInLustreSubnet lnetLabel netInfo
  if stale ≠ [] then
    let _ ← (executeCommandOnWorkerNode (.deleteLnetInterface lnetLabel)).mapError fun _ =>
      "Failed to delete stale lnet interface [" ++ join stale " " ++ "]"
  addInterfaces interfaces lnetLabel stale

/-- What is found is only logged. -/
def verifyLnetConfiguration (lnetLabel : String) : NodeProgram Unit := do
  let _ ← getLnetInfoByLnetLabel d lnetLabel

/-- The error of a step that needs the packages of the client. -/
def stepError (message : String) (installed : Bool) (err : String) : String :=
  message ++ err ++ if installed then ""
    else ". Please make sure that lustre client packages are installed on worker nodes."

/-- The part of `SetupLnet` before the net is configured. -/
def prepareLnet (lustreSubnetCIDR lnetLabel : String) :
    NodeProgram (List NetInterface × NetInfo) := do
  let interfacesInLustreSubnet ← getNetInterfacesInSubnet lustreSubnetCIDR
  if interfacesInLustreSubnet = [] then
    .done (.error "No VNIC identified on worker node to configure lnet.")
  else
    let installed ← isLustreClientPackagesInstalled
    let _ ← (executeCommandOnWorkerNode .loadLnetKernelModule).mapError
      (stepError (if installed then "Failed to load lnet kernel module with error "
        else "Failed to load lnet kernel module with error : ") installed)
    let _ ← (executeCommandOnWorkerNode .configureLnetKernelService).mapError
      (stepError "Failed to configure lnet kernel service with error : " installed)
    let netInfo ← getLnetInfoByLnetLabel d lnetLabel
    pure (interfacesInLustreSubnet, netInfo)

def setupLnet (lustreSubnetCIDR lnetLabel : String) : NodeProgram Unit := do
  let (interfacesInLustreSubnet, netInfo) ← prepareLnet d lustreSubnetCIDR lnetLabel
  configureLnet interfacesInLustreSubnet lnetLabel netInfo
  verifyLnetConfiguration d lnetLabel

/-! ## Parameters -/

def applyLustreParameters (lustreParamsJson : String) : NodeProgram Unit :=
  if lustreParamsJson = "" then pure ()
  else do
    let lustreParams ← .done (d.lib.unmarshalParameters lustreParamsJson)
    (visited d.applyOrder lustreParams).forM fun (key, value) => do
      let _ ← executeCommandOnWorkerNode (.lctlSetParam key value.text)

/-! ## `NodeStageVolume` -/

structure NodeStageVolumeRequest where
  volumeId : String
  stagingTargetPath : String
  /-- The type of the file system, for a volume that is to be mounted. -/
  fsType : Option String
  volumeContext : GoMap String := ∅

/-- The parameters to set. -/
def postMountParameters (req : NodeStageVolumeRequest) : Option String :=
  if d.skipLustreParameters then none else req.volumeContext.lookup "lustrePostMountParameters"

/-- The checks before the first call, where `acquired` says if the volume is not locked. They
return the handle to mount and the label of its net. -/
def checkStageRequest (req : NodeStageVolumeRequest) (acquired : Bool) :
    Except Status (String × String) :=
  if req.volumeId = "" then invalid "Volume ID must be provided"
  else if req.stagingTargetPath = "" then invalid "Staging path must be provided"
  else if req.fsType ≠ some "lustre" then
    invalid "Invalid fsType provided. Only \"lustre\" fsType is supported on this driver."
  else
    let normalizedVolID := stripLustreOCIDPrefix req.volumeId
    let (isValidVolumeId, lnetLabel) := validateLustreVolumeId normalizedVolID
    if !isValidVolumeId then invalid "Invalid Volume Handle provided."
    else match (postMountParameters d req).elim (.ok ())
        (validateLustreParameters d.lib d.validateOrder) with
      | .error err => invalid ("Invalid lustre parameters provided : " ++ err)
      | .ok () =>
        if !acquired then .error ⟨.aborted,
          "An operation for the volume: " ++ req.volumeId ++ " already exists."⟩
        else .ok (normalizedVolID, lnetLabel)

/-- Go on after a step, or return its error as a status. -/
def orInternal (step : NodeProgram Unit) (message : String → String)
    (next : NodeProgram (Except Status Unit)) : NodeProgram (Except Status Unit) := do
  match ← step.attempt with
  | .error err => pure (.error ⟨.internal, message err⟩)
  | .ok () => next

/-- A call that has no value. -/
def perform (call : Call) (h : Answer call = Except String Unit) : NodeProgram Unit :=
  .call call fun answer => .done (cast h answer)

/-- The volume is unmounted again if its parameters cannot be set. -/
def mountVolume (req : NodeStageVolumeRequest) (source : String) :
    NodeProgram (Except Status Unit) :=
  orInternal (perform (.mount source req.stagingTargetPath) rfl)
    ("Failed to mount volume to staging target path with error : " ++ ·) do
  match postMountParameters d req with
  | none => pure (.ok ())
  | some lustrePostMountParameters =>
    match ← (applyLustreParameters d lustrePostMountParameters).attempt with
    | .ok () => pure (.ok ())
    | .error err =>
      let _ ← (perform (.unmount req.stagingTargetPath) rfl).attempt
      pure (.error ⟨.internal, "Failed to apply lustre post mount parameters : " ++ err ++
        ". Please make sure correct lustre parameter is used."⟩)

/-- A volume that is mounted already is left as it is. -/
def mountIfNeeded (req : NodeStageVolumeRequest) (source : String) :
    NodeProgram (Except Status Unit) :=
  .call (.isMountPoint req.stagingTargetPath) fun
    | .ok true => pure (.ok ())
    | .ok false => mountVolume d req source
    | .error err =>
      if err.isNotExist then
        orInternal (perform (.mkdirAll req.stagingTargetPath) rfl)
          (fun _ => "Failed to create StagingTargetPath directory") (mountVolume d req source)
      else pure (.error ⟨.internal, err.error⟩)

def nodeStageVolume (req : NodeStageVolumeRequest) (acquired : Bool) :
    NodeProgram (Except Status Unit) :=
  match checkStageRequest d req acquired with
  | .error status => pure (.error status)
  | .ok (source, lnetLabel) =>
    if req.volumeContext.lookup "setupLnet" = some "true" then
      let lustreSubnetCIDR :=
        (req.volumeContext.lookup "lustreSubnetCidr").getD (d.nodeInternalIP ++ "/32")
      orInternal (setupLnet d lustreSubnetCIDR lnetLabel) ("Failed to setup lnet with error : " ++ ·)
        (mountIfNeeded d req source)
    else mountIfNeeded d req source

end OciCcm.Csi.Lustre
