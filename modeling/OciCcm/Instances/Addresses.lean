import OciCcm.Go.Search
import OciCcm.Instances

/-! # Addresses, types and states of instances

The calls of the node controller that are answered for a node's provider id, and
how the lister's nodes enter: as the place where the compartment and the IP
families of an instance are noted.
-/

namespace OciCcm.Instances

open Client Go Kubernetes Tags

def ipv4NodeIPFamilyLabel := "oci.oraclecloud.com/ip-family-ipv4"
def ipv6NodeIPFamilyLabel := "oci.oraclecloud.com/ip-family-ipv6"
def openShiftTagNamesapcePrefix := "openshift-"
def openShiftBootVolumeType := "boot-volume-type"
def openShiftBootVolumeISCSI : TagValue := .string "ISCSI"

structure Vnic where
  privateIp : Option String := none
  publicIp : Option String := none
  /-- A nil list is an empty one to all readers. -/
  ipv6Addresses : List String := []
  isPrimary : Option Bool := none
  definedTags : Option DefinedTags := none
  subnetId : String := ""
deriving DecidableEq

/-- An address that `net.ParseIP` accepts: how it is printed, and whether it is private. -/
structure ParsedIP where
  string : String
  isPrivate : Bool

/-- The answers to the calls about the network interfaces of an instance, and `net.ParseIP`. The
order is that of the loop over the tag namespaces. -/
structure NetworkProvider extends CloudProvider where
  getPrimaryVNICForInstance : String → String → Except ClientError (Option Vnic)
  getSecondaryVNICsForInstance : String → String → Except ClientError (List Vnic)
  parseIP : String → Option ParsedIP
  namespaceOrder : RangeOrder.{0} := .stored

/-- `errors.Wrap(err, msg)`. -/
def wrapError (msg : String) (err : ClientError) : ClientError := .other (wrap msg err.error)

/-! ## IP families of nodes -/

/-- The IP families that the labels of a node name. -/
def labelledIpFamily (node : Node) : List IPFamily :=
  (if (node.labels.lookup ipv4NodeIPFamilyLabel).isSome then [.ipv4] else []) ++
    if (node.labels.lookup ipv6NodeIPFamilyLabel).isSome then [.ipv6] else []

/-- One iteration of the loop over the nodes in `getNodeIpFamily`. -/
def ipFamilyOfNode (instanceId : String) (node : Node) :
    Except ClientError (Option (List IPFamily)) :=
  match mapProviderIDToResourceID node.providerID with
  | .error _ => .error (.other "Failed to map providerID to instanceID")
  | .ok providerID => .ok (if providerID = instanceId then some (labelledIpFamily node) else none)

namespace CloudProvider

def getNodeIpFamily (cp : CloudProvider) (instanceId : String) :
    Except ClientError (List IPFamily) :=
  match cp.nodeLister with
  | .error err => .error (.other (wrap "error listing nodes using node informer" err))
  | .ok nodeList => Search.search (ipFamilyOfNode instanceId) (.ok []) nodeList

end CloudProvider

/-! ## Addresses -/

section Parsing

variable (parseIP : String → Option ParsedIP)

/-- An address of a network interface; without one, or if it is empty, there is none. -/
def addressOf (type : NodeAddressType) (kind : String) (ip : Option String) :
    Except ClientError (List NodeAddress) :=
  match ip with
  | none => .ok []
  | some address =>
    if address = "" then .ok []
    else match parseIP address with
      | none => .error (.other ("instance has invalid " ++ kind ++ " address: " ++ address.quote))
      | some ip => .ok [⟨type, ip.string⟩]

/-- The private and the public address of a network interface. -/
def ipv4Addresses (vnic : Vnic) : Except ClientError (List NodeAddress) := do
  let privateIp ← addressOf parseIP .internalIP "private" vnic.privateIp
  let publicIp ← addressOf parseIP .externalIP "public" vnic.publicIp
  .ok (privateIp ++ publicIp)

/-- The IPv6 addresses of a network interface. The error names the first one. -/
def ipv6AddressesFrom (first : String) : List String → Except ClientError (List NodeAddress)
  | [] => .ok []
  | address :: rest =>
    if address = "" then ipv6AddressesFrom first rest
    else match parseIP address with
      | none => .error (.other ("instance has invalid ipv6 address: " ++ first.quote))
      | some ip => do
        let addresses ← ipv6AddressesFrom first rest
        .ok (⟨if ip.isPrivate then .internalIP else .externalIP, ip.string⟩ :: addresses)

end Parsing

namespace NetworkProvider

/-- The IPv6 addresses, if the node has the label for them. -/
def labelledIpv6Addresses (cp : NetworkProvider) (instanceID : String) (vnic : Vnic) :
    Except ClientError (List NodeAddress) := do
  let nodeIpFamily ← cp.getNodeIpFamily instanceID
  if .ipv6 ∈ nodeIpFamily then
    ipv6AddressesFrom cp.parseIP (vnic.ipv6Addresses.headD "") vnic.ipv6Addresses
  else .ok []

def getOpenShiftTagNamespaceByInstance (cp : NetworkProvider) (instanceID : String) : String :=
  match cp.getInstance instanceID with
  | .error _ => ""
  | .ok inst =>
    match inst.definedTags with
    | none => ""
    | some definedTags =>
      (((cp.namespaceOrder.range 0 definedTags).map Prod.fst).find?
        (hasPrefix · openShiftTagNamesapcePrefix)).getD ""

def checkOpenShiftISCSIBootVolumeTagByVnic (vnic : Vnic) (ns : String) : Bool :=
  (((vnic.definedTags.getD ∅).lookup ns).bind (NamespaceTags.get · openShiftBootVolumeType)) =
    some openShiftBootVolumeISCSI

/-- The addresses of a secondary network interface that is tagged for the boot volume. -/
def secondaryAddresses (cp : NetworkProvider) (ns : String) (secondaryVnic : Vnic) :
    Except ClientError (List NodeAddress) :=
  if checkOpenShiftISCSIBootVolumeTagByVnic secondaryVnic ns ∧
      secondaryVnic.isPrimary.getD false = false then ipv4Addresses cp.parseIP secondaryVnic
  else .ok []

/-- What OpenShift adds: the addresses of the secondary network interfaces, if there are any, and
those of IPv6 of the primary one for a second time. -/
def openShiftAddresses (cp : NetworkProvider) (compartmentID instanceID : String) (vnic : Vnic) :
    Except ClientError (List NodeAddress) :=
  let openShiftTagNamesapce := cp.getOpenShiftTagNamespaceByInstance instanceID
  if openShiftTagNamesapce = "" then .ok []
  else do
    let secondaryVnics ← cp.getSecondaryVNICsForInstance compartmentID instanceID
    if secondaryVnics = [] then .ok []
    else do
      let secondary ← secondaryVnics.mapM (cp.secondaryAddresses openShiftTagNamesapce)
      let ipv6 ← cp.labelledIpv6Addresses instanceID vnic
      .ok (secondary.flatten ++ ipv6)

def extractNodeAddresses (cp : NetworkProvider) (instanceID : String) :
    Except ClientError (List NodeAddress) := do
  let compartmentID ← cp.getCompartmentIDByInstanceID instanceID
  match cp.getPrimaryVNICForInstance compartmentID instanceID with
  | .error err => .error (wrapError "GetPrimaryVNICForInstance" err)
  | .ok none => .ok []
  | .ok (some vnic) =>
    let ipv4 ← ipv4Addresses cp.parseIP vnic
    let ipv6 ← cp.labelledIpv6Addresses instanceID vnic
    let openShift ← cp.openShiftAddresses compartmentID instanceID vnic
    .ok (ipv4 ++ ipv6 ++ openShift)

/-! ## Calls by provider id -/

def nodeAddressesByProviderID (cp : NetworkProvider) (providerID : String) :
    Except ClientError (List NodeAddress) :=
  match mapProviderIDToResourceID providerID with
  | .error err => .error (.other (wrap "MapProviderIDToResourceOCID" err))
  | .ok resourceID => cp.extractNodeAddresses resourceID

/-- The type of an instance, and the instance that is added to the cache, if any. -/
def instanceTypeByProviderID (cp : NetworkProvider) (providerID : String) :
    Except ClientError String × Option Instance :=
  match mapProviderIDToResourceID providerID with
  | .error err => (.error (.other (wrap "MapProviderIDToResourceOCID" err)), none)
  | .ok resourceID =>
    match cp.instanceCache resourceID with
    | .error err =>
      (.error (.other (wrap "error fetching instance from instanceCache, will retry" err)), none)
    | .ok (some inst) => (.ok inst.shape, none)
    | .ok none =>
      match cp.getInstance resourceID with
      | .error err => (.error (wrapError "GetInstance" err), none)
      | .ok inst => (.ok inst.shape, some inst)

def isInstanceInStoppedState (inst : Instance) : Bool :=
  inst.lifecycleState = .stopped || inst.lifecycleState = .stopping

def instanceShutdownByProviderID (cp : NetworkProvider) (providerID : String) :
    Except ClientError Bool :=
  match mapProviderIDToResourceID providerID with
  | .error err => .error (.other err)
  | .ok resourceID => (cp.getInstance resourceID).map isInstanceInStoppedState

end NetworkProvider

end OciCcm.Instances
