import OciCcm.LoadBalancer.LBSpec
import OciCcm.NetworkSecurityGroups.Reconcile

/-! # The groups of a load balancer

`EnsureLoadBalancer` and `EnsureLoadBalancerDeleted` for a service whose rules
are kept in network security groups: how the managed frontend group is looked
up, created, attached and deleted. What the two functions do besides is a step
that may fail.
-/

namespace OciCcm.NetworkSecurityGroups

open Go Kubernetes Client LoadBalancer List
open Program (Ensures Makes)

variable {RuleSet : Type} {limit : Option Nat}

/-! ## Annotations and names -/

def serviceAnnotationLoadBalancerNetworkSecurityGroups :=
  "oci.oraclecloud.com/oci-network-security-groups"
def serviceAnnotationNetworkLoadBalancerNetworkSecurityGroups :=
  "oci-network-load-balancer.oraclecloud.com/oci-network-security-groups"
def serviceAnnotationBackendSecurityRuleManagement :=
  "oci.oraclecloud.com/oci-backend-network-security-group"
def compartmentIDAnnotation := "oci.oraclecloud.com/compartment-id"

def lbMaximumNetworkSecurityGroupIds : Nat := 5
def maxNsgPerVnic : Nat := 5

/-- The loop over the ids of an annotation, which `n` ids have gone through before. Without a
limit the ids are not counted. -/
def collectNsgIds (limit : Option Nat) (key value : String) :
    Nat → List String → Except String (List String)
  | _, [] => .ok []
  | n, nsgOCID :: ids =>
    if limit.any (· < n + 1) then
      .error ("invalid number of Network Security Groups (Max: 5) provided for annotation: " ++ key)
    else if nsgOCID ≠ "" then
      (collectNsgIds limit key value (n + 1) ids).map (nsgOCID :: ·)
    else .error ("invalid NetworkSecurityGroups OCID: [" ++ value ++
      "] provided for annotation: " ++ key)

/-- The ids that an annotation lists, sorted and without duplicates. -/
def nsgIdsOf (limit : Option Nat) (svc : Service) (key : String) : Except String (List String) :=
  let value := svc.annotation key
  if value = "" then .ok []
  else collectNsgIds limit key value 0 (sortedList (split (removeSpaces value) ',').toFinset)

def getNetworkSecurityGroupIds (svc : Service) : Except String (List String) :=
  nsgIdsOf (some lbMaximumNetworkSecurityGroupIds) svc (match getLoadBalancerType svc with
    | .nlb => serviceAnnotationNetworkLoadBalancerNetworkSecurityGroups
    | .lb => serviceAnnotationLoadBalancerNetworkSecurityGroups)

def getManagedBackendNSG (svc : Service) : Except String (List String) :=
  nsgIdsOf none svc serviceAnnotationBackendSecurityRuleManagement

def requiresNsgManagement (svc : Service) : Bool :=
  toLower (svc.annotation serviceAnnotationLoadBalancerSecurityRuleManagementMode) = "nsg"

def getLoadBalancerCompartment (svc : Service) (clusterCompartment : String) : String :=
  (svc.annotations.lookup compartmentIDAnnotation).getD clusterCompartment

/-- The first argument is the value of the environment variable for a name's prefix. -/
def getLoadBalancerName (lbNamePrefix : String) (service : Service) : String :=
  cutTo 1024 (match getLoadBalancerType service with
    | .nlb => service.ns ++ "/" ++ service.name ++ "/" ++ service.uid
    | .lb =>
      (if lbNamePrefix ≠ "" ∧ !hasSuffix lbNamePrefix "-" then lbNamePrefix ++ "-"
        else lbNamePrefix) ++ service.uid)

def generateNsgName (service : Service) : String :=
  cutTo 255 (service.ns ++ "/" ++ service.name ++ "/" ++ service.uid ++ "/nsg")

/-- The description of a service's rules. -/
def ruleUid (service : Service) : String := "service-uid-" ++ service.uid

/-! ## Calls and their inputs -/

/-- The settings of the controller, and which errors of a create call blame the system tags. -/
structure ProviderConfig where
  compartmentID : String
  lbNamePrefix : String := ""
  isSystemTagNotFoundOrNotAuthorisedError : ClientError → Bool := fun _ => false

/-- A service, what the controller looks up for it, and the orders of the loops over maps. -/
structure Request where
  service : Service
  nodes : List Node := []
  lbSubnetIds : List String := []
  sslConfig : Option SSLConfig := none
  ipVersions : IpVersions
  backendSetsOrder : RangeOrder.{0} := .stored
  portsOrder : RangeOrder.{0} := .stored
  rulesOrder : RangeOrder.{0} := .stored

/-- A specification with its network security groups. -/
structure NsgSpec (RuleSet : Type) extends LBSpec RuleSet where
  name : String
  compartment : String
  networkSecurityGroupIds : List String
  /-- The field `backendNsgId` of the managed group. -/
  backendNsgId : List String

/-- The checks of `NewLBSpec` that are left out are part of a step before it. -/
def newNsgSpec (lib : Library RuleSet) (cfg : ProviderConfig) (r : Request) :
    Except String (NsgSpec RuleSet) := do
  let spec ← newLBSpec lib r.backendSetsOrder r.portsOrder r.service r.nodes r.lbSubnetIds
    r.sslConfig r.ipVersions
  let networkSecurityGroupIds ← getNetworkSecurityGroupIds r.service
  let backendNsgOcids ← getManagedBackendNSG r.service
  .ok { spec with
    name := getLoadBalancerName cfg.lbNamePrefix r.service
    compartment := getLoadBalancerCompartment r.service cfg.compartmentID
    networkSecurityGroupIds
    backendNsgId := if spec.securityListManager = .nsg then backendNsgOcids else [] }

/-- The value of an answer, or its error as it is. -/
def orError {α : Type} : Except ClientError α → Program α
  | .ok a => pure a
  | .error e => .done (.error e.error)

/-- A step besides the handling of groups. -/
def perform (step : ProviderStep) : Program Bool := .call (.other step) orError

/-! ## Looking up the managed group -/

/-- The id and the etag of the group if the controller has created it for the service. -/
def getFrontendNsg (uid id : String) : Program (String × Option String) :=
  .call (.getNetworkSecurityGroup id) fun
    | .error e => .done (.error e.error)
    | .ok (_, none) => pure ("", none)
    | .ok (nsg, some etag) =>
      if nsg.freeformTags.deepEqual (managedTags uid) then pure (id, some etag)
      else pure ("", none)

/-- The loops that stop at the first group that `lookup` finds. -/
def firstFrontendNsg (lookup : String → Program (String × Option String)) :
    List String → Program (String × Option String)
  | [] => pure ("", none)
  | id :: ids => do
    let found ← lookup id
    if found.1 ≠ "" then pure found else firstFrontendNsg lookup ids

/-- The error of the list call is overwritten: the loop then has nothing to go through. -/
def getFrontendNsgByName (displayName compartmentId uid : String) :
    Program (String × Option String) :=
  .call (.listNetworkSecurityGroups displayName compartmentId) fun r =>
    firstFrontendNsg (getFrontendNsg uid) (Except.toOption r |>.getD [])

/-- A lookup whose error is counted and not returned. -/
def getAttachedNsg (uid id : String) : Program (String × Option String) := do
  let found ← (getFrontendNsg uid id).attempt
  pure (found.toOption.getD ("", none))

/-- The managed group among those attached to a load balancer. -/
def getAttachedFrontendNsg (uid : String) (nsgs : List String) :
    Program (String × Option String) :=
  firstFrontendNsg (getAttachedNsg uid) nsgs

def deleteNsg (id etag : String) : Program PUnit :=
  .call (.deleteNetworkSecurityGroup id etag) orError

/-! ## EnsureLoadBalancer -/

def addFrontendNsgToSpec (spec : NsgSpec RuleSet) (frontendNsgId : String) : NsgSpec RuleSet :=
  if frontendNsgId ∈ spec.networkSecurityGroupIds then spec
  else { spec with
    networkSecurityGroupIds := spec.networkSecurityGroupIds ++ [frontendNsgId] }

/-- The id of the managed group, empty if none is found. A load balancer whose list of groups
is nil is not asked for it, and then no group is looked up. -/
def findFrontendNsg (spec : NsgSpec RuleSet) (lb : Option AttachedLoadBalancer) :
    Program (String × Option String) :=
  let byName := getFrontendNsgByName (generateNsgName spec.service) spec.compartment spec.service.uid
  match lb with
  | none => byName
  | some lb =>
    match lb.networkSecurityGroupIds with
    | none => pure ("", none)
    | some nsgs => do
      let found ← getAttachedFrontendNsg spec.service.uid nsgs
      if found.1 ≠ "" then pure found else byName

/-- The id of the managed group, which is created if none is found, and the specification
with that group. -/
def ensureFrontendNsg (spec : NsgSpec RuleSet) (lb : Option AttachedLoadBalancer) :
    Program (String × NsgSpec RuleSet) := do
  let (frontendNsgId, _) ← findFrontendNsg spec lb
  if frontendNsgId ≠ "" then pure (frontendNsgId, addFrontendNsgToSpec spec frontendNsgId)
  else if maxNsgPerVnic ≤ spec.networkSecurityGroupIds.length then
    .done (.error "invalid number of Network Security Groups (Max: 5) including managed nsg")
  else
    .call (.createNetworkSecurityGroup spec.compartment (generateNsgName spec.service)
        spec.service.uid) fun resp => do
      let frontendNsgId ← orError resp
      pure (frontendNsgId, addFrontendNsgToSpec spec frontendNsgId)

/-- The body of the loop that tags the backend groups. -/
def tagBackendNsg (nsg : String) : Program PUnit :=
  .call (.getNetworkSecurityGroup nsg) fun r => do
    let (resp, etag) ← orError r
    match resp.freeformTags.lookup "ManagedBy", etag with
    | none, some etag =>
      .call (.updateNetworkSecurityGroup nsg etag (resp.freeformTags.insert "ManagedBy" "CCM"))
        orError
    | _, _ => pure ⟨⟩

def NsgSpec.components (spec : NsgSpec RuleSet) (frontendNsgId : String) :
    SecurityRuleComponents where
  frontendNsgOcid := frontendNsgId
  backendNsgOcids := spec.backendNsgId
  ports := spec.ports
  sourceCIDRs := spec.sourceCIDRs
  isPreserveSource := spec.isPreserveSource
  serviceUid := ruleUid spec.service

/-- The backend groups are tagged and the rules of all groups are brought up to date. -/
def fillNsgs (o : RangeOrder.{0}) (spec : NsgSpec RuleSet) (frontendNsgId : String) :
    Program PUnit := do
  spec.backendNsgId.forM tagBackendNsg
  reconcileSecurityGroup o (spec.components frontendNsgId)

/-- The part of `EnsureLoadBalancer` for services that require it. -/
def manageNsgs (o : RangeOrder.{0}) (spec : NsgSpec RuleSet) (lb : Option AttachedLoadBalancer) :
    Program (NsgSpec RuleSet) := do
  let (frontendNsgId, spec) ← ensureFrontendNsg spec lb
  fillNsgs o spec frontendNsgId
  pure spec

/-- Its error is a value, with its text, as the caller looks at it. -/
def createLoadBalancer (spec : NsgSpec RuleSet) : Program (Except (ClientError × String) Bool) :=
  .call (.other .getSubnets) fun
    | .error e => pure (.error (e, e.error))
    | .ok _ =>
      .call (.createLoadBalancer spec.compartment spec.name spec.networkSecurityGroupIds) fun
        | .error e => pure (.error (e, wrap "creating load balancer" e.error))
        | .ok _ => .call (.other .awaitWorkRequest) fun r =>
          pure (r.mapError fun e => (e, wrap "awaiting load balancer" e.error))

/-- A load balancer is created, once more if the system tags are to blame. -/
def provisionLoadBalancer (cfg : ProviderConfig) (spec : NsgSpec RuleSet) : Program PUnit := do
  match ← createLoadBalancer spec with
  | .ok _ => pure ⟨⟩
  | .error (e, text) =>
    if cfg.isSystemTagNotFoundOrNotAuthorisedError e then do
      let status ← createLoadBalancer spec
      .done ((status.mapError Prod.snd).map fun _ => ⟨⟩)
    else .done (.error text)

def hasLoadBalancerNetworkSecurityGroupsChanged (actual desired : List String) : Bool :=
  actual.toFinset ≠ desired.toFinset

def updateLoadBalancerNetworkSecurityGroups (lbID : String) (spec : NsgSpec RuleSet) :
    Program PUnit :=
  .call (.updateNetworkSecurityGroups lbID spec.networkSecurityGroupIds) fun r => do
    orWrap "failed to create UpdateNetworkSecurityGroups request" r
    .call (.other .awaitWorkRequest) fun r => do
      let _ ← orWrap "failed to await UpdateNetworkSecurityGroups workrequest" r
      pure ⟨⟩

/-- The part of `updateLoadBalancer` from the check of the groups on. -/
def updateGroups (lbID : String) (lb : AttachedLoadBalancer) (spec : NsgSpec RuleSet) :
    Program PUnit :=
  if hasLoadBalancerNetworkSecurityGroupsChanged (lb.networkSecurityGroupIds.getD [])
      spec.networkSecurityGroupIds then do
    updateLoadBalancerNetworkSecurityGroups lbID spec
    let _ ← perform .updateShape
    pure ⟨⟩
  else do
    let _ ← perform .updateShape
    pure ⟨⟩

/-- The rest of `EnsureLoadBalancer` for a load balancer that exists. -/
def updateLoadBalancer (lbID : String) (lb : AttachedLoadBalancer) (spec : NsgSpec RuleSet) :
    Program PUnit := do
  let _ ← perform .checkLifecycleState
  let _ ← perform .ensureSSLCertificates
  let isNetworkPartition ← perform .checkForNetworkPartition
  if isNetworkPartition then pure ⟨⟩
  else do
    let _ ← perform .updateListenersAndBackendSets
    updateGroups lbID lb spec

def manageNsgsIfRequired (r : Request) (spec : NsgSpec RuleSet)
    (lb : Option AttachedLoadBalancer) : Program (NsgSpec RuleSet) :=
  if requiresNsgManagement r.service then manageNsgs r.rulesOrder spec lb else pure spec

/-- The end of `EnsureLoadBalancer`. -/
def createOrUpdateLoadBalancer (cfg : ProviderConfig) (spec : NsgSpec RuleSet) :
    Option (String × AttachedLoadBalancer) → Program PUnit
  | none => provisionLoadBalancer cfg spec
  | some (lbID, lb) => updateLoadBalancer lbID lb spec

/-- The part of `EnsureLoadBalancer` for the load balancer that has been looked up. -/
def ensureWith (lib : Library RuleSet) (cfg : ProviderConfig) (r : Request)
    (lb : Option (String × AttachedLoadBalancer)) : Program PUnit := do
  let _ ← perform .newLBSpec
  let spec ← Go.Program.done (newNsgSpec lib cfg r)
  let spec ← manageNsgsIfRequired r spec (lb.map Prod.snd)
  createOrUpdateLoadBalancer cfg spec lb

/-- The part of `EnsureLoadBalancer` that begins with the answer to the lookup. -/
def ensureLookedUp (lib : Library RuleSet) (cfg : ProviderConfig) (r : Request) :
    Except ClientError (String × AttachedLoadBalancer) → Program PUnit
  | .error e => if isNotFound e then ensureWith lib cfg r none else .done (.error e.error)
  | .ok lb => do
    let _ ← perform .checkPendingLBWorkRequests
    ensureWith lib cfg r (some lb)

def ensureLoadBalancer (lib : Library RuleSet) (cfg : ProviderConfig) (r : Request) :
    Program PUnit := do
  let _ ← perform .checkService
  .call (.getLoadBalancerByName (getLoadBalancerCompartment r.service cfg.compartmentID)
    (getLoadBalancerName cfg.lbNamePrefix r.service)) (ensureLookedUp lib cfg r)

/-! ## EnsureLoadBalancerDeleted -/

/-- The managed group is deleted if one has been found. -/
def deleteFrontendNsg : String × Option String → Program PUnit
  | (frontendNsgId, some etag) => if frontendNsgId ≠ "" then deleteNsg frontendNsgId etag else pure ⟨⟩
  | (_, none) => pure ⟨⟩

/-- In the mode for groups. The steps that can fail before and after the rules of the backend
groups are removed are the lookups of nodes and subnets and the loop over the listeners. -/
def cleanupSecurityRulesForLoadBalancerDelete (lib : Library RuleSet) (r : Request)
    (frontendNsgId : String) : Program PUnit := do
  let _ ← perform .cleanupSecurityRules
  let backendNsgIds ← Go.Program.done ((getManagedBackendNSG r.service).mapError
    (wrap "failed to get backend Nsgs from spec"))
  let isPreserveSource ← Go.Program.done ((getPreserveSource r.service).mapError
    (wrap "failed to determine value for is-preserve-source"))
  let ports ← Go.Program.done ((getPorts r.portsOrder r.service
    (convertOciIpVersionsToOciIpFamilies r.ipVersions.listenerBackendIpVersion)).mapError
      (wrap "failed to get ports from spec"))
  ifAny backendNsgIds fun backendNsgIds => removeBackendSecurityGroupRules {
    frontendNsgOcid := frontendNsgId
    backendNsgOcids := backendNsgIds
    ports, isPreserveSource
    -- the error of the source ranges is overwritten
    sourceCIDRs := (getLoadBalancerSourceRanges lib r.service).toOption.getD []
    serviceUid := ruleUid r.service }
  let _ ← perform .cleanupSecurityRules
  pure ⟨⟩

/-- The part of `EnsureLoadBalancerDeleted` for a load balancer that is gone. -/
def deleteLeftover (displayName compartmentId uid : String) : Program PUnit := do
  let found ← (getFrontendNsgByName displayName compartmentId uid).attempt
  match found with
  | .ok found => deleteFrontendNsg found
  | .error err => .done (.error (wrap "failed to get frontend NSG" err))

/-- Delete the load balancer, wait for the end of this and go on. -/
def deleteThen (name id : String) (next : Program PUnit) : Program PUnit :=
  .call (.deleteLoadBalancer id) fun resp => do
    orWrap ("delete load balancer \"" ++ id ++ "\"") resp
    .call (.other .awaitWorkRequest) fun resp => do
      let _ ← orWrap ("awaiting deletion of load balancer \"" ++ name ++ "\"") resp
      next

/-- The part of `EnsureLoadBalancerDeleted` for a load balancer that exists, in the mode for
groups. -/
def deleteExisting (lib : Library RuleSet) (r : Request) (name id : String)
    (lb : AttachedLoadBalancer) : Program PUnit := do
  let found ← getAttachedFrontendNsg r.service.uid (lb.networkSecurityGroupIds.getD [])
  cleanupSecurityRulesForLoadBalancerDelete lib r found.1
  deleteThen name id (deleteFrontendNsg found)

/-- The part of `EnsureLoadBalancerDeleted` for a load balancer that exists, in a mode without
groups. Without any management no rules are cleaned up. -/
def deleteWithoutNsgs (mode : ManagementMode) (name id : String) : Program PUnit := do
  let _ ← match mode with
    | .none => pure false
    | _ => perform .cleanupSecurityRules
  deleteThen name id (pure ⟨⟩)

/-- The part of `EnsureLoadBalancerDeleted` that begins with the answer to the lookup. -/
def deleteLookedUp (lib : Library RuleSet) (cfg : ProviderConfig) (r : Request)
    (mode : ManagementMode) (name : String) :
    Except ClientError (String × AttachedLoadBalancer) → Program PUnit
  | .error e =>
    if isNotFound e then
      if mode = .nsg then
        deleteLeftover (generateNsgName r.service)
          (getLoadBalancerCompartment r.service cfg.compartmentID) r.service.uid
      else pure ⟨⟩
    else .done (.error (wrap ("get load balancer \"" ++ name ++ "\" by name") e.error))
  | .ok (id, lb) =>
    if mode = .nsg then deleteExisting lib r name id lb else deleteWithoutNsgs mode name id

def ensureLoadBalancerDeleted (lib : Library RuleSet) (cfg : ProviderConfig) (r : Request) :
    Program PUnit := do
  let _ ← perform .checkService
  let mode ← Go.Program.done ((getRuleManagementMode r.service).mapError
    (wrap "failed to get rule management mode"))
  let name := getLoadBalancerName cfg.lbNamePrefix r.service
  .call (.getLoadBalancerByName (getLoadBalancerCompartment r.service cfg.compartmentID) name)
    (deleteLookedUp lib cfg r mode name)

/-! ## What a specification holds -/

theorem collectNsgIds_ok {key value : String} {n : Nat} {ids result : List String}
    (h : collectNsgIds limit key value n ids = .ok result) :
    result = ids ∧ "" ∉ ids ∧ ∀ k ∈ limit, ids ≠ [] → n + ids.length ≤ k := by
  induction ids generalizing n result with
  | nil =>
    cases h
    simp
  | cons id ids ih =>
    rw [collectNsgIds] at h
    split at h
    · cases h
    · next hlimit =>
      split at h
      · next hid =>
        obtain ⟨rest, hrest, rfl⟩ := map_ok h
        obtain ⟨rfl, hempty, hlength⟩ := ih hrest
        refine ⟨rfl, by simpa [hempty] using Ne.symm hid, fun k hk _ => ?_⟩
        have hn : n + 1 ≤ k := by
          obtain rfl := hk
          simpa using hlimit
        rcases eq_or_ne rest [] with rfl | hne
        · exact hn
        · have := hlength k hk hne
          rw [length_cons]
          omega
      · cases h

theorem nsgIdsOf_ok {svc : Service} {key : String} {ids : List String}
    (h : nsgIdsOf limit svc key = .ok ids) :
    ids.Nodup ∧ "" ∉ ids ∧ ∀ k ∈ limit, ids.length ≤ k := by
  unfold nsgIdsOf at h
  dsimp only at h
  split at h
  · cases h
    simp
  · obtain ⟨hids, hempty, hlength⟩ := collectNsgIds_ok h
    rw [← hids] at hempty hlength
    refine ⟨hids ▸ nodup_sortedList _, hempty, fun k hk => ?_⟩
    rcases eq_or_ne ids [] with hnil | hne
    · simp [hnil]
    · simpa using hlength k hk hne

theorem getRuleManagementMode_of_requires {svc : Service}
    (h : requiresNsgManagement svc = true) : getRuleManagementMode svc = .ok .nsg := by
  unfold requiresNsgManagement at h
  unfold getRuleManagementMode
  rw [decide_eq_true_eq, Service.annotation] at h
  cases hv : svc.annotations.lookup serviceAnnotationLoadBalancerSecurityRuleManagementMode with
  | none =>
    rw [hv] at h
    exact absurd h (by decide)
  | some v =>
    rw [hv, Option.getD_some] at h
    dsimp only
    rw [h, if_neg (by decide), if_neg (by decide), if_pos (by decide)]

theorem newNsgSpec_ok {lib : Library RuleSet} {cfg : ProviderConfig} {r : Request}
    {spec : NsgSpec RuleSet} (h : newNsgSpec lib cfg r = .ok spec) :
    spec.service = r.service ∧ getNetworkSecurityGroupIds r.service = .ok spec.networkSecurityGroupIds ∧
    spec.compartment = getLoadBalancerCompartment r.service cfg.compartmentID ∧
    (requiresNsgManagement r.service = true →
      getManagedBackendNSG r.service = .ok spec.backendNsgId) := by
  unfold newNsgSpec at h
  obtain ⟨lbSpec, hlbSpec, h⟩ := bind_ok h
  obtain ⟨ids, hids, h⟩ := bind_ok h
  obtain ⟨backends, hbackends, h⟩ := bind_ok h
  cases h
  have hbuilt := newLBSpec_ok hlbSpec
  have hmode := hbuilt.securityListManager
  refine ⟨hbuilt.service, hids, rfl, fun hnsg => ?_⟩
  rw [getRuleManagementMode_of_requires hnsg] at hmode
  rw [hbackends, ← Except.ok.inj hmode, if_pos rfl]

/-! ## What the lookups find -/

section Lookups

/-- The controller takes the group for one that it has created for the service. -/
def Cloud.Recognised (s : Cloud) (uid id : String) : Prop :=
  ∃ nsg, s.nsgs.lookup id = some nsg ∧ nsg.freeformTags.deepEqual (managedTags uid) = true

/-- The id and the etag of a recognised group. -/
def Cloud.Found (s : Cloud) (uid : String) (found : String × Option String) : Prop :=
  found.1 ≠ "" ∧ ∃ nsg, s.nsgs.lookup found.1 = some nsg ∧
    nsg.freeformTags.deepEqual (managedTags uid) = true ∧ found.2 = some nsg.etag

/-- The server may answer the call with an error. -/
def MayFail (May : Cloud → Call → Reply → Prop) (s : Cloud) (q : Call) : Prop :=
  ∃ f, May s q f ∧ f.error ≠ none

/-- Calls that look for groups. -/
def Call.IsLookup : Call → Prop
  | getNetworkSecurityGroup _ | listNetworkSecurityGroups _ _ => True
  | _ => False

variable {May : Cloud → Call → Reply → Prop} {Inv : Cloud → Call → Cloud → Prop} {s : Cloud}
  {uid : String} {post : Except String (String × Option String) → Cloud → Prop}

/-- A lookup of one group, in which nothing changes: the group is found, or it is `Missing`, or
the lookup returns an error, for the reason `Fail`. -/
def Looked (s : Cloud) (uid id : String) (Missing Fail : Prop) :
    Except String (String × Option String) → Cloud → Prop
  | .ok found, s' => s' = s ∧ ((found.1 = id ∧ s.Found uid found) ∨ (found.1 = "" ∧ Missing))
  | .error _, s' => s' = s ∧ Fail

theorem ensures_getFrontendNsg (id : String)
    (hinv : ∀ q : Call, q.IsLookup → Inv s q s) :
    Ensures serve May Inv (Looked s uid id (id = "" ∨ ¬ s.Recognised uid id)
      (s.nsgs.lookup id = none ∨ MayFail May s (.getNetworkSecurityGroup id)))
      (getFrontendNsg uid id) s := by
  intro f hf
  refine ⟨hinv _ trivial, ?_⟩
  simp only [serve, Reply.answer]
  cases he : f.error with
  | some e => exact ⟨rfl, .inr ⟨f, hf, by simp [he]⟩⟩
  | none =>
    cases hnsg : s.nsgs.lookup id with
    | none => exact ⟨rfl, .inl rfl⟩
    | some nsg =>
      dsimp only
      split
      · next htags =>
        by_cases hid : id = ""
        · exact ⟨rfl, .inr ⟨hid, .inl hid⟩⟩
        · exact ⟨rfl, .inl ⟨rfl, hid, nsg, hnsg, htags, rfl⟩⟩
      · next htags =>
        refine ⟨rfl, .inr ⟨rfl, .inr ?_⟩⟩
        rintro ⟨nsg', hnsg', htags'⟩
        obtain rfl := Option.some.inj (hnsg.symm.trans hnsg')
        exact htags htags'

theorem ensures_getAttachedNsg (id : String) (hinv : ∀ q : Call, q.IsLookup → Inv s q s) :
    Ensures serve May Inv (Looked s uid id ((id = "" ∨ ¬ s.Recognised uid id) ∨
      MayFail May s (.getNetworkSecurityGroup id)) False) (getAttachedNsg uid id) s := by
  refine Ensures.bind (Ensures.attempt ((ensures_getFrontendNsg id hinv).mono
    (fun _ _ _ h => h) ?_))
  rintro (e | found) s' ⟨rfl, h⟩
  · refine ⟨rfl, .inr ⟨rfl, ?_⟩⟩
    rcases h with hnone | hfail
    · refine .inl (.inr ?_)
      rintro ⟨nsg, hnsg, -⟩
      rw [hnone] at hnsg
      cases hnsg
    · exact .inr hfail
  · exact ⟨rfl, h.imp_right fun h => ⟨h.1, .inl h.2⟩⟩

theorem ensures_firstFrontendNsg {lookup : String → Program (String × Option String)}
    {ids : List String} {Missing Fail : String → Prop}
    (hlookup : ∀ id ∈ ids,
      Ensures serve May Inv (Looked s uid id (Missing id) (Fail id)) (lookup id) s)
    (hfound : ∀ found, found.1 ∈ ids → s.Found uid found → post (.ok found) s)
    (hnone : (∀ id ∈ ids, Missing id) → post (.ok ("", none)) s)
    (hfail : ∀ id ∈ ids, Fail id → ∀ e, post (.error e) s) :
    Ensures serve May Inv post (firstFrontendNsg lookup ids) s := by
  induction ids with
  | nil => exact hnone (by simp)
  | cons id ids ih =>
    refine Ensures.bind ((hlookup id mem_cons_self).mono (fun _ _ _ h => h) ?_)
    rintro (e | found) s' ⟨rfl, h⟩
    · exact hfail id mem_cons_self h e
    · rcases h with ⟨hid, hmem⟩ | ⟨hid, hmissing⟩
      · dsimp only
        rw [if_pos hmem.1]
        exact hfound found (hid ▸ mem_cons_self) hmem
      · dsimp only
        rw [if_neg (not_not.mpr hid)]
        refine ih (fun id' hid' => hlookup id' (mem_cons_of_mem _ hid'))
          (fun found hmem => hfound found (mem_cons_of_mem _ hmem)) (fun hrest => hnone ?_)
          (fun id' hid' => hfail id' (mem_cons_of_mem _ hid'))
        intro id' hid'
        rcases mem_cons.mp hid' with rfl | hid'
        · exact hmissing
        · exact hrest id' hid'

/-- No recognised group has the given name and compartment. -/
def Cloud.NoneNamed (s : Cloud) (displayName compartmentId uid : String) : Prop :=
  ∀ id nsg, s.nsgs.lookup id = some nsg → nsg.displayName = displayName →
    nsg.compartmentId = compartmentId → id = "" ∨ ¬ s.Recognised uid id

theorem ensures_getFrontendNsgByName {displayName compartmentId : String}
    (hinv : ∀ q : Call, q.IsLookup → Inv s q s)
    (hfound : ∀ found, s.Found uid found → post (.ok found) s)
    (hnone : MayFail May s (.listNetworkSecurityGroups displayName compartmentId) ∨
      s.NoneNamed displayName compartmentId uid → post (.ok ("", none)) s)
    (hfail : ∀ id, MayFail May s (.getNetworkSecurityGroup id) → ∀ e, post (.error e) s) :
    Ensures serve May Inv post (getFrontendNsgByName displayName compartmentId uid) s := by
  intro f hf
  refine ⟨hinv _ trivial, ?_⟩
  simp only [serve, Reply.answer]
  cases he : f.error with
  | some e => exact hnone (.inl ⟨f, hf, by simp [he]⟩)
  | none =>
    refine ensures_firstFrontendNsg (fun id _ => ensures_getFrontendNsg id hinv)
      (fun found _ => hfound found) (fun hmissing => hnone (.inr ?_)) ?_
    · intro id nsg hnsg hname hcompartment
      refine hmissing id (mem_map.mpr ⟨(id, nsg), ?_, rfl⟩)
      simpa [hname, hcompartment] using GoMap.mem_toPairs.mpr hnsg
    · intro id hid hor
      rcases hor with hlookup | hmay
      · obtain ⟨⟨id', nsg⟩, hmem, rfl⟩ := mem_map.mp hid
        have hnsg := GoMap.mem_toPairs.mp (mem_filter.mp hmem).1
        rw [hlookup] at hnsg
        cases hnsg
      · exact hfail id hmay

/-- The managed group is not looked up by its name. -/
def NotAsked (lb : Option AttachedLoadBalancer) : Prop :=
  ∃ lb' ∈ lb, lb'.networkSecurityGroupIds = none

theorem ensures_findFrontendNsg {spec : NsgSpec RuleSet} {lb : Option AttachedLoadBalancer}
    (huid : spec.service.uid = uid) (hinv : ∀ q : Call, q.IsLookup → Inv s q s)
    (hfound : ∀ found, s.Found uid found → post (.ok found) s)
    (hnone : NotAsked lb ∨ MayFail May s (.listNetworkSecurityGroups
        (generateNsgName spec.service) spec.compartment) ∨
      s.NoneNamed (generateNsgName spec.service) spec.compartment uid → post (.ok ("", none)) s)
    (hfail : ∀ id, MayFail May s (.getNetworkSecurityGroup id) → ∀ e, post (.error e) s) :
    Ensures serve May Inv post (findFrontendNsg spec lb) s := by
  subst huid
  have hbyName : Ensures serve May Inv post (getFrontendNsgByName (generateNsgName spec.service)
      spec.compartment spec.service.uid) s :=
    ensures_getFrontendNsgByName hinv hfound (fun h => hnone (.inr h)) hfail
  unfold findFrontendNsg
  cases lb with
  | none => exact hbyName
  | some lb =>
    dsimp only
    cases hnsgs : lb.networkSecurityGroupIds with
    | none => exact hnone (.inl ⟨lb, rfl, hnsgs⟩)
    | some nsgs =>
      refine Ensures.bind (ensures_firstFrontendNsg
        (fun id _ => ensures_getAttachedNsg id hinv) (fun found _ hmem => ?_) (fun _ => ?_)
        fun _ _ h => h.elim)
      · dsimp only
        rw [if_pos hmem.1]
        exact hfound found hmem
      · exact hbyName

end Lookups

/-! ## Which calls are made -/

section Makes

/-- Calls that leave the load balancers alone. -/
def Call.IsGroupCall : Call → Prop
  | createLoadBalancer _ _ _ | updateNetworkSecurityGroups _ _ | deleteLoadBalancer _ => False
  | _ => True

/-- Calls that leave the groups alone, and give a load balancer the groups `ids`. -/
def Call.Attaches (ids : List String) : Call → Prop
  | createLoadBalancer _ _ ids' | updateNetworkSecurityGroups _ ids' => ids' = ids
  | other _ => True
  | _ => False

variable {C : Call → Prop} {α : Type}

theorem makes_orError (a : Except ClientError α) : Makes C (orError a) := by
  cases a <;> trivial

theorem makes_orWrap (message : String) (a : Except ClientError α) :
    Makes C (orWrap message a) := by
  cases a <;> trivial

theorem makes_perform {step : ProviderStep} (h : C (.other step)) : Makes C (perform step) :=
  ⟨h, makes_orError⟩

theorem makes_getNsg (id : String) : Makes Call.IsGroupCall (getNsg id) := by
  unfold getNsg
  split
  · trivial
  · exact ⟨trivial, fun _ => (makes_orWrap _ _).bind fun _ => trivial⟩

theorem makes_listNsgRules (id : String) (direction : Direction) :
    Makes Call.IsGroupCall (listNsgRules id direction) := by
  unfold listNsgRules
  split
  · trivial
  · exact ⟨trivial, makes_orWrap _⟩

theorem makes_ifAny {xs : List α} {action : List α → Program PUnit} (h : Makes C (action xs)) :
    Makes C (ifAny xs action) := by
  unfold ifAny
  split
  · exact h
  · trivial

theorem makes_changeRules (nsg : String) (adds : List SecurityRule) (removes : List String) :
    Makes Call.IsGroupCall (changeRules nsg adds removes) := by
  refine (makes_ifAny ?_).bind fun _ => makes_ifAny ?_
  all_goals exact Makes.forM fun _ _ => ⟨trivial, makes_orWrap _⟩

theorem makes_reconcileSecurityGroup (o : RangeOrder) (c : SecurityRuleComponents) :
    Makes Call.IsGroupCall (reconcileSecurityGroup o c) := by
  refine Makes.bind ?_ fun _ => Makes.forM fun _ _ => ?_
  · exact (makes_getNsg _).bind fun _ => (makes_listNsgRules _ _).bind fun _ =>
      (makes_listNsgRules _ _).bind fun _ => makes_changeRules _ _ _
  · exact (makes_getNsg _).bind fun _ => (makes_listNsgRules _ _).bind fun _ =>
      makes_changeRules _ _ _

theorem makes_tagBackendNsg (nsg : String) : Makes Call.IsGroupCall (tagBackendNsg nsg) := by
  refine ⟨trivial, fun a => (makes_orError a).bind fun ⟨resp, etag⟩ => ?_⟩
  dsimp only
  split
  · exact ⟨trivial, makes_orError⟩
  · trivial

theorem makes_fillNsgs (o : RangeOrder.{0}) (spec : NsgSpec RuleSet) (frontendNsgId : String) :
    Makes Call.IsGroupCall (fillNsgs o spec frontendNsgId) :=
  (Makes.forM fun _ _ => makes_tagBackendNsg _).bind fun _ => makes_reconcileSecurityGroup _ _

theorem makes_createLoadBalancer (spec : NsgSpec RuleSet) :
    Makes (Call.Attaches spec.networkSecurityGroupIds) (createLoadBalancer spec) := by
  refine ⟨trivial, fun a => ?_⟩
  cases a with
  | error e => trivial
  | ok _ =>
    refine ⟨rfl, fun a => ?_⟩
    cases a with
    | error e => trivial
    | ok _ => exact ⟨trivial, fun _ => trivial⟩

theorem makes_provisionLoadBalancer (cfg : ProviderConfig) (spec : NsgSpec RuleSet) :
    Makes (Call.Attaches spec.networkSecurityGroupIds) (provisionLoadBalancer cfg spec) := by
  refine (makes_createLoadBalancer spec).bind fun a => ?_
  rcases a with ⟨e, text⟩ | _
  · dsimp only
    split
    · exact (makes_createLoadBalancer spec).bind fun _ => trivial
    · trivial
  · trivial

theorem makes_updateGroups (lbID : String) (lb : AttachedLoadBalancer) (spec : NsgSpec RuleSet) :
    Makes (Call.Attaches spec.networkSecurityGroupIds) (updateGroups lbID lb spec) := by
  have hshape : Makes (Call.Attaches spec.networkSecurityGroupIds)
      (perform .updateShape >>= fun _ => pure PUnit.unit) :=
    (makes_perform trivial).bind fun _ => trivial
  unfold updateGroups
  split
  · refine Makes.bind ⟨rfl, fun a => (makes_orWrap _ a).bind fun _ => ?_⟩ fun _ => hshape
    exact ⟨trivial, fun a => (makes_orWrap _ a).bind fun _ => trivial⟩
  · exact hshape

theorem makes_createOrUpdateLoadBalancer (cfg : ProviderConfig) (spec : NsgSpec RuleSet)
    (lb : Option (String × AttachedLoadBalancer)) :
    Makes (Call.Attaches spec.networkSecurityGroupIds)
      (createOrUpdateLoadBalancer cfg spec lb) := by
  rcases lb with _ | ⟨lbID, lb⟩
  · exact makes_provisionLoadBalancer cfg spec
  · refine (makes_perform trivial).bind fun _ => (makes_perform trivial).bind fun _ =>
      (makes_perform trivial).bind fun partition => ?_
    split
    · trivial
    · exact (makes_perform trivial).bind fun _ => makes_updateGroups lbID lb spec

end Makes

/-! ## What the other steps do -/

section Steps

variable {May : Cloud → Call → Reply → Prop} {Inv : Cloud → Call → Cloud → Prop} {s : Cloud}
  {id : String} {nsg : NetworkSecurityGroup} {I : Cloud → Prop}

theorem ensures_perform {step : ProviderStep} {post : Except String Bool → Cloud → Prop}
    (hinv : Inv s (.other step) s) (hok : ∀ b, post (.ok b) s)
    (herr : MayFail May s (.other step) → ∀ e, post (.error e) s) :
    Ensures serve May Inv post (perform step) s := by
  intro f hf
  refine ⟨hinv, ?_⟩
  simp only [serve, Reply.answer]
  cases he : f.error with
  | some e => exact herr ⟨f, hf, by simp [he]⟩ _
  | none => exact hok _

/-- The cloud after a backend group has been tagged. -/
def Cloud.tagged (s : Cloud) (id : String) (nsg : NetworkSecurityGroup) (etag : String) : Cloud :=
  { s with
    nsgs := s.nsgs.insert id
      { nsg with freeformTags := nsg.freeformTags.insert "ManagedBy" "CCM", etag } }

theorem Cloud.rules_tagged {etag : String} (hnsg : s.nsgs.lookup id = some nsg) (id' : String) :
    (s.tagged id nsg etag).rules id' = s.rules id' := by
  simp only [rules, tagged, GoMap.lookup_insert_eq_ite]
  split
  · next h =>
    subst h
    simp [hnsg]
  · rfl

theorem Cloud.wellFormed_tagged {etag : String} (hnsg : s.nsgs.lookup id = some nsg)
    (hs : s.WellFormed) :
    (s.tagged id nsg etag).WellFormed where
  nodup id' := by
    rw [rules_tagged hnsg]
    exact hs.nodup id'
  issued id' rule hrule := by
    rw [rules_tagged hnsg] at hrule
    exact hs.issued id' rule hrule

/-- Tagging a group keeps what the tag keeps. -/
theorem ensures_tagBackendNsg (hs : I s)
    (htag : ∀ nsg etag, s.nsgs.lookup id = some nsg → I (s.tagged id nsg etag)) :
    Ensures serve May (fun _ _ => I) (fun r s' => I s' ∧ match r with
      | .ok _ => True
      | .error _ => Trouble May s id) (tagBackendNsg id) s := by
  intro f hf
  refine ⟨hs, ?_⟩
  simp only [serve, Reply.answer]
  cases he : f.error with
  | some e => exact ⟨hs, .inr ⟨s, _, f, hf, by simp [he]⟩⟩
  | none =>
    cases hnsg : s.nsgs.lookup id with
    | none => exact ⟨hs, .inl (by simp [Cloud.group, hnsg])⟩
    | some nsg =>
      change Ensures serve May _ _ (match nsg.freeformTags.lookup "ManagedBy", some nsg.etag with
        | none, some etag => _
        | _, _ => _) s
      split
      · next etag _ hetag =>
        cases hetag
        intro f' hf'
        have hafter : I (serve s (.updateNetworkSecurityGroup id nsg.etag
            (nsg.freeformTags.insert "ManagedBy" "CCM")) f').1 := by
          simp only [serve, hnsg, if_true]
          split
          · exact htag nsg f'.etag hnsg
          · exact hs
        refine ⟨hafter, ?_⟩
        have hanswer : (serve s (.updateNetworkSecurityGroup id nsg.etag
            (nsg.freeformTags.insert "ManagedBy" "CCM")) f').2 = f'.answer (.ok ()) := by
          simp only [serve, hnsg, if_true]
        rw [hanswer, Reply.answer]
        cases he' : f'.error with
        | some e => exact ⟨hafter, .inr ⟨s, _, f', hf', by simp [he']⟩⟩
        | none => exact ⟨hafter, trivial⟩
      · exact ⟨hs, trivial⟩

theorem ensures_fillNsgs {o : RangeOrder.{0}} {spec : NsgSpec RuleSet} {frontendNsgId : String}
    (hMay : ∀ s q f, May s q f → Legal s q f) (hI : ∀ s, I s → s.WellFormed) (hs : I s)
    (htag : ∀ s id nsg etag, id ∈ spec.backendNsgId → I s → s.nsgs.lookup id = some nsg →
      I (s.tagged id nsg etag)) (hfrontend : ∀ s adds removes s', I s →
      (∀ rule ∈ adds, rule.description = some (ruleUid spec.service)) →
      Changed s frontendNsgId adds removes s' → I s')
    (hbackend : ∀ s id adds removes s', id ∈ spec.backendNsgId → I s →
      (∀ rule ∈ adds, rule.direction = .ingress ∧ rule.description = some (ruleUid spec.service)) →
      Changed s id adds removes s' → I s') :
    Ensures serve May (fun _ _ => I) (fun r s' => I s' ∧ match r with
      | .ok _ => True
      | .error _ => ∃ id ∈ frontendNsgId :: spec.backendNsgId, FailsIn May I id)
      (fillNsgs o spec frontendNsgId) s := by
  refine Ensures.bind ?_
  refine @Ensures.forM _ _ _ _ _ serve May _ s _ _ _ _ (fun _ => I) hs ?_ fun s₁ h₁ => ?_
  · rintro before id after s₁ hsplit h₁
    have hid : id ∈ spec.backendNsgId := hsplit ▸ mem_append_right _ mem_cons_self
    refine (ensures_tagBackendNsg h₁ fun nsg etag => htag s₁ id nsg etag hid h₁).mono
      (fun _ _ _ h => h) ?_
    rintro (e | _) s₂ ⟨h₂, htrouble⟩
    · exact ⟨h₂, id, mem_cons_of_mem _ hid, .inr ⟨s₁, h₁, htrouble⟩⟩
    · exact h₂
  · exact ensures_reconcile_keeps hMay hI h₁
      (fun s adds removes s' h hadds => hfrontend s adds removes s' h fun rule hrule =>
        SecurityRuleComponents.description_of_mem_frontendRules (hadds rule hrule))
      fun s nsg i adds removes s' hnsg h hadds => hbackend s nsg adds removes s' hnsg h
        fun rule hrule => SecurityRuleComponents.of_mem_backendIngressRules
          (c := spec.components frontendNsgId) (hadds rule hrule)

end Steps

end OciCcm.NetworkSecurityGroups
