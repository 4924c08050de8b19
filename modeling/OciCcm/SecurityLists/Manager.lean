import OciCcm.SecurityLists.RuleFacts

/-! # The security list managers

A manager rewrites the security lists of the load balancer's subnets and of the
nodes' subnets. Both loops have one shape: for every subnet the list in charge
is read, its rules are computed anew, and it is written back if they changed.
So for every list a whole loop is a number of passes over that list, one for
each subnet that the list is in charge of.
-/

namespace OciCcm.SecurityLists

open Go Kubernetes LoadBalancer

structure SecurityList where
  ingressSecurityRules : List SecurityRule
  egressSecurityRules : List SecurityRule
  timeCreated : Nat
deriving DecidableEq, Repr

/-- The security lists that the networking service holds, by id. -/
abbrev Store := GoMap SecurityList

/-- The networking service, with its answers to the calls that it refuses. -/
structure NetworkingClient where
  getError : String → Option String := fun _ => none
  updateError : String → Option String := fun _ => none

namespace NetworkingClient

def getSecurityList (client : NetworkingClient) (store : Store) (id : String) :
    Except String SecurityList :=
  match client.getError id, store.lookup id with
  | some err, _ => .error err
  | none, some secList => .ok secList
  | none, none => .error ("security list " ++ id ++ " not found")

def updateSecurityList (client : NetworkingClient) (store : Store) (id : String)
    (ingressRules egressRules : List SecurityRule) : Except String Store :=
  match client.updateError id, store.lookup id with
  | some err, _ => .error err
  | none, some secList =>
    .ok (store.insert id
      { secList with ingressSecurityRules := ingressRules, egressSecurityRules := egressRules })
  | none, none => .error ("security list " ++ id ++ " not found")

end NetworkingClient

/-- What an update or deletion of rules is about. The fields for network security groups
are left out. -/
structure SecurityRuleComponents where
  sourceCIDRs : List String
  isPreserveSource : Bool
  lbSubnets : List SubnetWithLists
  backendSubnets : List SubnetWithLists
  actualPorts : Option PortSpec
  desiredPorts : PortSpec
  ipFamilies : List IpVersion
deriving DecidableEq, Repr

/-- A deletion wants no address block and gives up no port but its own. -/
def SecurityRuleComponents.forDelete (sc : SecurityRuleComponents) : SecurityRuleComponents :=
  { sc with
    sourceCIDRs := []
    lbSubnets := []
    backendSubnets := []
    actualPorts := some sc.desiredPorts }

structure BaseSecurityListManager where
  client : NetworkingClient := {}
  serviceLister : ServiceLister
  /-- The list in charge of a subnet, where the cloud provider's configuration names one. -/
  securityLists : GoMap String := ∅

/-- Do the new rules differ from the old ones in number, or is one of them new? -/
def rulesChanged (existingRules rules : List SecurityRule) : Bool :=
  rules.length ≠ existingRules.length || rules.any (· ∉ existingRules)

def securityListRulesChanged (securityList : SecurityList)
    (ingressRules egressRules : List SecurityRule) : Bool :=
  rulesChanged securityList.ingressSecurityRules ingressRules ||
    rulesChanged securityList.egressSecurityRules egressRules

/-- The first of the answers with the list that was created first. -/
def oldest {α : Type} (secList : α → SecurityList) (r : α) (rs : List α) : α :=
  rs.foldl (fun old r => if (secList r).timeCreated < (secList old).timeCreated then r else old) r

def quote (s : String) : String := "\"" ++ s ++ "\""

namespace BaseSecurityListManager

/-- A security list together with its id. -/
def response (s : BaseSecurityListManager) (store : Store) (id : String) :
    Except String (String × SecurityList) :=
  (s.client.getSecurityList store id).map (id, ·)

def getSecurityList (s : BaseSecurityListManager) (store : Store) (subnet : SubnetWithLists) :
    Except String (String × SecurityList) :=
  match subnet.securityListIds with
  | [] => .error "no security lists"
  | id₀ :: ids =>
    match (s.securityLists.lookup subnet.id).filter (· ∈ id₀ :: ids) with
    | some id => s.response store id
    | none => do
      let r ← s.response store id₀
      let rs ← ids.mapM (s.response store)
      .ok (oldest Prod.snd r rs)

/-- The common body of the two loops over subnets. -/
def rewriteStep (s : BaseSecurityListManager) (kind : String)
    (rewrite : SecurityList → List SecurityRule × List SecurityRule) (store : Store)
    (subnet : SubnetWithLists) : Except String Store := do
  let (id, secList) ← (s.getSecurityList store subnet).mapError
    (wrap ("get " ++ kind ++ "security list for subnet " ++ quote subnet.id))
  let (ingressRules, egressRules) := rewrite secList
  if securityListRulesChanged secList ingressRules egressRules then
    (s.client.updateSecurityList store id ingressRules egressRules).mapError
      (wrap ("update " ++ kind ++ "security list rules " ++ quote id ++ " for subnet " ++
        quote subnet.id))
  else .ok store

/-- The new rules of a list of a node subnet. -/
def backendRules (s : BaseSecurityListManager) (lbSubnets : List SubnetWithLists)
    (actualPorts : Option PortSpec) (desiredPorts : PortSpec) (sourceCIDRs : List String)
    (isPreserveSource : Bool) (ipFamilies : List IpVersion) (secList : SecurityList) :
    List SecurityRule × List SecurityRule :=
  (getNodeIngressRules secList.ingressSecurityRules lbSubnets actualPorts desiredPorts
    s.serviceLister sourceCIDRs isPreserveSource ipFamilies, secList.egressSecurityRules)

def updateBackendRules (s : BaseSecurityListManager)
    (lbSubnets nodeSubnets : List SubnetWithLists) (actualPorts : Option PortSpec)
    (desiredPorts : PortSpec) (sourceCIDRs : List String) (isPreserveSource : Bool)
    (ipFamilies : List IpVersion) (store : Store) : Except String Store :=
  nodeSubnets.foldlM (s.rewriteStep ""
    (s.backendRules lbSubnets actualPorts desiredPorts sourceCIDRs isPreserveSource ipFamilies))
    store

/-- The new rules of a list of a load balancer subnet. -/
def loadBalancerRules (s : BaseSecurityListManager) (nodeSubnets : List SubnetWithLists)
    (sourceCIDRs : List String) (actualPorts : Option PortSpec) (desiredPorts : PortSpec)
    (ipFamilies : List IpVersion) (secList : SecurityList) :
    List SecurityRule × List SecurityRule :=
  -- 0 denotes nil ports
  let currentBackEndPort := (actualPorts.map (·.backendPort)).getD 0
  let currentHealthCheck := (actualPorts.map (·.healthCheckerPort)).getD 0
  let lbEgressRules := getLoadBalancerEgressRules secList.egressSecurityRules nodeSubnets
    currentBackEndPort desiredPorts.backendPort s.serviceLister ipFamilies
  let lbEgressRules := getLoadBalancerEgressRules lbEgressRules nodeSubnets
    currentHealthCheck desiredPorts.healthCheckerPort s.serviceLister ipFamilies
  let lbIngressRules :=
    if desiredPorts.listenerPort ≠ 0 then
      getLoadBalancerIngressRules secList.ingressSecurityRules sourceCIDRs
        desiredPorts.listenerPort s.serviceLister
    else secList.ingressSecurityRules
  (lbIngressRules, lbEgressRules)

def updateLoadBalancerRules (s : BaseSecurityListManager)
    (lbSubnets nodeSubnets : List SubnetWithLists) (sourceCIDRs : List String)
    (actualPorts : Option PortSpec) (desiredPorts : PortSpec) (ipFamilies : List IpVersion)
    (store : Store) : Except String Store :=
  lbSubnets.foldlM (s.rewriteStep "lb "
    (s.loadBalancerRules nodeSubnets sourceCIDRs actualPorts desiredPorts ipFamilies)) store

/-! ## The managers of the three modes -/

def defaultUpdate (s : BaseSecurityListManager) (sc : SecurityRuleComponents) (store : Store) :
    Except String Store := do
  let store ← s.updateLoadBalancerRules sc.lbSubnets sc.backendSubnets sc.sourceCIDRs
    sc.actualPorts sc.desiredPorts sc.ipFamilies store
  s.updateBackendRules sc.lbSubnets sc.backendSubnets sc.actualPorts sc.desiredPorts
    sc.sourceCIDRs sc.isPreserveSource sc.ipFamilies store

/-- A deletion is an update without subnets and sources, and with the same old and new
ports. -/
def defaultDelete (s : BaseSecurityListManager) (sc : SecurityRuleComponents) (store : Store) :
    Except String Store := do
  let store ← s.updateLoadBalancerRules sc.lbSubnets [] [] (some sc.desiredPorts)
    sc.desiredPorts sc.ipFamilies store
  s.updateBackendRules [] sc.backendSubnets (some sc.desiredPorts) sc.desiredPorts []
    sc.isPreserveSource sc.ipFamilies store

def frontendUpdate (s : BaseSecurityListManager) (sc : SecurityRuleComponents) (store : Store) :
    Except String Store :=
  s.updateLoadBalancerRules sc.lbSubnets [] sc.sourceCIDRs sc.actualPorts sc.desiredPorts
    sc.ipFamilies store

def frontendDelete (s : BaseSecurityListManager) (sc : SecurityRuleComponents) (store : Store) :
    Except String Store :=
  s.updateLoadBalancerRules sc.lbSubnets [] [] (some sc.desiredPorts) sc.desiredPorts
    sc.ipFamilies store

/-- `Update` of the manager for the mode. -/
def update (s : BaseSecurityListManager) (mode : ManagementMode) (sc : SecurityRuleComponents)
    (store : Store) : Except String Store :=
  match mode with
  | .all => s.defaultUpdate sc store
  | .frontend => s.frontendUpdate sc store
  | .none | .nsg => .ok store

/-- `Delete` of the manager for the mode. -/
def delete (s : BaseSecurityListManager) (mode : ManagementMode) (sc : SecurityRuleComponents)
    (store : Store) : Except String Store :=
  match mode with
  | .all => s.defaultDelete sc store
  | .frontend => s.frontendDelete sc store
  | .none | .nsg => .ok store

end BaseSecurityListManager

end OciCcm.SecurityLists
