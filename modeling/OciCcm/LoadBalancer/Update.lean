import OciCcm.LoadBalancer.Actions
import OciCcm.SecurityLists.Manager

/-! # Updating a load balancer

`updateLoadBalancer` compares a load balancer with a specification and takes
the actions one after the other. Before each call on the load balancer the
security lists are changed for the ports of the action. The steps that concern
neither listeners, backend sets and rule sets nor security lists are left out.
-/

namespace OciCcm.LoadBalancer

open Go SecurityLists

variable {RuleSet : Type}

/-- The load balancer and the security lists. -/
structure CloudState (RuleSet : Type) where
  loadBalancer : LoadBalancerState RuleSet
  securityLists : Store

structure CloudLoadBalancerProvider (RuleSet : Type) where
  securityListManager : BaseSecurityListManager
  /-- The error of the call for an action, or of waiting for its work request. -/
  actionError : Action RuleSet → Option String := fun _ => none

/-- The subnets of the load balancer and of the nodes. -/
structure Subnets where
  lbSubnets : List SubnetWithLists
  nodeSubnets : List SubnetWithLists

/-- What a change of the rules is about, for the given sources and ports. -/
def securityRuleComponents (subnets : Subnets) (spec : LBSpec RuleSet) (sourceCIDRs : List String)
    (actualPorts : Option PortSpec) (desiredPorts : PortSpec) : SecurityRuleComponents where
  sourceCIDRs := sourceCIDRs
  isPreserveSource := spec.isPreserveSource
  lbSubnets := subnets.lbSubnets
  backendSubnets := subnets.nodeSubnets
  actualPorts := actualPorts
  desiredPorts := desiredPorts
  ipFamilies := convertOciIpVersionsToOciIpFamilies spec.ipVersions.listenerBackendIpVersion

namespace CloudLoadBalancerProvider

variable (clb : CloudLoadBalancerProvider RuleSet) (subnets : Subnets) (spec : LBSpec RuleSet)

/-- The call on the load balancer. -/
def call (action : Action RuleSet) (st : CloudState RuleSet) :
    Except String (CloudState RuleSet) :=
  match clb.actionError action with
  | some err => .error err
  | none => .ok { st with loadBalancer := st.loadBalancer.apply action }

/-- `Update` of the security list manager. -/
def updateRules (sc : SecurityRuleComponents) (st : CloudState RuleSet) :
    Except String (CloudState RuleSet) := do
  let store ← clb.securityListManager.update spec.securityListManager sc st.securityLists
  .ok { st with securityLists := store }

/-- `Delete` of the security list manager. -/
def deleteRules (sc : SecurityRuleComponents) (st : CloudState RuleSet) :
    Except String (CloudState RuleSet) := do
  let store ← clb.securityListManager.delete spec.securityListManager sc st.securityLists
  .ok { st with securityLists := store }

def updateSecurityListsInCriticalSection (o : RangeOrder.{0}) (st : CloudState RuleSet) :
    Except String (CloudState RuleSet) :=
  (o.range 0 spec.ports).foldlM (fun st entry =>
    clb.updateRules spec (securityRuleComponents subnets spec spec.sourceCIDRs none entry.2) st) st

/-- Sources are given for updates only: backend sets see them when addresses are preserved. -/
def updateBackendSet (action : BackendSetAction) (st : CloudState RuleSet) :
    Except String (CloudState RuleSet) := do
  let sc := securityRuleComponents subnets spec [] none action.ports
  let st ← match action.actionType with
    | .create => clb.updateRules spec sc st
    | .update =>
      let sc := { sc with actualPorts := action.oldPorts, sourceCIDRs := spec.sourceCIDRs }
      clb.updateRules spec sc st
    | .delete => clb.deleteRules spec sc st
  clb.call (.backendSet action) st

def updateListener (action : ListenerAction) (ports : PortSpec) (st : CloudState RuleSet) :
    Except String (CloudState RuleSet) := do
  let ports := { ports with listenerPort := action.listener.port }
  let sc := securityRuleComponents subnets spec spec.sourceCIDRs none ports
  let st ← match action.actionType with
    | .create | .update => clb.updateRules spec sc st
    | .delete => clb.deleteRules spec sc st
  clb.call (.listener action) st

def updateRuleSet (action : RuleSetAction RuleSet) (st : CloudState RuleSet) :
    Except String (CloudState RuleSet) :=
  clb.call (.ruleSet action) st

/-- The ports of a listener: those of its backend set in the specification, or on the load
balancer if the listener is deleted. -/
def listenerPorts (lb : LoadBalancerState RuleSet) (spec : LBSpec RuleSet)
    (action : ListenerAction) : PortSpec :=
  let backendSetName := action.listener.defaultBackendSetName
  if action.actionType = .delete then
    ((lb.backendSets.lookup backendSetName).map portsFromBackendSet).getD {}
  else (spec.ports.lookup backendSetName).getD {}

/-- One action of `updateLoadBalancer`, for the load balancer as it was at the start. -/
def takeAction (lb : LoadBalancerState RuleSet) (st : CloudState RuleSet) :
    Action RuleSet → Except String (CloudState RuleSet)
  | .backendSet a => (clb.updateBackendSet subnets spec a st).mapError (wrap "updating BackendSet")
  | .listener a =>
    (clb.updateListener subnets spec a (listenerPorts lb spec a) st).mapError
      (wrap "updating listener")
  | .ruleSet a => (clb.updateRuleSet a st).mapError (wrap "updating RuleSet")

/-- The answers for the subnets are given. -/
def updateLoadBalancer [DecidableEq RuleSet] (o : ChangeOrders) (portsOrder : RangeOrder.{0})
    (lbSubnets nodeSubnets : Except String (List SubnetWithLists)) (st : CloudState RuleSet) :
    Except String (CloudState RuleSet) := do
  let lbSubnets ← lbSubnets.mapError (wrap "getting load balancer subnets")
  let nodeSubnets ← nodeSubnets.mapError (wrap "get subnets for nodes")
  let subnets : Subnets := ⟨lbSubnets, nodeSubnets⟩
  let lb := st.loadBalancer
  let backendSetActions := getBackendSetChanges o.backendSets lb.backendSets spec.backendSets
  let listenerActions := getListenerChanges o.listeners lb.listeners spec.listeners spec.ruleSets
  let st ← (if backendSetActions = [] ∧ listenerActions = [] then
      clb.updateSecurityListsInCriticalSection subnets spec portsOrder st
    else .ok st)
  (updateActions o lb spec).foldlM (clb.takeAction subnets spec lb) st

end CloudLoadBalancerProvider

end OciCcm.LoadBalancer
