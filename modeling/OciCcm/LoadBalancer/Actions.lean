import OciCcm.Go.SliceStable
import OciCcm.LoadBalancer.Changes
import OciCcm.LoadBalancer.LBSpec

/-! # Actions on a load balancer

The order in which the actions are taken, and what they do to a load balancer
when every call succeeds.
-/

namespace OciCcm.LoadBalancer

open Go

variable {RuleSet : Type}

/-! ## The order of the actions -/

/-- The first comparison of `sortAndCombineActions`: by name, and for the listener and the
backend set of one name by the type of the first action. -/
def lessByName (a1 a2 : Action RuleSet) : Bool :=
  if getSanitizedName a1.name ≠ getSanitizedName a2.name then
    getSanitizedName a1.name < getSanitizedName a2.name
  else match a1.type with
    -- create the backend set, then the listener
    | .create => a1.isBackendSet
    -- does not matter
    | .update => true
    -- delete the listener, then the backend set
    | .delete => a2.isBackendSet

/-- The second comparison: deletions first. -/
def lessByType (a1 a2 : Action RuleSet) : Bool :=
  if a1.type ≠ a2.type then a1.type = .delete else false

/-- Deletions of rule sets go to the end, other actions on them to the front. -/
def combineRuleSetAction (actions : List (Action RuleSet)) (a : Action RuleSet) :
    List (Action RuleSet) :=
  if a.type = .delete then actions ++ [a] else a :: actions

def sortAndCombineActions (backendSetActions : List BackendSetAction)
    (listenerActions : List ListenerAction) (ruleSetActions : List (RuleSetAction RuleSet)) :
    List (Action RuleSet) :=
  let actions := backendSetActions.map .backendSet ++ listenerActions.map .listener
  let actions := sliceStable lessByName actions
  let actions := sliceStable lessByType actions
  (ruleSetActions.map Action.ruleSet).foldl combineRuleSetAction actions

/-! ## What the actions do -/

/-- The parts of a load balancer that the actions change. -/
structure LoadBalancerState (RuleSet : Type) where
  listeners : GoMap Listener
  backendSets : GoMap BackendSetDetails
  ruleSets : GoMap RuleSet

namespace LoadBalancerState

/-- The load balancer that holds what a specification asks for. -/
def ofSpec (spec : LBSpec RuleSet) : LoadBalancerState RuleSet where
  listeners := spec.listeners
  backendSets := spec.backendSets
  ruleSets := spec.ruleSets.getD ∅

/-- The effect of an action that succeeds, on a service that stores all that the action holds. The
requests leave some of it out. -/
def apply (lb : LoadBalancerState RuleSet) : Action RuleSet → LoadBalancerState RuleSet
  | .backendSet a => { lb with
      backendSets :=
        if a.actionType = .delete then lb.backendSets.erase a.name
        else lb.backendSets.insert a.name a.backendSet }
  | .listener a => { lb with
      listeners :=
        if a.actionType = .delete then lb.listeners.erase a.name
        else lb.listeners.insert a.name a.listener }
  | .ruleSet a => { lb with
      ruleSets :=
        if a.actionType = .delete then lb.ruleSets.erase a.name
        else lb.ruleSets.insert a.name a.ruleSetDetails }

/-- The load balancer after a list of actions. -/
def applyAll (lb : LoadBalancerState RuleSet) (actions : List (Action RuleSet)) :
    LoadBalancerState RuleSet :=
  actions.foldl apply lb

end LoadBalancerState

/-- The orders of the loops in the three functions that compare. -/
structure ChangeOrders where
  backendSets : RangeOrder.{0} := .stored
  listeners : RangeOrder.{0} := .stored
  ruleSets : RangeOrder.{0} := .stored

/-- The actions of `updateLoadBalancer` towards a specification. Rule sets are left alone
when the specification has none. -/
def updateActions [DecidableEq RuleSet] (o : ChangeOrders) (lb : LoadBalancerState RuleSet)
    (spec : LBSpec RuleSet) : List (Action RuleSet) :=
  sortAndCombineActions
    (getBackendSetChanges o.backendSets lb.backendSets spec.backendSets)
    (getListenerChanges o.listeners lb.listeners spec.listeners spec.ruleSets)
    (match spec.ruleSets with
      | none => []
      | some ruleSets => getRuleSetChanges o.ruleSets lb.ruleSets ruleSets)

end OciCcm.LoadBalancer
