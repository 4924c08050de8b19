import OciCcm.LoadBalancer.Update

/-! # The calls of the security list manager in an update

Every action of `updateLoadBalancer` but one on a rule set comes with a call of
the security list manager. For the security lists, an update is a run of these
calls, whatever the mode of the manager, unless it ends with an error of a call on
the load balancer.
-/

namespace OciCcm.LoadBalancer

open Go SecurityLists List

variable {RuleSet : Type}

/-- A call of the security list manager. -/
inductive RulesCall where
  | update (sc : SecurityRuleComponents)
  | delete (sc : SecurityRuleComponents)
deriving DecidableEq, Repr

namespace RulesCall

def components : RulesCall → SecurityRuleComponents
  | .update sc | .delete sc => sc

/-- The change that a call makes in the mode of all rules. -/
def change : RulesCall → SecurityRuleComponents
  | .update sc => sc
  | .delete sc => sc.forDelete

def perform (s : BaseSecurityListManager) (mode : ManagementMode) (store : Store) :
    RulesCall → Except String Store
  | .update sc => s.update mode sc store
  | .delete sc => s.delete mode sc store

/-- A run of calls. -/
def performAll (s : BaseSecurityListManager) (mode : ManagementMode) (calls : List RulesCall)
    (store : Store) : Except String Store :=
  calls.foldlM (perform s mode) store

end RulesCall

open RulesCall

/-- The call that comes with an action. -/
def actionCall (subnets : Subnets) (spec : LBSpec RuleSet) (lb : LoadBalancerState RuleSet) :
    Action RuleSet → Option RulesCall
  | .backendSet a =>
    match a.actionType with
    | .create => some (.update (securityRuleComponents subnets spec [] none a.ports))
    | .update =>
      some (.update (securityRuleComponents subnets spec spec.sourceCIDRs a.oldPorts a.ports))
    | .delete => some (.delete (securityRuleComponents subnets spec [] none a.ports))
  | .listener a =>
    let ports := { CloudLoadBalancerProvider.listenerPorts lb spec a with
      listenerPort := a.listener.port }
    let sc := securityRuleComponents subnets spec spec.sourceCIDRs none ports
    some (if a.actionType = .delete then .delete sc else .update sc)
  | .ruleSet _ => none

/-- The calls in `updateLoadBalancer`, in their order. Without any other action the rules of all
ports are written anew. -/
def rulesCalls [DecidableEq RuleSet] (o : ChangeOrders) (portsOrder : RangeOrder.{0})
    (subnets : Subnets) (spec : LBSpec RuleSet) (lb : LoadBalancerState RuleSet) :
    List RulesCall :=
  (if getBackendSetChanges o.backendSets lb.backendSets spec.backendSets = [] ∧
      getListenerChanges o.listeners lb.listeners spec.listeners spec.ruleSets = [] then
    (portsOrder.range 0 spec.ports).map fun entry =>
      .update (securityRuleComponents subnets spec spec.sourceCIDRs none entry.2)
  else []) ++ (updateActions o lb spec).filterMap (actionCall subnets spec lb)

/-- A part of an update does to the security lists what a run of calls does, or fails where the run
does, or for another reason. -/
inductive Traces (otherError : Prop) :
    Except String (CloudState RuleSet) → Except String Store → Prop where
  | ok (st : CloudState RuleSet) : Traces otherError (.ok st) (.ok st.securityLists)
  | error (err err' : String) : Traces otherError (.error err) (.error err')
  | otherError (err : String) (lists : Except String Store) (h : otherError) :
    Traces otherError (.error err) lists

section Run

variable {clb : CloudLoadBalancerProvider RuleSet} {subnets : Subnets} {spec : LBSpec RuleSet}
  {st : CloudState RuleSet} {lb : LoadBalancerState RuleSet} {action : Action RuleSet}
  {sc : SecurityRuleComponents} {result : Except String (CloudState RuleSet)} {E : Prop}
  {s : BaseSecurityListManager} {mode : ManagementMode} {lists : Except String Store}

theorem Traces.of_ok (h : Traces E (.ok st) lists) : lists = .ok st.securityLists := by
  cases h
  rfl

theorem Traces.bind {f : CloudState RuleSet → Except String (CloudState RuleSet)}
    {g : Store → Except String Store} (h : Traces E result lists)
    (h' : ∀ st, Traces E (f st) (g st.securityLists)) :
    Traces E (result >>= f) (lists >>= g) := by
  cases h with
  | ok st => exact h' st
  | error err err' => exact .error err err'
  | otherError err lists hE => exact .otherError err _ hE

theorem Traces.mapError {f : String → String} (h : Traces E result lists) :
    Traces E (result.mapError f) lists := by
  cases h with
  | ok st => exact .ok st
  | error err err' => exact .error _ err'
  | otherError err lists hE => exact .otherError _ lists hE

theorem traces_call (hE : clb.actionError action ≠ none → E) (st : CloudState RuleSet) :
    Traces E (clb.call action st) (.ok st.securityLists) := by
  unfold CloudLoadBalancerProvider.call
  split
  · next err herr => exact .otherError err _ (hE (by simp [herr]))
  · exact .ok { st with loadBalancer := st.loadBalancer.apply action }

/-- `updateRules` and `deleteRules` store what the manager gives back. -/
theorem traces_stored (result : Except String Store) :
    Traces E (do .ok { st with securityLists := ← result }) (result >>= .ok) := by
  cases result with
  | error err => exact .error err err
  | ok store => exact .ok { st with securityLists := store }

theorem traces_takeAction (hE : clb.actionError action ≠ none → E) (st : CloudState RuleSet) :
    Traces E (clb.takeAction subnets spec lb st action)
      (performAll clb.securityListManager spec.securityListManager
        (actionCall subnets spec lb action).toList st.securityLists) := by
  have hrules : ∀ {result lists} {msg : String}, Traces E result lists →
      Traces E ((result >>= clb.call action).mapError (wrap msg)) lists := by
    intro result lists msg h
    have hcall : Traces E ((result >>= clb.call action).mapError (wrap msg)) (lists >>= .ok) :=
      (h.bind (traces_call hE)).mapError
    rwa [show (lists >>= .ok) = lists from bind_pure lists] at hcall
  cases action with
  | backendSet a =>
    obtain ⟨type, name, backendSet, ports, oldPorts⟩ := a
    cases type with
    | create => exact hrules (traces_stored _)
    | update => exact hrules (traces_stored _)
    | delete => exact hrules (traces_stored _)
  | listener a =>
    obtain ⟨type, name, listener⟩ := a
    cases type with
    | create => exact hrules (traces_stored _)
    | update => exact hrules (traces_stored _)
    | delete => exact hrules (traces_stored _)
  | ruleSet a => exact (traces_call hE st).mapError

theorem traces_foldlM {α : Type} {call : α → Option RulesCall} {xs : List α}
    {f : CloudState RuleSet → α → Except String (CloudState RuleSet)}
    (h : ∀ x ∈ xs, ∀ st, Traces E (f st x) (performAll s mode (call x).toList st.securityLists)) :
    Traces E (xs.foldlM f st) (performAll s mode (xs.filterMap call) st.securityLists) := by
  induction xs generalizing st with
  | nil => exact .ok st
  | cons x xs ih =>
    obtain ⟨hx, hxs⟩ := forall_mem_cons.mp h
    have hcalls : (x :: xs).filterMap call = (call x).toList ++ xs.filterMap call := by
      cases hcall : call x <;> simp [hcall]
    rw [foldlM_cons, hcalls, performAll, foldlM_append]
    exact (hx st).bind fun st₁ => ih hxs

/-- For the security lists an update is a run of the calls, unless a call on the load balancer
fails. -/
theorem traces_updateLoadBalancer [DecidableEq RuleSet] (o : ChangeOrders)
    (portsOrder : RangeOrder.{0}) :
    Traces (∃ action ∈ updateActions o st.loadBalancer spec, clb.actionError action ≠ none)
      (clb.updateLoadBalancer spec o portsOrder (.ok subnets.lbSubnets) (.ok subnets.nodeSubnets) st)
      (performAll clb.securityListManager spec.securityListManager
        (rulesCalls o portsOrder subnets spec st.loadBalancer) st.securityLists) := by
  rw [performAll, rulesCalls, foldlM_append]
  refine Traces.bind ?_ fun st₁ => traces_foldlM fun action haction =>
    traces_takeAction fun herr => ⟨action, haction, herr⟩
  split
  · rw [← filterMap_eq_map]
    exact traces_foldlM fun _ _ _ => traces_stored _
  · exact .ok st

end Run

theorem subnets_of_mem_rulesCalls [DecidableEq RuleSet] {o : ChangeOrders}
    {portsOrder : RangeOrder.{0}} {subnets : Subnets} {spec : LBSpec RuleSet}
    {lb : LoadBalancerState RuleSet} {call : RulesCall}
    (h : call ∈ rulesCalls o portsOrder subnets spec lb) :
    call.components.lbSubnets = subnets.lbSubnets ∧
      call.components.backendSubnets = subnets.nodeSubnets := by
  rcases mem_append.mp h with h | h
  · obtain ⟨entry, -, rfl⟩ := mem_map.mp (mem_ite_nil_right.mp h).2
    exact ⟨rfl, rfl⟩
  · obtain ⟨action, -, haction⟩ := mem_filterMap.mp h
    cases action with
    | backendSet a =>
      obtain ⟨type, name, backendSet, ports, oldPorts⟩ := a
      cases type <;> obtain rfl := Option.some.inj haction <;> exact ⟨rfl, rfl⟩
    | listener a =>
      obtain ⟨type, name, listener⟩ := a
      cases type <;> obtain rfl := Option.some.inj haction <;> exact ⟨rfl, rfl⟩
    | ruleSet a => cases haction

end OciCcm.LoadBalancer
