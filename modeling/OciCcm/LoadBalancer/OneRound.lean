import OciCcm.LoadBalancer.ActionOrder
import OciCcm.LoadBalancer.Comparison
import OciCcm.LoadBalancer.Edits

/-! # One round of actions is enough

The comparisons leave out fields that the desired side does not set, and a
listener that is updated keeps its old name. Still nothing is left to do once
all actions have been taken, in whatever order.
-/

namespace OciCcm.LoadBalancer

open Go

variable {RuleSet : Type}

/-! ## Nothing differs from itself -/

theorem HealthCheckerUnchanged.refl (hc : HealthChecker) : HealthCheckerUnchanged hc hc where
  port := rfl
  responseBodyRegex _ := rfl
  retries := rfl
  returnCode _ := rfl
  timeoutInMillis := rfl
  intervalInMillis := rfl
  urlPath := rfl
  protocol := rfl
  isForcePlainText := rfl

theorem hasBackendSetChanged_self (bs : BackendSetDetails) :
    hasBackendSetChanged bs bs = false := by
  have hhealth : getHealthCheckerChanges bs.healthChecker bs.healthChecker = [] := by
    cases bs.healthChecker with
    | none => rfl
    | some hc => exact getHealthCheckerChanges_eq_nil.mpr ⟨hc, rfl, .refl hc⟩
  have hport : backendPortChange bs.backends bs.backends = [] := by
    cases bs.backends with
    | nil => rfl
    | cons backend backends => exact fieldChange_eq_nil.mpr rfl
  exact Bool.eq_false_iff.mpr (not_hasBackendSetChanged_iff.mpr
    ⟨hhealth, hport, rfl, rfl, .refl _, fun _ => Iff.rfl⟩)

theorem hasListenerChanged_self (l : Listener) (ruleSets : Option (GoMap RuleSet)) :
    hasListenerChanged l l ruleSets = false :=
  Bool.eq_false_iff.mpr (not_hasListenerChanged_iff.mpr
    ⟨rfl, rfl, rfl, rfl, fun _ => rfl, .refl _, .refl _⟩)

/-! ## The second comparison -/

section Second

variable {lb : LoadBalancerState RuleSet} {actions : List (Action RuleSet)}
  {o' : RangeOrder.{0}}

theorem getBackendSetChanges_applyAll (o : RangeOrder.{0}) {desired : GoMap BackendSetDetails}
    (hname : ∀ {name bs}, lb.backendSets.lookup name = some bs → bs.name = name)
    (hactions : ∀ b, .backendSet b ∈ actions ↔ b ∈ getBackendSetChanges o lb.backendSets desired) :
    getBackendSetChanges o' (lb.applyAll actions).backendSets desired = [] := by
  refine List.eq_nil_iff_forall_not_mem.mpr fun b hb => ?_
  obtain ⟨e, he⟩ := exists_isEdit_of_mem_getBackendSetChanges hb
  rw [backendSets_applyAll] at he
  refine not_isEdit_editAll hasBackendSetChanged_self (fun _ _ _ _ h => h) (fun e => ?_) e he
  simp only [mem_filterMap_edit Action.backendSetEdit_eq_some, hactions]
  exact edit_getBackendSetChanges_iff hname

theorem getListenerChanges_applyAll (o : RangeOrder.{0}) {desired : GoMap Listener}
    {ruleSets : Option (GoMap RuleSet)} (hdesired : SanitizedInj desired)
    (hactions : ∀ a, .listener a ∈ actions ↔
      a ∈ getListenerChanges o lb.listeners desired ruleSets) :
    getListenerChanges o' (lb.applyAll actions).listeners desired ruleSets = [] := by
  refine List.eq_nil_iff_forall_not_mem.mpr fun a ha => ?_
  have he := (edit_getListenerChanges_iff hdesired).mp ⟨a, ha, rfl⟩
  rw [listeners_applyAll] at he
  refine not_isEdit_editAll (hasListenerChanged_self · ruleSets) hdesired (fun e => ?_) _ he
  simp only [mem_filterMap_edit Action.listenerEdit_eq_some, hactions]
  exact edit_getListenerChanges_iff hdesired

theorem getRuleSetChanges_applyAll [DecidableEq RuleSet] (o : RangeOrder.{0})
    {desired : GoMap RuleSet}
    (hactions : ∀ r, .ruleSet r ∈ actions ↔ r ∈ getRuleSetChanges o lb.ruleSets desired) :
    getRuleSetChanges o' (lb.applyAll actions).ruleSets desired = [] := by
  refine List.eq_nil_iff_forall_not_mem.mpr fun r hr => ?_
  have he := edit_getRuleSetChanges_iff.mp ⟨r, hr, rfl⟩
  rw [ruleSets_applyAll] at he
  refine not_isEdit_editAll (fun rs => by simp) (fun _ _ _ _ h => h) (fun e => ?_) _ he
  simp only [mem_filterMap_edit Action.ruleSetEdit_eq_some, hactions]
  exact edit_getRuleSetChanges_iff

end Second

/-! ## All three kinds of actions -/

section Round

variable [DecidableEq RuleSet] {lb : LoadBalancerState RuleSet} {actions : List (Action RuleSet)}

/-- The actions of all three comparisons, in the order in which they are found. -/
def changes (o : ChangeOrders) (lb : LoadBalancerState RuleSet)
    (listeners : GoMap Listener) (backendSets : GoMap BackendSetDetails)
    (ruleSets : Option (GoMap RuleSet)) : List (Action RuleSet) :=
  (getBackendSetChanges o.backendSets lb.backendSets backendSets).map .backendSet ++
    (getListenerChanges o.listeners lb.listeners listeners ruleSets).map .listener ++
    (getRuleSetChanges o.ruleSets lb.ruleSets (ruleSets.getD ∅)).map .ruleSet

/-- After the actions of a comparison there are none left, whatever the orders of the loops and
of the actions. -/
theorem changes_applyAll_eq_nil (o o' : ChangeOrders) {listeners : GoMap Listener}
    {backendSets : GoMap BackendSetDetails} {ruleSets : Option (GoMap RuleSet)}
    (hname : ∀ name bs, lb.backendSets.lookup name = some bs → bs.name = name)
    (hdesired : SanitizedInj listeners)
    (hactions : actions.Perm (changes o lb listeners backendSets ruleSets)) :
    changes o' (lb.applyAll actions) listeners backendSets ruleSets = [] := by
  have hbackendSets : getBackendSetChanges o'.backendSets (lb.applyAll actions).backendSets
      backendSets = [] :=
    getBackendSetChanges_applyAll o.backendSets (hname _ _) fun b => by
      simp [hactions.mem_iff, changes]
  have hlisteners : getListenerChanges o'.listeners (lb.applyAll actions).listeners listeners
      ruleSets = [] :=
    getListenerChanges_applyAll o.listeners hdesired fun a => by simp [hactions.mem_iff, changes]
  have hruleSets : getRuleSetChanges o'.ruleSets (lb.applyAll actions).ruleSets
      (ruleSets.getD ∅) = [] :=
    getRuleSetChanges_applyAll o.ruleSets fun r => by simp [hactions.mem_iff, changes]
  rw [changes, hbackendSets, hlisteners, hruleSets]
  rfl

end Round

/-- A load balancer with an HTTP listener on port 80. -/
def httpState : LoadBalancerState Unit where
  listeners := .ofPairs [("HTTP-80",
    { name := "HTTP-80", defaultBackendSetName := "TCP-80", port := 80, protocol := "HTTP" })]
  backendSets := .ofPairs [("TCP-80", (emptyBackendSetAction .create "TCP-80").backendSet)]
  ruleSets := .ofPairs [("headers", ())]

/-- A TCP listener on the same port, and one more. -/
def tcpListeners : GoMap Listener := .ofPairs
  [("TCP-80", (plainListenerAction .create "TCP-80" 80).listener),
    ("TCP-443", (plainListenerAction .create "TCP-443" 443).listener)]

/-- The listener of the port is updated under its old name, a listener is added and the rule set
is removed. Then nothing is left. -/
theorem httpState_changes_applyAll :
    (changes {} httpState tcpListeners httpState.backendSets (some ∅)).map
        (fun a => (a.type, a.name)) =
      [(.update, "HTTP-80"), (.create, "TCP-443"), (.delete, "headers")] ∧
    changes {} (httpState.applyAll
        (changes {} httpState tcpListeners httpState.backendSets (some ∅)))
      tcpListeners httpState.backendSets (some ∅) = [] := by
  have hname : ∀ e ∈ httpState.backendSets.toPairs, e.2.name = e.1 := by decide
  have hdesired : ∀ k ∈ tcpListeners.keys, ∀ k' ∈ tcpListeners.keys,
      getSanitizedName k = getSanitizedName k' → k = k' := by decide +kernel
  refine ⟨by decide +kernel,
    changes_applyAll_eq_nil {} {} (fun name bs hbs => ?_) hdesired (.refl _)⟩
  exact hname (name, bs) (GoMap.mem_toPairs.mpr hbs)

end OciCcm.LoadBalancer
