import OciCcm.LoadBalancer.RoundTrip

/-! # Requests for single listeners and backend sets

A load balancer is created with all its listeners and backend sets in one
request. Later each of them is created and updated on its own, by functions that
fill their requests by hand. The requests for backend sets always agree. Those for
listeners do unless a listener of a load balancer names rule sets, since
`createListener` leaves them out.
-/

namespace OciCcm.LoadBalancer

open Go Kubernetes

variable {RuleSet : Type}

/-! ## The load balancer service -/

namespace LbService

/-- The details of a listener and its name. An update has the details only. -/
structure CreateListenerDetails extends ListenerDetails where
  name : String
deriving DecidableEq

/-- The details of a backend set and its name. An update has the details only. -/
structure CreateBackendSetDetails extends BackendSetDetails where
  name : String

def getListenerConnectionConfiguration (details : LoadBalancer.ConnectionConfiguration) :
    ConnectionConfiguration :=
  { details with }

def createListener (name : String) (details : Listener) : CreateListenerDetails where
  name := name
  defaultBackendSetName := details.defaultBackendSetName
  port := details.port
  protocol := details.protocol
  hostnameNames := none
  pathRouteSetName := none
  sslConfiguration := details.sslConfiguration.map genericSslConfigurationToSslConfiguration
  connectionConfiguration := details.connectionConfiguration.map getListenerConnectionConfiguration
  routingPolicyName := none
  ruleSetNames := none

def updateListener (details : Listener) : ListenerDetails where
  defaultBackendSetName := details.defaultBackendSetName
  port := details.port
  protocol := details.protocol
  hostnameNames := none
  pathRouteSetName := none
  sslConfiguration := details.sslConfiguration.map genericSslConfigurationToSslConfiguration
  connectionConfiguration := details.connectionConfiguration.map getListenerConnectionConfiguration
  routingPolicyName := none
  ruleSetNames := details.ruleSetNames

/-- The health checker as the requests for single backend sets fill it. -/
def healthCheckerDetails (hc : LoadBalancer.HealthChecker) : HealthCheckerDetails :=
  { hc with }

def updateBackendSet (details : LoadBalancer.BackendSetDetails) : BackendSetDetails where
  backends := genericBackendDetailsToBackendDetails details.backends
  healthChecker := details.healthChecker.map healthCheckerDetails
  policy := details.policy
  sessionPersistenceConfiguration :=
    details.sessionPersistenceConfiguration.map getSessionPersistenceConfiguration
  sslConfiguration := details.sslConfiguration.map genericSslConfigurationToSslConfiguration

def createBackendSet (name : String) (details : LoadBalancer.BackendSetDetails) :
    CreateBackendSetDetails :=
  { updateBackendSet details with name }

/-- The requests for the listener agree with its part in the request for the load balancer. -/
def ListenerAgrees (listeners : GoMap Listener) (name : String) (l : Listener) : Prop :=
  ∃ details, (genericListenerDetailsToListenerDetails listeners).lookup name = some details ∧
    createListener name l = { details with name } ∧ updateListener l = details

/-- The requests for the backend set agree with its part in the request for the load balancer. -/
def BackendSetAgrees (backendSets : GoMap LoadBalancer.BackendSetDetails) (name : String)
    (bs : LoadBalancer.BackendSetDetails) : Prop :=
  ∃ details, (genericBackendSetDetailsToBackendSets backendSets).lookup name = some details ∧
    createBackendSet name bs = { details with name } ∧ updateBackendSet bs = details

/-- Listeners without the settings that only whole load balancers are sent agree if they name no
rule sets. -/
theorem listenerAgrees_iff {listeners : GoMap Listener} {name : String} {l : Listener}
    (hl : listeners.lookup name = some l) (hhost : l.hostnameNames = none)
    (hpath : l.pathRouteSetName = none) (hrouting : l.routingPolicyName = none) :
    ListenerAgrees listeners name l ↔ l.ruleSetNames = none := by
  simp only [ListenerAgrees, genericListenerDetailsToListenerDetails, GoMap.lookup_convert, hl,
    Option.map_some, Option.some.injEq, exists_eq_left', hhost, hpath, hrouting]
  constructor
  · rintro ⟨hcreate, -⟩
    exact (congrArg (·.ruleSetNames) hcreate).symm
  · intro hnone
    simp only [createListener, updateListener, hnone]
    exact ⟨rfl, rfl⟩

theorem backendSetAgrees {backendSets : GoMap LoadBalancer.BackendSetDetails} {name : String}
    {bs : LoadBalancer.BackendSetDetails} (hbs : backendSets.lookup name = some bs) :
    BackendSetAgrees backendSets name bs := by
  refine ⟨_, ?_, rfl, rfl⟩
  rw [genericBackendSetDetailsToBackendSets, GoMap.lookup_convert, hbs, Option.map_some]
  rfl

end LbService

/-! ## The network load balancer service -/

namespace NlbService

/-- The details of a listener without its name. -/
structure UpdateListenerDetails where
  defaultBackendSetName : String
  port : Nat
  protocol : String
  isPpv2Enabled : Option Bool
  ipVersion : String

/-- The fields of the details that an update has. -/
def ListenerDetails.forUpdate (details : ListenerDetails) : UpdateListenerDetails :=
  { details with }

/-- The details of a backend set and its name. -/
structure CreateBackendSetDetails extends BackendSetDetails where
  name : String

/-- The details of a backend set, with a policy that may be absent. -/
structure UpdateBackendSetDetails where
  backends : List Backend
  isPreserveSource : Option Bool
  healthChecker : Option HealthChecker
  policy : Option String
  ipVersion : String

/-- The fields of the details that an update has. -/
def BackendSetDetails.forUpdate (details : BackendSetDetails) : UpdateBackendSetDetails :=
  { details with policy := some details.policy }

def createListener (name : String) (details : Listener) : ListenerDetails :=
  { details with name, ipVersion := ipVersionEnum details.ipVersion }

def updateListener (details : Listener) : UpdateListenerDetails :=
  { details with ipVersion := ipVersionEnum details.ipVersion }

/-- Unlike the function for whole load balancers it sends the name of a backend, and none of its
flags. -/
def backendsToBackendDetails (backends : List LoadBalancer.Backend) : List Backend :=
  backends.map fun backend =>
    { backend with isDrain := none, isBackup := none, isOffline := none }

def healthCheckerToHealthCheckerDetails (healthChecker : LoadBalancer.HealthChecker) :
    HealthChecker :=
  { healthChecker with }

def createBackendSet (name : String) (details : LoadBalancer.BackendSetDetails) :
    CreateBackendSetDetails where
  name := name
  backends := backendsToBackendDetails details.backends
  isPreserveSource := details.isPreserveSource
  healthChecker := details.healthChecker.map healthCheckerToHealthCheckerDetails
  policy := details.policy.getD ""
  ipVersion := ipVersionEnum details.ipVersion

def updateBackendSet (details : LoadBalancer.BackendSetDetails) : UpdateBackendSetDetails where
  backends := backendsToBackendDetails details.backends
  isPreserveSource := details.isPreserveSource
  healthChecker := details.healthChecker.map healthCheckerToHealthCheckerDetails
  policy := details.policy
  ipVersion := ipVersionEnum details.ipVersion

/-- The requests for the listener agree with its part in the request for the load balancer. -/
def ListenerAgrees (listeners : GoMap Listener) (name : String) (l : Listener) : Prop :=
  ∃ details, (genericListenerDetailsToListenerDetails listeners).lookup name = some details ∧
    createListener name l = details ∧
    updateListener l = details.forUpdate

/-- The requests for the backend set agree with its part in the request for the load balancer. -/
def BackendSetAgrees (backendSets : GoMap LoadBalancer.BackendSetDetails) (name : String)
    (bs : LoadBalancer.BackendSetDetails) : Prop :=
  ∃ details, (genericBackendSetDetailsToBackendSets backendSets).lookup name = some details ∧
    createBackendSet name bs = { details with name } ∧
    updateBackendSet bs = details.forUpdate

theorem listenerAgrees {listeners : GoMap Listener} {name : String} {l : Listener}
    (hl : listeners.lookup name = some l) (hname : l.name = name) :
    ListenerAgrees listeners name l := by
  refine ⟨createListener name l, ?_, rfl, rfl⟩
  rw [genericListenerDetailsToListenerDetails, GoMap.lookup_convert, hl, Option.map_some, hname]
  rfl

theorem backendsToBackendDetails_eq {backends : List LoadBalancer.Backend}
    (h : ∀ b ∈ backends, b.name = none ∧ b.drain = none ∧ b.offline = none) :
    backendsToBackendDetails backends = genericBackendDetailsToBackendDetails backends := by
  refine List.map_congr_left fun b hb => ?_
  obtain ⟨hname, hdrain, hoffline⟩ := h b hb
  simp only [hname, hdrain, hoffline]

theorem backendSetAgrees {backendSets : GoMap LoadBalancer.BackendSetDetails} {name : String}
    {bs : LoadBalancer.BackendSetDetails} (hbs : backendSets.lookup name = some bs)
    (hbackends : ∀ b ∈ bs.backends, b.name = none ∧ b.drain = none ∧ b.offline = none)
    (hregex : ∀ hc, bs.healthChecker = some hc → hc.responseBodyRegex = none)
    (hpolicy : bs.policy.isSome) : BackendSetAgrees backendSets name bs := by
  obtain ⟨policy, hpolicy⟩ := Option.isSome_iff_exists.mp hpolicy
  have hhealth : bs.healthChecker.map healthCheckerToHealthCheckerDetails =
      bs.healthChecker.map fun hc => { hc with responseBodyRegex := none } := by
    refine Option.map_congr fun hc hhc => ?_
    rw [healthCheckerToHealthCheckerDetails, hregex hc hhc]
  refine ⟨_, by rw [genericBackendSetDetailsToBackendSets, GoMap.lookup_convert, hbs]; rfl, ?_, ?_⟩
  · rw [createBackendSet, backendsToBackendDetails_eq hbackends, hhealth]
  · rw [updateBackendSet, backendsToBackendDetails_eq hbackends, hhealth, hpolicy]
    simp only [BackendSetDetails.forUpdate, hpolicy, Option.getD_some]

end NlbService

/-! ## The listeners and backend sets of a service -/

/-- Every listener and backend set is created and updated alone as it is created together with the
load balancer. -/
def RequestsAgree (spec : LBSpec RuleSet) : Prop :=
  match spec.type with
  | .lb => (∀ name l, spec.listeners.lookup name = some l →
        LbService.ListenerAgrees spec.listeners name l) ∧
      ∀ name bs, spec.backendSets.lookup name = some bs →
        LbService.BackendSetAgrees spec.backendSets name bs
  | .nlb => (∀ name l, spec.listeners.lookup name = some l →
        NlbService.ListenerAgrees spec.listeners name l) ∧
      ∀ name bs, spec.backendSets.lookup name = some bs →
        NlbService.BackendSetAgrees spec.backendSets name bs

variable {lib : Library RuleSet} {o o' : RangeOrder.{0}} {svc : Service} {nodes : List Node}
  {subnets : List String} {sslConfig : Option SSLConfig} {versions : IpVersions}
  {spec : LBSpec RuleSet}

/-- The requests for the listeners and backend sets of a service agree exactly if no listener names
rule sets. -/
theorem requestsAgree_iff
    (h : newLBSpec lib o o' svc nodes subnets sslConfig versions = .ok spec) :
    RequestsAgree spec ↔
      ∀ name l, spec.listeners.lookup name = some l → l.ruleSetNames = none := by
  obtain ⟨-, -, -, hlisteners, -, hbackendSets, -, -, htype, -⟩ := newLBSpec_ok h
  unfold RequestsAgree
  cases hlb : spec.type with
  | lb =>
    rw [getListeners, ← htype, hlb] at hlisteners
    have hagrees : ∀ name l, spec.listeners.lookup name = some l →
        (LbService.ListenerAgrees spec.listeners name l ↔ l.ruleSetNames = none) := by
      intro name l hl
      obtain ⟨hhost, hpath, hrouting, -⟩ := unset_of_lookup_getListenersOciLoadBalancer hlisteners hl
      exact LbService.listenerAgrees_iff hl hhost hpath hrouting
    constructor
    · exact fun hall name l hl => (hagrees name l hl).mp (hall.1 name l hl)
    · exact fun hnone => ⟨fun name l hl => (hagrees name l hl).mpr (hnone name l hl),
        fun name bs => LbService.backendSetAgrees⟩
  | nlb =>
    rw [getListeners, ← htype, hlb] at hlisteners
    refine iff_of_true ⟨fun name l hl => ?_, fun name bs hbs => ?_⟩ fun name l hl => ?_
    · obtain ⟨q, -, ⟨-, -, rfl⟩ | ⟨-, -, rfl⟩⟩ :=
        ((lookup_getListenersNetworkLoadBalancer hlisteners).2 name l).mp hl
      · exact NlbService.listenerAgrees hl rfl
      · exact NlbService.listenerAgrees hl rfl
    · obtain ⟨policy, ssl, hc, q, v, -, hhc, -, -, rfl⟩ :=
        eq_of_lookup_getBackendSets hbackendSets hbs
      refine NlbService.backendSetAgrees hbs (fun b hb => (of_mem_getBackends hb).2.2) ?_ rfl
      intro hc' heq
      cases heq
      exact (getHealthChecker_ok hhc).2
    · obtain ⟨q, -, ⟨-, -, rfl⟩ | ⟨-, -, rfl⟩⟩ :=
        ((lookup_getListenersNetworkLoadBalancer hlisteners).2 name l).mp hl
      · rfl
      · rfl

/-- A service without rule sets. -/
theorem requestsAgree_webService :
    ∃ spec, newLBSpec .simple .stored .stored webService [] [] none ipv4Only = .ok spec ∧
      RequestsAgree spec := by
  have h : newLBSpec .simple .stored .stored webService [] [] none ipv4Only = .ok _ := rfl
  refine ⟨_, h, (requestsAgree_iff h).mpr fun name l hl => ?_⟩
  obtain ⟨-, -, -, -, -, hrs⟩ := lookup_getListenersOciLoadBalancer (newLBSpec_ok h).listeners hl
  exact hrs

/-- Rule sets are decoded as a single one. -/
def oneRuleSet : Library Unit :=
  { Library.simple with decodeRuleSets := fun _ => (some (.ofPairs [("headers", ())]), none) }

def ruleSetService : Service where
  annotations := .ofPairs [(serviceAnnotationRuleSets, "headers")]
  ports := [⟨.tcp, 80, 30080⟩]

/-- When the listener is created alone it has no rule set. -/
theorem not_requestsAgree_ruleSetService :
    ∃ spec, newLBSpec oneRuleSet .stored .stored ruleSetService [] [] none ipv4Only = .ok spec ∧
      ¬RequestsAgree spec := by
  refine ⟨_, rfl, fun h => ?_⟩
  cases (LbService.listenerAgrees_iff rfl rfl rfl rfl).mp (h.1 "TCP-80" _ rfl)

end OciCcm.LoadBalancer
