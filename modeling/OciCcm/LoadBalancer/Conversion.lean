import OciCcm.LoadBalancer.Types

/-! # Conversion to and from the types of the services

Generic listeners and backend sets become those of the load balancer service or
of the network load balancer service when a load balancer is created, and are
read back from what the service stores. The service names an entry after its key.
A specification sets the health checker and the policy that the conversions
dereference.
-/

namespace OciCcm.LoadBalancer

open Go

/-! ## The load balancer service -/

namespace LbService

structure SslConfiguration where
  verifyDepth : Option Int
  verifyPeerCertificate : Option Bool
  hasSessionResumption : Option Bool
  trustedCertificateAuthorityIds : Option (List String)
  certificateIds : Option (List String)
  certificateName : Option String
  protocols : Option (List String)
  cipherSuiteName : Option String
  serverOrderPreference : String
deriving DecidableEq

structure ConnectionConfiguration where
  idleTimeout : Option Int
  backendTcpProxyProtocolVersion : Option Int
deriving DecidableEq

structure ListenerDetails where
  defaultBackendSetName : String
  port : Nat
  protocol : String
  hostnameNames : Option (List String)
  pathRouteSetName : Option String
  sslConfiguration : Option SslConfiguration
  connectionConfiguration : Option ConnectionConfiguration
  routingPolicyName : Option String
  ruleSetNames : Option (List String)
deriving DecidableEq

structure HealthCheckerDetails where
  protocol : String
  isForcePlainText : Option Bool
  port : Option Nat
  urlPath : Option String
  retries : Option Int
  returnCode : Option Int
  timeoutInMillis : Option Int
  intervalInMillis : Option Int

structure BackendDetails where
  ipAddress : String
  port : Nat
  weight : Option Int
  maxConnections : Option Int
  backup : Option Bool
  drain : Option Bool
  offline : Option Bool

structure SessionPersistenceConfigurationDetails where
  cookieName : Option String
  disableFallback : Option Bool

structure BackendSetDetails where
  healthChecker : Option HealthCheckerDetails
  policy : Option String
  backends : List BackendDetails
  sslConfiguration : Option SslConfiguration
  sessionPersistenceConfiguration : Option SessionPersistenceConfigurationDetails

/-- A stored entry: what was sent, with the name that the service gives it. -/
structure Stored (Details : Type) where
  name : String
  details : Details

def genericSslConfigurationToSslConfiguration (details : SslConfigurationDetails) :
    SslConfiguration :=
  { details with }

def sslConfigurationToGenericSslConfiguration (details : SslConfiguration) :
    SslConfigurationDetails :=
  { details with }

def genericListenerDetailsToListenerDetails (details : GoMap Listener) : GoMap ListenerDetails :=
  details.convert fun _ v => { v with
    sslConfiguration := v.sslConfiguration.map genericSslConfigurationToSslConfiguration
    connectionConfiguration := v.connectionConfiguration.map fun c =>
      ⟨c.idleTimeout, c.backendTcpProxyProtocolVersion⟩ }

def listenersToGenericListenerDetails (details : GoMap (Stored ListenerDetails)) :
    GoMap Listener :=
  details.convert fun _ v => { v.details with
    name := v.name
    sslConfiguration := v.details.sslConfiguration.map sslConfigurationToGenericSslConfiguration
    connectionConfiguration := v.details.connectionConfiguration.map fun c =>
      ⟨c.idleTimeout, c.backendTcpProxyProtocolVersion⟩ }

def genericBackendDetailsToBackendDetails (details : List Backend) : List BackendDetails :=
  details.map fun backend => { backend with }

def backendDetailsToGenericBackendDetails (details : List BackendDetails) : List Backend :=
  details.map fun backend => { backend with targetId := none }

def getSessionPersistenceConfiguration (details : SessionPersistenceConfiguration) :
    SessionPersistenceConfigurationDetails :=
  { details with }

def getGenericSessionPersistenceConfiguration (details : SessionPersistenceConfigurationDetails) :
    SessionPersistenceConfiguration :=
  { details with }

def genericBackendSetDetailsToBackendSets (backendSets : GoMap LoadBalancer.BackendSetDetails) :
    GoMap BackendSetDetails :=
  backendSets.convert fun _ v => {
    healthChecker := v.healthChecker.map fun hc => { hc with }
    policy := v.policy
    backends := genericBackendDetailsToBackendDetails v.backends
    sslConfiguration := v.sslConfiguration.map genericSslConfigurationToSslConfiguration
    sessionPersistenceConfiguration :=
      v.sessionPersistenceConfiguration.map getSessionPersistenceConfiguration }

def backendSetsToGenericBackendSetDetails (backendSets : GoMap (Stored BackendSetDetails)) :
    GoMap LoadBalancer.BackendSetDetails :=
  backendSets.convert fun _ v => {
    name := v.name
    healthChecker := v.details.healthChecker.map fun hc => { hc with }
    policy := v.details.policy
    backends := backendDetailsToGenericBackendDetails v.details.backends
    sslConfiguration := v.details.sslConfiguration.map sslConfigurationToGenericSslConfiguration
    sessionPersistenceConfiguration :=
      v.details.sessionPersistenceConfiguration.map getGenericSessionPersistenceConfiguration
    isPreserveSource := none
    ipVersion := none }

/-- The service stores what it is sent. -/
def store {Details : Type} (sent : GoMap Details) : GoMap (Stored Details) :=
  sent.convert fun name details => ⟨name, details⟩

end LbService

/-! ## The network load balancer service -/

namespace NlbService

/-- An IP version of the service, with the spelling of the service. It is empty if no version is sent. -/
def ipVersionEnum : Option IpVersion → String
  | some .ipv4 => "IPV4"
  | some .ipv6 => "IPV6"
  | _ => ""

/-- `GenericIpVersion` of a string. The generic versions are spelled in another way than those
of the service, so what the service returns is none of them. Nothing compares it. -/
def genericIpVersion (s : String) : Option IpVersion :=
  if s = "IPv4" then some .ipv4
  else if s = "IPv6" then some .ipv6
  else if s = "IPv4_AND_IPv6" then some .ipv4AndIPv6
  else none

@[simp] theorem genericIpVersion_ipVersionEnum (ipVersion : Option IpVersion) :
    genericIpVersion (ipVersionEnum ipVersion) = none := by
  rcases ipVersion with _ | ipVersion
  · decide
  · cases ipVersion <;> decide

structure ListenerDetails where
  name : String
  defaultBackendSetName : String
  port : Nat
  protocol : String
  isPpv2Enabled : Option Bool
  ipVersion : String

structure HealthChecker where
  protocol : String
  port : Option Nat
  urlPath : Option String
  retries : Option Int
  returnCode : Option Int
  responseBodyRegex : Option String
  timeoutInMillis : Option Int
  intervalInMillis : Option Int

structure Backend where
  name : Option String
  ipAddress : String
  port : Nat
  weight : Option Int
  targetId : Option String
  isDrain : Option Bool
  isBackup : Option Bool
  isOffline : Option Bool

structure BackendSetDetails where
  healthChecker : Option HealthChecker
  policy : String
  backends : List Backend
  isPreserveSource : Option Bool
  ipVersion : String

/-- A stored backend set: what was sent, with the name that the service gives it. -/
structure BackendSet where
  name : String
  details : BackendSetDetails

def genericListenerDetailsToListenerDetails (details : GoMap Listener) : GoMap ListenerDetails :=
  details.convert fun _ v => { v with ipVersion := ipVersionEnum v.ipVersion }

def listenersToGenericListenerDetails (details : GoMap ListenerDetails) : GoMap Listener :=
  details.convert fun _ v => { v with ipVersion := genericIpVersion v.ipVersion }

/-- The backup flag is sent as the backend's offline flag. -/
def genericBackendDetailsToBackendDetails (details : List LoadBalancer.Backend) : List Backend :=
  details.map fun backend => {
    name := none
    ipAddress := backend.ipAddress
    port := backend.port
    weight := backend.weight
    targetId := backend.targetId
    isDrain := backend.drain
    isBackup := backend.offline
    isOffline := backend.offline }

def backendDetailsToGenericBackendDetails (details : List Backend) : List LoadBalancer.Backend :=
  details.map fun backend => {
    ipAddress := backend.ipAddress
    port := backend.port
    weight := backend.weight
    targetId := backend.targetId }

/-- The service knows no health checks in plain text, so this setting is not sent. -/
def genericBackendSetDetailsToBackendSets (backendSets : GoMap LoadBalancer.BackendSetDetails) :
    GoMap BackendSetDetails :=
  backendSets.convert fun _ v => {
    healthChecker := v.healthChecker.map fun hc => { hc with responseBodyRegex := none }
    policy := v.policy.getD ""
    backends := genericBackendDetailsToBackendDetails v.backends
    isPreserveSource := v.isPreserveSource
    ipVersion := ipVersionEnum v.ipVersion }

def backendSetsToGenericBackendSetDetails (backendSets : GoMap BackendSet) :
    GoMap LoadBalancer.BackendSetDetails :=
  backendSets.convert fun _ v => {
    name := v.name
    healthChecker := v.details.healthChecker.map fun hc =>
      { hc with isForcePlainText := none, responseBodyRegex := none }
    policy := some v.details.policy
    backends := backendDetailsToGenericBackendDetails v.details.backends
    sslConfiguration := none
    isPreserveSource := v.details.isPreserveSource
    ipVersion := genericIpVersion v.details.ipVersion }

/-- The service stores the backend sets that it is sent. Listeners come with their names. -/
def store (sent : GoMap BackendSetDetails) : GoMap BackendSet :=
  sent.convert fun name details => ⟨name, details⟩

end NlbService

/-! ## Through the service and back -/

/-- The listeners as they are read after they have been created. -/
def readListeners (type : LBType) (listeners : GoMap Listener) : GoMap Listener :=
  match type with
  | .lb => LbService.listenersToGenericListenerDetails
      (LbService.store (LbService.genericListenerDetailsToListenerDetails listeners))
  | .nlb => NlbService.listenersToGenericListenerDetails
      (NlbService.genericListenerDetailsToListenerDetails listeners)

/-- The backend sets as they are read after they have been created. -/
def readBackendSets (type : LBType) (backendSets : GoMap BackendSetDetails) :
    GoMap BackendSetDetails :=
  match type with
  | .lb => LbService.backendSetsToGenericBackendSetDetails
      (LbService.store (LbService.genericBackendSetDetailsToBackendSets backendSets))
  | .nlb => NlbService.backendSetsToGenericBackendSetDetails
      (NlbService.store (NlbService.genericBackendSetDetailsToBackendSets backendSets))

/-- What a service gives back for a listener. -/
def readListener (type : LBType) (name : String) (l : Listener) : Listener :=
  match type with
  | .lb => { l with name, ipVersion := none, isPpv2Enabled := none }
  | .nlb => { l with
      hostnameNames := none
      pathRouteSetName := none
      sslConfiguration := none
      connectionConfiguration := none
      routingPolicyName := none
      ruleSetNames := none
      ipVersion := none }

/-- What a service gives back for a backend set. -/
def readBackendSet (type : LBType) (name : String) (bs : BackendSetDetails) : BackendSetDetails :=
  match type with
  | .lb => { bs with
      name
      healthChecker := bs.healthChecker.map ({ · with responseBodyRegex := none })
      backends := bs.backends.map ({ · with targetId := none, name := none })
      isPreserveSource := none
      ipVersion := none }
  | .nlb => { bs with
      name
      healthChecker := bs.healthChecker.map
        ({ · with isForcePlainText := none, responseBodyRegex := none })
      policy := some (bs.policy.getD "")
      backends := bs.backends.map ({ · with
        name := none, backup := none, drain := none, offline := none, maxConnections := none })
      sessionPersistenceConfiguration := none
      sslConfiguration := none
      ipVersion := none }

theorem lookup_readListeners (type : LBType) (listeners : GoMap Listener) (name : String) :
    (readListeners type listeners).lookup name =
      (listeners.lookup name).map (readListener type name) := by
  cases type with
  | lb =>
    simp only [readListeners, LbService.listenersToGenericListenerDetails, LbService.store,
      LbService.genericListenerDetailsToListenerDetails, GoMap.lookup_convert, Option.map_map]
    congr 1
    funext l
    simp [readListener, Function.comp_def, Option.map_map,
      LbService.sslConfigurationToGenericSslConfiguration,
      LbService.genericSslConfigurationToSslConfiguration]
  | nlb =>
    simp only [readListeners, NlbService.listenersToGenericListenerDetails,
      NlbService.genericListenerDetailsToListenerDetails, GoMap.lookup_convert, Option.map_map]
    congr 1
    funext l
    simp [readListener]

theorem lookup_readBackendSets (type : LBType) (backendSets : GoMap BackendSetDetails)
    (name : String) : (readBackendSets type backendSets).lookup name =
      (backendSets.lookup name).map (readBackendSet type name) := by
  cases type with
  | lb =>
    simp only [readBackendSets, LbService.backendSetsToGenericBackendSetDetails, LbService.store,
      LbService.genericBackendSetDetailsToBackendSets, GoMap.lookup_convert, Option.map_map]
    congr 1
    funext bs
    simp [readBackendSet, Function.comp_def, LbService.sslConfigurationToGenericSslConfiguration,
      LbService.genericSslConfigurationToSslConfiguration,
      LbService.getGenericSessionPersistenceConfiguration,
      LbService.getSessionPersistenceConfiguration,
      LbService.backendDetailsToGenericBackendDetails,
      LbService.genericBackendDetailsToBackendDetails]
  | nlb =>
    simp only [readBackendSets, NlbService.backendSetsToGenericBackendSetDetails,
      NlbService.store, NlbService.genericBackendSetDetailsToBackendSets, GoMap.lookup_convert,
      Option.map_map]
    congr 1
    funext bs
    simp [readBackendSet, Function.comp_def, NlbService.backendDetailsToGenericBackendDetails,
      NlbService.genericBackendDetailsToBackendDetails]

end OciCcm.LoadBalancer
