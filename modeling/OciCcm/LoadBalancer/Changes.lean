import OciCcm.LoadBalancer.Types
import Mathlib.Data.Finset.Basic

/-! # Differences between the actual and the desired load balancer

The three functions that compare what a load balancer holds with what it should
hold, and list the actions that lead from the one to the other.
-/

namespace OciCcm.LoadBalancer

open Go

inductive ActionType where
  | create
  | update
  | delete
deriving DecidableEq, Repr

structure BackendSetAction where
  actionType : ActionType
  name : String
  backendSet : BackendSetDetails
  ports : PortSpec
  oldPorts : Option PortSpec := none
deriving DecidableEq, Repr

structure ListenerAction where
  actionType : ActionType
  name : String
  listener : Listener
deriving DecidableEq, Repr

structure RuleSetAction (RuleSet : Type) where
  actionType : ActionType
  name : String
  ruleSetDetails : RuleSet
deriving DecidableEq, Repr

inductive Action (RuleSet : Type) where
  | backendSet (a : BackendSetAction)
  | listener (a : ListenerAction)
  | ruleSet (a : RuleSetAction RuleSet)
deriving DecidableEq, Repr

namespace Action

variable {RuleSet : Type}

/-- `Type()` of an action. -/
def type : Action RuleSet → ActionType
  | .backendSet a => a.actionType
  | .listener a => a.actionType
  | .ruleSet a => a.actionType

/-- `Name()` of an action. -/
def name : Action RuleSet → String
  | .backendSet a => a.name
  | .listener a => a.name
  | .ruleSet a => a.name

/-- Is the action on a backend set? -/
def isBackendSet : Action RuleSet → Bool
  | .backendSet _ => true
  | _ => false

end Action

/-! ## Changes of single fields -/

def changeMsg (field actual desired : String) : String :=
  field ++ " -> Actual:" ++ actual ++ " - Desired:" ++ desired

def backendChangeMsg (field backend : String) : String := field ++ " -> Backend:" ++ backend

/-- The message about a field whose values differ. -/
def fieldChange {α : Type} [DecidableEq α] [ToString α] (field : String) (actual desired : α) :
    List String :=
  if actual ≠ desired then [changeMsg field (toString actual) (toString desired)] else []

def getHealthCheckerChanges (actual desired : Option HealthChecker) : List String :=
  match desired, actual with
  -- the service sets its own default
  | none, _ => []
  | some _, none => [changeMsg "BackendSet:HealthChecker" "NOT_PRESENT" "PRESENT"]
  | some desired, some actual =>
    fieldChange "BackendSet:HealthChecker:Port" (actual.port.getD 0) (desired.port.getD 0) ++
    (if desired.responseBodyRegex.getD "" ≠ "" then
      fieldChange "BackendSet:HealthChecker:ResponseBodyRegex" (actual.responseBodyRegex.getD "")
        (desired.responseBodyRegex.getD "") else []) ++
    fieldChange "BackendSet:HealthChecker:Retries" (actual.retries.getD 0)
      (desired.retries.getD 0) ++
    (if desired.returnCode.getD 0 ≠ 0 then
      fieldChange "BackendSet:HealthChecker:ReturnCode" (actual.returnCode.getD 0)
        (desired.returnCode.getD 0) else []) ++
    fieldChange "BackendSet:HealthChecker:TimeoutInMillis" (actual.timeoutInMillis.getD 0)
      (desired.timeoutInMillis.getD 0) ++
    fieldChange "BackendSet:HealthChecker:IntervalInMillis" (actual.intervalInMillis.getD 0)
      (desired.intervalInMillis.getD 0) ++
    fieldChange "BackendSet:HealthChecker:UrlPath" (actual.urlPath.getD "")
      (desired.urlPath.getD "") ++
    fieldChange "BackendSet:HealthChecker:Protocol" actual.protocol desired.protocol ++
    fieldChange "BackendSet:HealthChecker:IsForcePlainText" (actual.isForcePlainText.getD false)
      (desired.isForcePlainText.getD false)

def getSSLConfigurationChanges (actual desired : Option SslConfigurationDetails) : List String :=
  match actual, desired with
  | none, none => []
  | none, some _ => [changeMsg "Listener:SSLConfiguration" "NOT_PRESENT" "PRESENT"]
  | some _, none => [changeMsg "Listener:SSLConfiguration" "PRESENT" "NOT_PRESENT"]
  | some actual, some desired =>
    fieldChange "Listener:SSLConfiguration:CertificateName" (actual.certificateName.getD "")
      (desired.certificateName.getD "") ++
    fieldChange "Listener:SSLConfiguration:VerifyDepth" (actual.verifyDepth.getD 0)
      (desired.verifyDepth.getD 0) ++
    fieldChange "Listener:SSLConfiguration:VerifyPeerCertificate"
      (actual.verifyPeerCertificate.getD false) (desired.verifyPeerCertificate.getD false) ++
    (if desired.cipherSuiteName.getD "" ≠ "" then
      fieldChange "Listener:SSLConfiguration:CipherSuiteName" (actual.cipherSuiteName.getD "")
        (desired.cipherSuiteName.getD "") ++
      (if actual.protocols ≠ desired.protocols then
        [changeMsg "Listener:SSLConfiguration:Protocols" (join (actual.protocols.getD []) ",")
          (join (desired.protocols.getD []) ",")] else [])
    else [])

def getConnectionConfigurationChanges (actual desired : Option ConnectionConfiguration) :
    List String :=
  match desired, actual with
  -- the service sets its own default
  | none, _ => []
  | some _, none => [changeMsg "Listener:ConnectionConfiguration" "NOT_PRESENT" "PRESENT"]
  | some desired, some actual =>
    fieldChange "Listener:ConnectionConfiguration:IdleTimeout" (actual.idleTimeout.getD 0)
      (desired.idleTimeout.getD 0) ++
    fieldChange "Listener:ConnectionConfiguration:BackendTcpProxyProtocolVersion"
      (actual.backendTcpProxyProtocolVersion.getD 0)
      (desired.backendTcpProxyProtocolVersion.getD 0)

/-! ## Backend sets -/

/-- The message about the port of the first backends, when both sides have backends. -/
def backendPortChange (actual desired : List Backend) : List String :=
  match actual, desired with
  | a :: _, d :: _ => fieldChange "BackEndSet:BackendPort" a.port d.port
  | _, _ => []

/-- A backend is known by its address and port. -/
def backendKey (backend : Backend) : String := backend.ipAddress ++ ":" ++ toString backend.port

def backendChanges (actual desired : List Backend) : List String :=
  let desiredSet := desired.map backendKey
  let actualSet := actual.map backendKey
  (actualSet.filter (· ∉ desiredSet)).map (backendChangeMsg "BackEndSet:Backend Remove") ++
    (desiredSet.filter (· ∉ actualSet)).map (backendChangeMsg "BackEndSet:Backend Add")

def hasBackendSetChanged (actual desired : BackendSetDetails) : Bool :=
  getHealthCheckerChanges actual.healthChecker desired.healthChecker ++
    backendPortChange actual.backends desired.backends ++
    fieldChange "BackEndSet:Policy" (actual.policy.getD "") (desired.policy.getD "") ++
    fieldChange "BackEndSet:IsPreserveSource" (actual.isPreserveSource.getD false)
      (desired.isPreserveSource.getD false) ++
    getSSLConfigurationChanges actual.sslConfiguration desired.sslConfiguration ++
    backendChanges actual.backends desired.backends ≠ []

/-- The body regular expression is not copied. -/
def healthCheckerToDetails (hc : Option HealthChecker) : Option HealthChecker :=
  hc.map fun hc => { hc with responseBodyRegex := none }

def backendsToBackendDetails (bs : List Backend) : List Backend :=
  bs.map fun backend => { backend with targetId := none, name := none, maxConnections := none }

/-- The ports of a backend set: those of its first backend and its health checker, and 0
where there is none. -/
def portsFromBackendSet (bs : BackendSetDetails) : PortSpec where
  backendPort := (bs.backends.head?.map (·.port)).getD 0
  healthCheckerPort := (bs.healthChecker.bind (·.port)).getD 0

namespace BackendSetAction

def ofDelete (actualBackendSet : BackendSetDetails) : BackendSetAction where
  name := actualBackendSet.name
  backendSet := { actualBackendSet with
    name := ""
    healthChecker := healthCheckerToDetails actualBackendSet.healthChecker
    backends := backendsToBackendDetails actualBackendSet.backends
    isPreserveSource := none }
  ports := portsFromBackendSet actualBackendSet
  actionType := .delete

def ofUpdate (name : String) (actualBackendSet desiredBackendSet : BackendSetDetails) :
    BackendSetAction where
  name := name
  backendSet := desiredBackendSet
  ports := portsFromBackendSet desiredBackendSet
  oldPorts := some (portsFromBackendSet actualBackendSet)
  actionType := .update

def ofCreate (name : String) (desiredBackendSet : BackendSetDetails) : BackendSetAction where
  name := name
  backendSet := desiredBackendSet
  ports := portsFromBackendSet desiredBackendSet
  actionType := .create

end BackendSetAction

/-- The action for a backend set that the load balancer has. -/
def actualBackendSetAction (desired : GoMap BackendSetDetails)
    (entry : String × BackendSetDetails) : Option BackendSetAction :=
  match desired.lookup entry.1 with
  | none => some (.ofDelete entry.2)
  | some desiredBackendSet =>
    if hasBackendSetChanged entry.2 desiredBackendSet then
      some (.ofUpdate entry.1 entry.2 desiredBackendSet)
    else none

/-- The action for a backend set that the load balancer should have. -/
def desiredBackendSetAction (actual : GoMap BackendSetDetails)
    (entry : String × BackendSetDetails) : Option BackendSetAction :=
  if entry.1 ∈ actual then none else some (.ofCreate entry.1 entry.2)

def getBackendSetChanges (o : RangeOrder.{0}) (actual desired : GoMap BackendSetDetails) :
    List BackendSetAction :=
  (o.range 0 actual).filterMap (actualBackendSetAction desired) ++
    (o.range 1 desired).filterMap (desiredBackendSetAction actual)

/-! ## Listeners -/

def hasListenerChanged {RuleSet : Type} (actual desired : Listener)
    (ruleSets : Option (GoMap RuleSet)) : Bool :=
  fieldChange "Listener:DefaultBackendSetName" actual.defaultBackendSetName
      desired.defaultBackendSetName ++
    fieldChange "Listener:Port" actual.port desired.port ++
    fieldChange "Listener:Protocol" actual.protocol desired.protocol ++
    fieldChange "Listener:IsPpv2Enabled" (actual.isPpv2Enabled.getD false)
      (desired.isPpv2Enabled.getD false) ++
    (if ruleSets.isSome ∧ actual.namedRuleSets.toFinset ≠ desired.namedRuleSets.toFinset then
      [changeMsg "Listener:RuleSetNames" ("[" ++ join actual.namedRuleSets " " ++ "]")
        ("[" ++ join desired.namedRuleSets " " ++ "]")] else []) ++
    getSSLConfigurationChanges actual.sslConfiguration desired.sslConfiguration ++
    getConnectionConfigurationChanges actual.connectionConfiguration
      desired.connectionConfiguration ≠ []

/-- Omits what follows protocol and port in a name, but for the suffix of IPv6, and turns
the protocol HTTP into TCP. -/
def getSanitizedName (name : String) : String :=
  let fields := split name '-'
  let isHTTP := equalFold (fields.headD "") "HTTP"
  let fields := if isHTTP then "TCP" :: fields.tail else fields
  let name := if isHTTP then join fields "-" else name
  if fields.length > 2 then
    if "IPv6" ∈ fields then join (fields.take 3) "-" else join (fields.take 2) "-"
  else name

/-- The desired listeners under their sanitized names. -/
def sanitizedDesiredListeners (o : RangeOrder.{0}) (desired : GoMap Listener) :
    GoMap Listener :=
  insertAll ∅ ((o.range 0 desired).map fun (name, l) => (getSanitizedName name, l))

namespace ListenerAction

def ofDelete (name : String) (actualListener : Listener) : ListenerAction where
  name := name
  listener := { actualListener with
    name := ""
    hostnameNames := none
    pathRouteSetName := none
    connectionConfiguration := none
    routingPolicyName := none
    ipVersion := none
    isPpv2Enabled := none }
  actionType := .delete

def ofUpdate (name : String) (desiredListener : Listener) : ListenerAction where
  name := name
  listener := desiredListener
  actionType := .update

def ofCreate (name : String) (desiredListener : Listener) : ListenerAction where
  name := name
  listener := desiredListener
  actionType := .create

end ListenerAction

/-- The action for a listener that the load balancer has. -/
def actualListenerAction {RuleSet : Type} (sanitizedDesired : GoMap Listener)
    (ruleSets : Option (GoMap RuleSet)) (entry : String × Listener) : Option ListenerAction :=
  match sanitizedDesired.lookup (getSanitizedName entry.1) with
  | none => some (.ofDelete entry.1 entry.2)
  | some desiredListener =>
    if hasListenerChanged entry.2 desiredListener ruleSets then
      some (.ofUpdate entry.1 desiredListener)
    else none

/-- The action for a listener that the load balancer should have. -/
def desiredListenerAction (existing : List String) (entry : String × Listener) :
    Option ListenerAction :=
  if getSanitizedName entry.1 ∈ existing then none else some (.ofCreate entry.1 entry.2)

def getListenerChanges {RuleSet : Type} (o : RangeOrder.{0}) (actual desired : GoMap Listener)
    (ruleSets : Option (GoMap RuleSet)) : List ListenerAction :=
  let sanitizedDesired := sanitizedDesiredListeners o desired
  let existing := (actual.keys.map getSanitizedName).filter (· ∈ sanitizedDesired)
  (o.range 1 actual).filterMap (actualListenerAction sanitizedDesired ruleSets) ++
    (o.range 2 desired).filterMap (desiredListenerAction existing)

/-! ## Rule sets -/

/-- The action for a rule set that the load balancer has. -/
def actualRuleSetAction {RuleSet : Type} (desired : GoMap RuleSet) (entry : String × RuleSet) :
    Option (RuleSetAction RuleSet) :=
  if entry.1 ∈ desired then none
  else some { name := entry.1, ruleSetDetails := entry.2, actionType := .delete }

/-- The action for a rule set that the load balancer should have. -/
def desiredRuleSetAction {RuleSet : Type} [DecidableEq RuleSet] (actual : GoMap RuleSet)
    (entry : String × RuleSet) : Option (RuleSetAction RuleSet) :=
  match actual.lookup entry.1 with
  | none => some { name := entry.1, ruleSetDetails := entry.2, actionType := .create }
  | some a =>
    if a ≠ entry.2 then
      some { name := entry.1, ruleSetDetails := entry.2, actionType := .update }
    else none

def getRuleSetChanges {RuleSet : Type} [DecidableEq RuleSet] (o : RangeOrder.{0})
    (actual desired : GoMap RuleSet) : List (RuleSetAction RuleSet) :=
  (o.range 0 actual).filterMap (actualRuleSetAction desired) ++
    (o.range 1 desired).filterMap (desiredRuleSetAction actual)

end OciCcm.LoadBalancer
