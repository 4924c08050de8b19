import OciCcm.LoadBalancer.Types

/-! # Settings read from a service

The annotations of a service, the functions that read them, and the checks a
service has to pass. Errors carry the text that the controller reports.
-/

namespace OciCcm.LoadBalancer

open Go Kubernetes

variable {RuleSet : Type}

/-! ## Annotation names -/

def serviceAnnotationLoadBalancerType := "oci.oraclecloud.com/load-balancer-type"
def serviceAnnotationLoadBalancerBEProtocol :=
  "service.beta.kubernetes.io/oci-load-balancer-backend-protocol"
def serviceAnnotationLoadBalancerConnectionIdleTimeout :=
  "service.beta.kubernetes.io/oci-load-balancer-connection-idle-timeout"
def serviceAnnotationLoadBalancerConnectionProxyProtocolVersion :=
  "service.beta.kubernetes.io/oci-load-balancer-connection-proxy-protocol-version"
def serviceAnnotationLoadBalancerTLSBackendSetSecret :=
  "service.beta.kubernetes.io/oci-load-balancer-tls-backendset-secret"
def serviceAnnotationLoadBalancerSecurityListManagementMode :=
  "service.beta.kubernetes.io/oci-load-balancer-security-list-management-mode"
def serviceAnnotationLoadBalancerSecurityRuleManagementMode :=
  "oci.oraclecloud.com/security-rule-management-mode"
def serviceAnnotationLoadBalancerHealthCheckRetries :=
  "service.beta.kubernetes.io/oci-load-balancer-health-check-retries"
def serviceAnnotationLoadBalancerHealthCheckInterval :=
  "service.beta.kubernetes.io/oci-load-balancer-health-check-interval"
def serviceAnnotationLoadBalancerHealthCheckTimeout :=
  "service.beta.kubernetes.io/oci-load-balancer-health-check-timeout"
def serviceAnnotationLoadBalancerPolicy := "oci.oraclecloud.com/loadbalancer-policy"
def serviceAnnotationLoadbalancerListenerSSLConfig :=
  "oci.oraclecloud.com/oci-load-balancer-listener-ssl-config"
def serviceAnnotationLoadbalancerBackendSetSSLConfig :=
  "oci.oraclecloud.com/oci-load-balancer-backendset-ssl-config"
def serviceAnnotationRuleSets := "oci.oraclecloud.com/oci-load-balancer-rule-sets"
def serviceAnnotationNetworkLoadBalancerHealthCheckRetries :=
  "oci-network-load-balancer.oraclecloud.com/health-check-retries"
def serviceAnnotationNetworkLoadBalancerHealthCheckInterval :=
  "oci-network-load-balancer.oraclecloud.com/health-check-interval"
def serviceAnnotationNetworkLoadBalancerHealthCheckTimeout :=
  "oci-network-load-balancer.oraclecloud.com/health-check-timeout"
def serviceAnnotationNetworkLoadBalancerBackendPolicy :=
  "oci-network-load-balancer.oraclecloud.com/backend-policy"
def serviceAnnotationNetworkLoadBalancerSecurityListManagementMode :=
  "oci-network-load-balancer.oraclecloud.com/security-list-management-mode"
def serviceAnnotationNetworkLoadBalancerIsPreserveSource :=
  "oci-network-load-balancer.oraclecloud.com/is-preserve-source"
def serviceAnnotationNetworkLoadBalancerIsPpv2Enabled :=
  "oci-network-load-balancer.oraclecloud.com/is-ppv2-enabled"

/-! ## Type and management modes -/

/-- The product a service asks for; anything but `nlb` in some letter case is `lb`. -/
def getLoadBalancerType (svc : Service) : LBType :=
  if toLower (svc.annotation serviceAnnotationLoadBalancerType) = "nlb" then .nlb else .lb

/-- How the security rules of a service are managed. -/
inductive ManagementMode where
  | all
  | frontend
  | none
  | nsg
deriving DecidableEq, Repr

/-- The spellings of the security list management modes. -/
def knownSecListMode (s : String) : Option ManagementMode :=
  if s = "All" then some .all
  else if s = "None" then some .none
  else if s = "Frontend" then some .frontend
  else Option.none

def getSecurityListManagementMode (svc : Service) : Except String ManagementMode :=
  match getLoadBalancerType svc with
  | .nlb =>
    match svc.annotations.lookup serviceAnnotationNetworkLoadBalancerSecurityListManagementMode with
    | none => .ok .none
    | some v =>
      match knownSecListMode v with
      | some mode => .ok mode
      | none => .error ("invalid value: " ++ v ++ " provided for annotation: "
          ++ serviceAnnotationNetworkLoadBalancerSecurityListManagementMode)
  | .lb =>
    match svc.annotations.lookup serviceAnnotationLoadBalancerSecurityListManagementMode with
    | none => .ok .all
    -- an unknown value is logged and read as the default
    | some v => .ok ((knownSecListMode v).getD .all)

def getRuleManagementMode (svc : Service) : Except String ManagementMode :=
  match svc.annotations.lookup serviceAnnotationLoadBalancerSecurityRuleManagementMode with
  | none => getSecurityListManagementMode svc
  | some v =>
    if toLower v = toLower "SL-All" then .ok .all
    else if toLower v = toLower "SL-Frontend" then .ok .frontend
    else if toLower v = toLower "NSG" then .ok .nsg
    else if v ∈ ["SL-All", "SL-Frontend", "NSG", "None"] then .ok .none
    else .error ("invalid value: " ++ v ++ " provided for annotation: "
      ++ serviceAnnotationLoadBalancerSecurityRuleManagementMode)

/-! ## Validation -/

def validateProtocols (servicePorts : List ServicePort) (lbType : LBType)
    (secListMgmtMode : ManagementMode) : Except String Unit :=
  servicePorts.forM fun servicePort => do
    if servicePort.protocol = .udp ∧ lbType = .lb then
      .error "OCI load balancers do not support UDP"
    else if servicePort.protocol = .udp ∧ lbType = .nlb ∧ secListMgmtMode ≠ .none then
      .error "Security list management mode can only be 'None' for UDP protocol"
    else .ok ()

def validateService (svc : Service) : Except String Unit := do
  let secListMgmtMode ← getSecurityListManagementMode svc
  validateProtocols svc.ports (getLoadBalancerType svc) secListMgmtMode
  if svc.sessionAffinity ≠ .none then
    .error "OCI only supports SessionAffinity \"None\" currently"
  else .ok ()

/-! ## Backend settings -/

def getPreserveSourceAnnotation (svc : Service) : Except String Bool :=
  match svc.annotations.lookup serviceAnnotationNetworkLoadBalancerIsPreserveSource with
  | some v =>
    match parseBool v with
    | some enable => .ok enable
    | none => .error ("failed to to parse " ++ serviceAnnotationNetworkLoadBalancerIsPreserveSource
        ++ " annotation value - " ++ v)
  -- default behavior is to enable source destination preservation
  | none => .ok true

/-- The type annotation is compared as it is written, not in lower case. -/
def getPreserveSource (svc : Service) : Except String Bool :=
  if svc.annotation serviceAnnotationLoadBalancerType ≠ "nlb" then .ok false
  else if svc.externalTrafficPolicy = some .cluster ∧
      (svc.annotations.lookup serviceAnnotationNetworkLoadBalancerIsPreserveSource).isSome then
    .error (serviceAnnotationNetworkLoadBalancerIsPreserveSource
      ++ " annotation cannot be set when externalTrafficPolicy is set to Cluster")
  else do
    let enablePreservation ← getPreserveSourceAnnotation svc
    .ok (svc.externalTrafficPolicy = some .local && enablePreservation)

def getLoadBalancerPolicy (svc : Service) : Except String String :=
  let known (dflt : String) (policies : List String) : Option String → Except String String
    | none => .ok dflt
    | some v => if v ∈ policies then .ok v
        else .error ("loadbalancer policy \"" ++ v ++ "\" is not valid")
  match getLoadBalancerType svc with
  | .nlb => known "FIVE_TUPLE" ["TWO_TUPLE", "THREE_TUPLE", "FIVE_TUPLE"]
      (svc.annotations.lookup serviceAnnotationNetworkLoadBalancerBackendPolicy)
  | .lb => known "ROUND_ROBIN" ["IP_HASH", "LEAST_CONNECTIONS", "ROUND_ROBIN"]
      (svc.annotations.lookup serviceAnnotationLoadBalancerPolicy)

/-- An integer setting: the default, or the value of the annotation. -/
def intSetting (svc : Service) (annotationString : String) (dflt : Int) : Except String Int :=
  match svc.annotations.lookup annotationString with
  | none => .ok dflt
  | some v =>
    match parseInt v with
    | some i => .ok i
    | none => .error ("invalid value: " ++ v ++ " provided for annotation: " ++ annotationString)

/-- Choose by product. -/
def byType {α : Type} (svc : Service) (nlb lb : α) : α :=
  match getLoadBalancerType svc with
  | .nlb => nlb
  | .lb => lb

def getHealthCheckRetries (svc : Service) : Except String Int :=
  intSetting svc (byType svc serviceAnnotationNetworkLoadBalancerHealthCheckRetries
    serviceAnnotationLoadBalancerHealthCheckRetries) 3

def getHealthCheckTimeout (svc : Service) : Except String Int :=
  intSetting svc (byType svc serviceAnnotationNetworkLoadBalancerHealthCheckTimeout
    serviceAnnotationLoadBalancerHealthCheckTimeout) 3000

/-- Unlike its siblings the interval is also checked against the limits of the product. -/
def getHealthCheckInterval (svc : Service) : Except String Int :=
  let key := byType svc serviceAnnotationNetworkLoadBalancerHealthCheckInterval
    serviceAnnotationLoadBalancerHealthCheckInterval
  let healthCheckIntervalMin : Int := byType svc 10000 1000
  let healthCheckIntervalMax : Int := byType svc 1800000 1800000
  match svc.annotations.lookup key with
  | none => .ok 10000
  | some _ => do
    let i ← intSetting svc key 10000
    if i < healthCheckIntervalMin ∨ i > healthCheckIntervalMax then
      .error ("invalid value for health check interval, should be between "
        ++ toString healthCheckIntervalMin ++ " and " ++ toString healthCheckIntervalMax)
    else .ok i

def lbNodesHealthCheckPath := "/healthz"
def lbNodesHealthCheckPort : Nat := 10256
def lbNodesHealthCheckProto := "HTTP"

def getHealthChecker (svc : Service) : Except String HealthChecker := do
  let retries ← getHealthCheckRetries svc
  let intervalInMillis ← getHealthCheckInterval svc
  let timeoutInMillis ← getHealthCheckTimeout svc
  -- HTTP healthcheck for HTTPS backends
  let isForcePlainText :=
    (svc.annotations.lookup serviceAnnotationLoadBalancerTLSBackendSetSecret).isSome
  let (checkPath, checkPort) := svc.getServiceHealthCheckPathPort
  let (path, port) :=
    if checkPath ≠ "" then (checkPath, checkPort)
    else (lbNodesHealthCheckPath, lbNodesHealthCheckPort)
  .ok { protocol := lbNodesHealthCheckProto
        isForcePlainText := some isForcePlainText
        urlPath := some path
        port := some port
        retries := some retries
        intervalInMillis := some intervalInMillis
        timeoutInMillis := some timeoutInMillis
        returnCode := some 200 }

/-! ## SSL and rule sets -/

def getSSLConfiguration (lib : Library RuleSet) (cfg : Option SSLConfig) (name : String)
    (port : Nat) (lbSslConfiguration : String) :
    Except String (Option SslConfigurationDetails) :=
  match cfg with
  | none => .ok none
  | some cfg =>
    if (port : Int) ∉ cfg.ports ∨ name = "" then .ok none
    else do
      let extractCipherSuite ←
        if lbSslConfiguration ≠ "" then
          match lib.unmarshalSslConfiguration lbSslConfiguration with
          | .ok s => .ok s
          | .error e => .error (wrap "failed to parse SSL Configuration annotation" e)
        else .ok none
      let details : SslConfigurationDetails :=
        { certificateName := some name, verifyDepth := some 0, verifyPeerCertificate := some false }
      .ok (some (match extractCipherSuite with
        | none => details
        | some s => { details with
            cipherSuiteName := s.cipherSuiteName
            protocols := s.protocols }))

/-- The rule sets of a service and the error met while reading them: a missing
annotation is a nil map, an empty one an empty object. -/
def getRuleSets (lib : Library RuleSet) (svc : Service) :
    Option (GoMap RuleSet) × Option String :=
  match svc.annotations.lookup serviceAnnotationRuleSets with
  | none => (none, none)
  | some annotation =>
    if getLoadBalancerType svc = .nlb then
      (none, some ("invalid annotation " ++ serviceAnnotationRuleSets
        ++ ". Rule Sets are not supported by Network Load Balancer"))
    else lib.decodeRuleSets (if annotation = "" then "\x7b\x7d" else annotation)

end OciCcm.LoadBalancer
