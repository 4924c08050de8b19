import Mathlib.Data.List.Sort
import Mathlib.Data.String.Basic
import OciCcm.LoadBalancer.IpVersions
import OciCcm.Util

/-! # The desired load balancer of a service

Listeners, backend sets and ports are computed from a service by separate loops.
Each loop names what it builds `<protocol>-<port>`, with the suffix `-IPv6` for
the IPv6 copy, and folds service ports that share a number into one entry.
-/

namespace OciCcm.LoadBalancer

open Go Kubernetes

variable {RuleSet : Type}

def protocolTypeMixed := "TCP_AND_UDP"
def protocolGrpc := "GRPC"
def defaultCipherSuiteForGRPC := "oci-default-http2-ssl-cipher-suite-v1"
def defaultLoadBalancerBEProtocol := "TCP"
def lbConnectionIdleTimeoutTCP : Int := 300
def lbConnectionIdleTimeoutHTTP : Int := 60

def getBackendSetName (protocol : String) (port : Nat) : String := dashed protocol port

def getListenerName (protocol : String) (port : Nat) : String := dashed protocol port

/-- The name of the IPv6 copy of a listener or backend set. -/
def ipv6Name (name : String) : String := name ++ "-" ++ "IPv6"

/-! ## Ports that share a number -/

/-- `portsMap[port]`: the protocols of the service ports with this number, in order. -/
def portsMap (svc : Service) (port : Nat) : List String :=
  (svc.ports.filter (·.port = port)).map (·.protocol.str)

/-- The protocol under which a service port is entered, with the updated set of
mixed ports; nothing when its number is mixed and has been entered before. -/
def mixedOrPlain (svc : Service) (mixedProtocolsPortSet : Finset Nat) (servicePort : ServicePort) :
    Option (String × Finset Nat) :=
  if 1 < (portsMap svc servicePort.port).length then
    if servicePort.port ∈ mixedProtocolsPortSet then none
    else some (protocolTypeMixed, insert servicePort.port mixedProtocolsPortSet)
  else some (servicePort.protocol.str, mixedProtocolsPortSet)

/-- One iteration of `getBackendSetNamePortMap`. The IPv4 and the IPv6 entry consult the
same set of mixed ports, and a skipped IPv4 entry ends the iteration. -/
def backendSetNamePortMapStep (svc : Service) (requireIPv4 requireIPv6 : Bool)
    (st : GoMap ServicePort × Finset Nat) (servicePort : ServicePort) :
    GoMap ServicePort × Finset Nat :=
  let port := servicePort.port
  let afterIPv4 : Option (GoMap ServicePort × Finset Nat) :=
    if requireIPv4 then
      (mixedOrPlain svc st.2 servicePort).map fun (protocol, mixed) =>
        (st.1.insert (getBackendSetName protocol port) servicePort, mixed)
    else some st
  match afterIPv4 with
  | none => st
  | some st =>
    if requireIPv6 then
      match mixedOrPlain svc st.2 servicePort with
      | none => st
      | some (protocol, mixed) =>
        (st.1.insert (ipv6Name (getBackendSetName protocol port)) servicePort, mixed)
    else st

def getBackendSetNamePortMap (svc : Service) : GoMap ServicePort :=
  let (requireIPv4, requireIPv6) := getRequireIpVersions (getIpFamilies svc)
  (svc.ports.foldl (backendSetNamePortMapStep svc requireIPv4 requireIPv6) (∅, ∅)).1

/-! ## Ports and backend sets -/

/-- The IP version of the backend set with this name, if it is among the chosen ones. -/
def backendSetIpVersion (backendSetName : String) (listenerBackendIpVersion : List IpVersion) :
    Option IpVersion :=
  if contains backendSetName "IPv6" ∧ .ipv6 ∈ listenerBackendIpVersion then some .ipv6
  else if ¬contains backendSetName "IPv6" ∧ .ipv4 ∈ listenerBackendIpVersion then some .ipv4
  else none

/-- One iteration of `getPorts`. -/
def portsEntry (svc : Service) (listenerBackendIpVersion : List IpVersion)
    (entry : String × ServicePort) : Except String (Option (String × PortSpec)) := do
  let (backendSetName, servicePort) := entry
  let healthChecker ← getHealthChecker svc
  .ok ((backendSetIpVersion backendSetName listenerBackendIpVersion).map fun _ =>
    (backendSetName,
      { backendPort := servicePort.nodePort
        listenerPort := servicePort.port
        healthCheckerPort := healthChecker.port.getD 0 }))

def getPorts (o : RangeOrder.{0}) (svc : Service) (listenerBackendIpVersion : List IpVersion) :
    Except String (GoMap PortSpec) :=
  fill (portsEntry svc listenerBackendIpVersion) (o.range 0 (getBackendSetNamePortMap svc))

/-- The IPv4 and the IPv6 address of a node. The internal address is optional for
IPv6, and the external one stands in for it. -/
def nodeAddresses (lib : Library RuleSet) (node : Node) : IpAddresses :=
  let internal := nodeInternalIP lib.isIPv6String node
  if internal.v6 = "" then { internal with v6 := (nodeExternalIp lib.isIPv6String node).v6 }
  else internal

/-- The IPv4 and IPv6 backends of one node. -/
def backendsOfNode (lib : Library RuleSet) (nodePort : Nat) (node : Node) :
    List Backend × List Backend :=
  let ips := nodeAddresses lib node
  if ips.v4 = "" ∧ ips.v6 = "" then ([], [])
  else match mapProviderIDToResourceID node.providerID with
    | .error _ => ([], [])
    | .ok instanceID =>
      (if lib.isIPv4String ips.v4 then
          [{ port := nodePort, weight := some 1, ipAddress := ips.v4, targetId := some instanceID }]
        else [],
       if lib.isIPv6String ips.v6 then
          [{ port := nodePort, weight := some 1, ipAddress := ips.v6, targetId := none }]
        else [])

/-- The IPv4 and the IPv6 backends of the provisioned nodes. -/
def getBackends (lib : Library RuleSet) (provisionedNodes : List Node) (nodePort : Nat) :
    List Backend × List Backend :=
  (provisionedNodes.flatMap fun node => (backendsOfNode lib nodePort node).1,
   provisionedNodes.flatMap fun node => (backendsOfNode lib nodePort node).2)

/-- The SSL configuration of a backend set, for load balancers with a backend secret. -/
def backendSetSSL (lib : Library RuleSet) (svc : Service) (sslCfg : Option SSLConfig)
    (port : Nat) : Except String (Option SslConfigurationDetails) :=
  match sslCfg with
  | some cfg =>
    if cfg.backendSetSSLSecretName ≠ "" ∧ getLoadBalancerType svc = .lb then
      getSSLConfiguration lib sslCfg cfg.backendSetSSLSecretName port
        (svc.annotation serviceAnnotationLoadbalancerBackendSetSSLConfig)
    else .ok none
  | none => .ok none

/-- One iteration of `getBackendSets`. -/
def backendSetEntry (lib : Library RuleSet) (svc : Service) (provisionedNodes : List Node)
    (sslCfg : Option SSLConfig) (isPreserveSource : Bool)
    (listenerBackendIpVersion : List IpVersion) (loadbalancerPolicy : String)
    (entry : String × ServicePort) : Except String (Option (String × BackendSetDetails)) := do
  let (backendSetName, servicePort) := entry
  let sslConfiguration ← backendSetSSL lib svc sslCfg servicePort.port
  let healthChecker ← getHealthChecker svc
  let (backendsIPv4, backendsIPv6) := getBackends lib provisionedNodes servicePort.nodePort
  .ok ((backendSetIpVersion backendSetName listenerBackendIpVersion).map fun ipVersion =>
    (backendSetName,
      { name := backendSetName
        policy := some loadbalancerPolicy
        healthChecker := some healthChecker
        isPreserveSource := some isPreserveSource
        sslConfiguration := sslConfiguration
        ipVersion := some ipVersion
        backends := if ipVersion = .ipv6 then backendsIPv6 else backendsIPv4 }))

def getBackendSets (lib : Library RuleSet) (o : RangeOrder.{0}) (svc : Service)
    (provisionedNodes : List Node) (sslCfg : Option SSLConfig) (isPreserveSource : Bool)
    (listenerBackendIpVersion : List IpVersion) : Except String (GoMap BackendSetDetails) := do
  let loadbalancerPolicy ← getLoadBalancerPolicy svc
  fill (backendSetEntry lib svc provisionedNodes sslCfg isPreserveSource
    listenerBackendIpVersion loadbalancerPolicy) (o.range 0 (getBackendSetNamePortMap svc))

/-! ## Listeners -/

/-- The protocol of a listener as the annotation spells it, or the service port's own. -/
def listenerProtocol (svc : Service) (servicePort : ServicePort) : Except String String :=
  match svc.annotations.lookup serviceAnnotationLoadBalancerBEProtocol with
  | none => .ok servicePort.protocol.str
  | some p =>
    let p := if p = "" then defaultLoadBalancerBEProtocol else p
    if equalFold p "HTTP" ∨ equalFold p "TCP" ∨ equalFold p "GRPC" then .ok p
    else .error ("invalid backend protocol " ++ p.quote ++ " requested for load balancer listener."
      ++ " Only 'HTTP', 'TCP' and 'GRPC' protocols supported")

/-- GRPC listeners are spelled in upper case and need an SSL configuration. -/
def normalizeGrpc (protocol : String) (sslConfiguration : Option SslConfigurationDetails) :
    Except String (String × Option SslConfigurationDetails) :=
  if equalFold protocol "GRPC" then
    match sslConfiguration with
    | none => .error "SSL configuration cannot be empty for GRPC protocol"
    | some ssl => .ok (protocolGrpc, some { ssl with
        cipherSuiteName := some (ssl.cipherSuiteName.getD defaultCipherSuiteForGRPC) })
  else .ok (protocol, sslConfiguration)

/-- With a proxy protocol the idle timeout is required and gets a default per protocol. -/
def listenerConnectionConfiguration (connectionIdleTimeout proxyProtocolVersion : Option Int)
    (protocol : String) : Option ConnectionConfiguration :=
  let dflt : Int :=
    if toUpper protocol = "HTTP" then lbConnectionIdleTimeoutHTTP
    else if toUpper protocol = "TCP" then lbConnectionIdleTimeoutTCP
    else 0
  let actualConnectionIdleTimeout :=
    if proxyProtocolVersion.isSome ∧ connectionIdleTimeout.isNone then some dflt
    else connectionIdleTimeout
  actualConnectionIdleTimeout.map fun t => ⟨some t, proxyProtocolVersion⟩

/-- An integer annotation of the connection settings; the empty value is absent. -/
def connectionSetting (svc : Service) (key : String) : Except String (Option Int) :=
  let v := svc.annotation key
  if v = "" then .ok none
  else match parseInt v with
    | some i => .ok (some i)
    | none => .error ("error parsing service annotation: " ++ key ++ "=" ++ v)

/-- The SSL configuration of a listener, when there is a listener secret. -/
def listenerSSL (lib : Library RuleSet) (svc : Service) (sslCfg : Option SSLConfig) (port : Nat) :
    Except String (Option SslConfigurationDetails) :=
  match sslCfg with
  | some cfg =>
    if cfg.listenerSSLSecretName ≠ "" then
      getSSLConfiguration lib sslCfg cfg.listenerSSLSecretName port
        (svc.annotation serviceAnnotationLoadbalancerListenerSSLConfig)
    else .ok none
  | none => .ok none

/-- The listener of one service port. -/
def ociListener (lib : Library RuleSet) (svc : Service) (sslCfg : Option SSLConfig)
    (connectionIdleTimeout proxyProtocolVersion : Option Int) (rs : Option (List String))
    (servicePort : ServicePort) : Except String Listener := do
  let protocol ← listenerProtocol svc servicePort
  let port := servicePort.port
  let sslConfiguration ← listenerSSL lib svc sslCfg port
  let (protocol, sslConfiguration) ← normalizeGrpc protocol sslConfiguration
  .ok { name := getListenerName protocol port
        defaultBackendSetName := getBackendSetName servicePort.protocol.str port
        protocol := protocol
        port := port
        ruleSetNames := rs
        sslConfiguration := sslConfiguration
        connectionConfiguration :=
          listenerConnectionConfiguration connectionIdleTimeout proxyProtocolVersion protocol }

/-- The rule sets that the listeners name; an error of reading them is dropped here. -/
def ruleSetNames (lib : Library RuleSet) (svc : Service) : Option (List String) :=
  (getRuleSets lib svc).1.map fun ruleSets => ruleSets.keys.insertionSort (· ≤ ·)

def getListenersOciLoadBalancer (lib : Library RuleSet) (svc : Service)
    (sslCfg : Option SSLConfig) : Except String (GoMap Listener) := do
  let connectionIdleTimeout ←
    connectionSetting svc serviceAnnotationLoadBalancerConnectionIdleTimeout
  let proxyProtocolVersion ←
    connectionSetting svc serviceAnnotationLoadBalancerConnectionProxyProtocolVersion
  fill (fun servicePort =>
    (ociListener lib svc sslCfg connectionIdleTimeout proxyProtocolVersion
      (ruleSetNames lib svc) servicePort).map fun listener => some (listener.name, listener))
    svc.ports

/-- One iteration of `getListenersNetworkLoadBalancer`. -/
def networkListenersStep (svc : Service) (requireIPv4 requireIPv6 : Bool)
    (enablePpv2 : Option Bool) (st : GoMap Listener × Finset Nat) (servicePort : ServicePort) :
    Except String (GoMap Listener × Finset Nat) :=
  if servicePort.protocol = .sctp then
    .error ("invalid backend protocol " ++ servicePort.protocol.str.quote
      ++ " requested for network load balancer listener")
  else
    match mixedOrPlain svc st.2 servicePort with
    | none => .ok st
    | some (protocol, mixed) =>
      let port := servicePort.port
      let listener (name backendSetName : String) (ipVersion : IpVersion) : Listener :=
        { name, defaultBackendSetName := backendSetName, protocol, port,
          isPpv2Enabled := enablePpv2, ipVersion := some ipVersion }
      let name := getListenerName protocol port
      let backendSetName := getBackendSetName protocol port
      let listeners :=
        if requireIPv4 then st.1.insert name (listener name backendSetName .ipv4) else st.1
      let listeners :=
        if requireIPv6 then
          listeners.insert (ipv6Name name)
            (listener (ipv6Name name) (ipv6Name backendSetName) .ipv6)
        else listeners
      .ok (listeners, mixed)

/-- The PPv2 setting of the listeners; values other than true and false are ignored. -/
def enablePpv2 (svc : Service) : Option Bool :=
  match svc.annotations.lookup serviceAnnotationNetworkLoadBalancerIsPpv2Enabled with
  | none => none
  | some v =>
    if toLower v = "true" then some true
    else if toLower v = "false" then some false
    else none

def getListenersNetworkLoadBalancer (svc : Service) (listenerBackendIpVersion : List IpVersion) :
    Except String (GoMap Listener) := do
  let (requireIPv4, requireIPv6) := getRequireIpVersions listenerBackendIpVersion
  let st ← svc.ports.foldlM
    (networkListenersStep svc requireIPv4 requireIPv6 (enablePpv2 svc)) (∅, ∅)
  .ok st.1

def getListeners (lib : Library RuleSet) (svc : Service) (sslCfg : Option SSLConfig)
    (listenerBackendIpVersion : List IpVersion) : Except String (GoMap Listener) :=
  match getLoadBalancerType svc with
  | .nlb => getListenersNetworkLoadBalancer svc listenerBackendIpVersion
  | .lb => getListenersOciLoadBalancer lib svc sslCfg

end OciCcm.LoadBalancer
