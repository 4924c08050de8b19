import OciCcm.LoadBalancer.Listeners

/-! # References between listeners and backend sets

A listener names its default backend set. This file determines for which
services the listeners, the backend sets and the ports computed by the separate
loops fit together, and to which node port the traffic of a listener goes.
-/

namespace OciCcm.LoadBalancer

open Go Kubernetes

variable {RuleSet : Type} {svc : Service} {vs : List IpVersion}

/-! ## Names with a backend set -/

/-- The name has an entry of a chosen IP version. -/
def Entered (svc : Service) (vs : List IpVersion) (name : String) : Prop :=
  name ∈ getBackendSetNamePortMap svc ∧ (backendSetIpVersion name vs).isSome

theorem entered_entryName {q : ServicePort} (hq : q ∈ svc.ports) :
    Entered svc vs (entryName svc q) ↔ .ipv4 ∈ getIpFamilies svc ∧ .ipv4 ∈ vs := by
  have hversion : (backendSetIpVersion (entryName svc q) vs).isSome ↔ .ipv4 ∈ vs := by
    rw [backendSetIpVersion_entryName]
    split <;> simp_all
  rw [Entered, hversion, GoMap.mem_iff_exists_lookup]
  simp only [lookup_getBackendSetNamePortMap]
  refine and_congr_left fun _ => ⟨?_, fun h4 => ?_⟩
  · rintro ⟨q', -, ⟨h4, -⟩ | ⟨-, -, hname⟩⟩
    · exact h4
    · exact absurd hname.symm (ipv6Name_ne_entryName _ _)
  · obtain ⟨q', hfirst, -, hname⟩ := exists_isFirst hq
    exact ⟨q', hfirst, .inl ⟨h4, hname.symm⟩⟩

theorem entered_ipv6Name {q : ServicePort} (hq : q ∈ svc.ports) :
    Entered svc vs (ipv6Name (entryName svc q)) ↔
      (.ipv6 ∈ getIpFamilies svc ∧ ¬(.ipv4 ∈ getIpFamilies svc ∧ RepeatedPort svc q.port)) ∧
        .ipv6 ∈ vs := by
  have hversion :
      (backendSetIpVersion (ipv6Name (entryName svc q)) vs).isSome ↔ .ipv6 ∈ vs := by
    rw [backendSetIpVersion_ipv6Name]
    split <;> simp_all
  rw [Entered, hversion, GoMap.mem_iff_exists_lookup]
  simp only [lookup_getBackendSetNamePortMap]
  refine and_congr_left fun _ => ⟨?_, fun ⟨h6, hrep⟩ => ?_⟩
  · rintro ⟨q', -, ⟨-, hname⟩ | ⟨h6, hrep, hname⟩⟩
    · exact absurd hname (ipv6Name_ne_entryName _ _)
    · rw [entryName_inj (ipv6Name_inj hname)]
      exact ⟨h6, hrep⟩
  · obtain ⟨q', hfirst, hport, hname⟩ := exists_isFirst hq
    exact ⟨q', hfirst, .inr ⟨h6, hport ▸ hrep, congrArg ipv6Name hname.symm⟩⟩

theorem exists_of_entered {name : String} (h : Entered svc vs name) :
    ∃ q, IsFirst svc q ∧ ((.ipv4 ∈ vs ∧ name = entryName svc q) ∨
      (.ipv6 ∈ vs ∧ name = ipv6Name (entryName svc q))) := by
  obtain ⟨q, hq⟩ := GoMap.mem_iff_exists_lookup.mp h.1
  obtain ⟨hfirst, ⟨-, rfl⟩ | ⟨-, -, rfl⟩⟩ := (lookup_getBackendSetNamePortMap _ _ _).mp hq
  · exact ⟨q, hfirst, .inl ⟨((entered_entryName hfirst.mem).mp h).2, rfl⟩⟩
  · exact ⟨q, hfirst, .inr ⟨((entered_ipv6Name hfirst.mem).mp h).2, rfl⟩⟩

/-! ## Closure -/

/-- The default backend set of every listener has a backend set and ports, on a
network load balancer of the listener's IP version, and every backend set is the
default of a listener. -/
structure ReferenceClosed (svc : Service) (listeners : GoMap Listener)
    (backendSets : GoMap BackendSetDetails) (ports : GoMap PortSpec) : Prop where
  default_mem : ∀ name l, listeners.lookup name = some l →
    l.defaultBackendSetName ∈ backendSets ∧ l.defaultBackendSetName ∈ ports
  ipVersion_eq : getLoadBalancerType svc = .nlb → ∀ name l bs, listeners.lookup name = some l →
    backendSets.lookup l.defaultBackendSetName = some bs → bs.ipVersion = l.ipVersion
  isDefault : ∀ name ∈ backendSets, ∃ n l, listeners.lookup n = some l ∧
    l.defaultBackendSetName = name

/-- The services whose names fit together. A service without ports has neither
listeners nor backend sets. Otherwise a network load balancer needs every chosen IP
version among the families of the service, and no repeated number when it has IPv4
and builds IPv6 listeners; a load balancer needs IPv4 and no repeated number. -/
abbrev NamesAgree (svc : Service) (vs : List IpVersion) : Prop :=
  svc.ports = [] ∨
    if getLoadBalancerType svc = .nlb then
      (∀ v ∈ vs, v ∈ getIpFamilies svc) ∧
        ¬(.ipv4 ∈ getIpFamilies svc ∧ .ipv6 ∈ vs ∧ ∃ p ∈ svc.ports, RepeatedPort svc p.port)
    else .ipv4 ∈ getIpFamilies svc ∧ ∀ p ∈ svc.ports, ¬RepeatedPort svc p.port

section

variable {lib : Library RuleSet} {o o' : RangeOrder.{0}} {nodes : List Node}
  {sslCfg : Option SSLConfig} {isPreserveSource : Bool} {listeners : GoMap Listener}
  {backendSets : GoMap BackendSetDetails} {ports : GoMap PortSpec}

/-- Closure in terms of the entered names alone. -/
theorem referenceClosed_iff
    (hbss : getBackendSets lib o svc nodes sslCfg isPreserveSource vs = .ok backendSets)
    (hports : getPorts o' svc vs = .ok ports) :
    ReferenceClosed svc listeners backendSets ports ↔
      (∀ name l, listeners.lookup name = some l → Entered svc vs l.defaultBackendSetName) ∧
      (getLoadBalancerType svc = .nlb → ∀ name l v, listeners.lookup name = some l →
        Entered svc vs l.defaultBackendSetName →
        backendSetIpVersion l.defaultBackendSetName vs = some v → l.ipVersion = some v) ∧
      (∀ name, Entered svc vs name → ∃ n l, listeners.lookup n = some l ∧
        l.defaultBackendSetName = name) := by
  have hmem : ∀ name, name ∈ backendSets ↔ Entered svc vs name := fun _ => mem_getBackendSets hbss
  have hmem' : ∀ name, name ∈ ports ↔ Entered svc vs name := fun _ => mem_getPorts hports
  constructor
  · rintro ⟨hdefault, hversion, hisDefault⟩
    refine ⟨fun name l hl => (hmem _).mp (hdefault name l hl).1, ?_,
      fun name hname => hisDefault name ((hmem _).mpr hname)⟩
    intro hnlb name l v hl hent hv
    obtain ⟨bs, hbs⟩ := GoMap.mem_iff_exists_lookup.mp ((hmem _).mpr hent)
    obtain ⟨q, v', -, hv', -, hbsv, -⟩ := lookup_getBackendSets hbss hbs
    rw [← hversion hnlb name l bs hl hbs, hbsv, ← hv', hv]
  · rintro ⟨hent, hversion, hisDefault⟩
    refine ⟨fun name l hl => ?_, ?_, fun name hname => hisDefault name ((hmem _).mp hname)⟩
    · exact ⟨(hmem _).mpr (hent name l hl), (hmem' _).mpr (hent name l hl)⟩
    · intro hnlb name l bs hl hbs
      obtain ⟨q, v, -, hv, -, hbsv, -⟩ := lookup_getBackendSets hbss hbs
      rw [hbsv, hversion hnlb name l v hl (hent name l hl) hv]

/-- On a network load balancer a listener and its default backend set have one name
and one IP version, so only a missing entry breaks the closure. -/
theorem referenceClosed_iff_nlb (hnlb : getLoadBalancerType svc = .nlb)
    (hvs : ∀ v ∈ vs, v = .ipv4 ∨ v = .ipv6)
    (hls : getListenersNetworkLoadBalancer svc vs = .ok listeners)
    (hbss : getBackendSets lib o svc nodes sslCfg isPreserveSource vs = .ok backendSets)
    (hports : getPorts o' svc vs = .ok ports) :
    ReferenceClosed svc listeners backendSets ports ↔ NamesAgree svc vs := by
  obtain ⟨-, hlookup⟩ := lookup_getListenersNetworkLoadBalancer hls
  rw [referenceClosed_iff hbss hports, NamesAgree, if_pos hnlb]
  constructor
  · rintro ⟨hent, -, -⟩
    rcases List.eq_nil_or_concat svc.ports with hnil | ⟨init, p, hconcat⟩
    · exact .inl hnil
    · have hent4 : ∀ q, IsFirst svc q → .ipv4 ∈ vs → Entered svc vs (entryName svc q) :=
        fun q hq h4 => hent _ _ ((hlookup _ _).mpr ⟨q, hq, .inl ⟨h4, rfl, rfl⟩⟩)
      have hent6 : ∀ q, IsFirst svc q → .ipv6 ∈ vs → Entered svc vs (ipv6Name (entryName svc q)) :=
        fun q hq h6 => hent _ _ ((hlookup _ _).mpr ⟨q, hq, .inr ⟨h6, rfl, rfl⟩⟩)
      have hp : p ∈ svc.ports := by simp [hconcat]
      obtain ⟨q, hq, -⟩ := exists_isFirst hp
      refine .inr ⟨fun v hv => ?_, ?_⟩
      · rcases hvs v hv with rfl | rfl
        · exact ((entered_entryName hq.mem).mp (hent4 q hq hv)).1
        · exact ((entered_ipv6Name hq.mem).mp (hent6 q hq hv)).1.1
      · rintro ⟨h4, h6, p', hp', hrep⟩
        obtain ⟨q', hq', hport, -⟩ := exists_isFirst hp'
        exact ((entered_ipv6Name hq'.mem).mp (hent6 q' hq' h6)).1.2 ⟨h4, hport ▸ hrep⟩
  · intro hagree
    refine ⟨?_, ?_, ?_⟩
    · intro name l hl
      obtain ⟨q, hq, ⟨h4, rfl, rfl⟩ | ⟨h6, rfl, rfl⟩⟩ := (hlookup name l).mp hl
      · rcases hagree with hnil | ⟨hfam, -⟩
        · exact absurd hq.mem (by simp [hnil])
        · exact (entered_entryName hq.mem).mpr ⟨hfam _ h4, h4⟩
      · rcases hagree with hnil | ⟨hfam, hrep⟩
        · exact absurd hq.mem (by simp [hnil])
        · exact (entered_ipv6Name hq.mem).mpr
            ⟨⟨hfam _ h6, fun h => hrep ⟨h.1, h6, q, hq.mem, h.2⟩⟩, h6⟩
    · intro _ name l v hl _ hv
      obtain ⟨q, -, ⟨h4, rfl, rfl⟩ | ⟨h6, rfl, rfl⟩⟩ := (hlookup name l).mp hl
      · simpa [networkListener, backendSetIpVersion_entryName, h4] using hv
      · simpa [networkListener, backendSetIpVersion_ipv6Name, h6] using hv
    · intro name hname
      obtain ⟨q, hq, ⟨h4, rfl⟩ | ⟨h6, rfl⟩⟩ := exists_of_entered hname
      · exact ⟨_, _, (hlookup _ _).mpr ⟨q, hq, .inl ⟨h4, rfl, rfl⟩⟩, rfl⟩
      · exact ⟨_, _, (hlookup _ _).mpr ⟨q, hq, .inr ⟨h6, rfl, rfl⟩⟩, rfl⟩

theorem entered_plain {p : ServicePort} (hp : p ∈ svc.ports) (h4 : .ipv4 ∈ vs) :
    Entered svc vs (dashed p.protocol.str p.port) ↔
      .ipv4 ∈ getIpFamilies svc ∧ ¬RepeatedPort svc p.port := by
  by_cases hrep : RepeatedPort svc p.port
  · refine ⟨fun hent => ?_, fun h => absurd hrep h.2⟩
    obtain ⟨q, -, ⟨-, hname⟩ | ⟨-, hname⟩⟩ := exists_of_entered hent
    · obtain ⟨hproto, hport⟩ :=
        dashed_inj (dash_notMem_str _) (dash_notMem_entryProtocol svc q) hname
      rw [entryProtocol, ← hport, if_pos hrep] at hproto
      cases hpp : p.protocol <;> rw [hpp] at hproto <;> exact absurd hproto (by decide)
    · have hplain : contains (dashed p.protocol.str p.port) "IPv6" = false := by
        have := contains_entryName { svc with ports := [p] } p
        simpa [entryName, entryProtocol, portsMap] using this
      rw [hname, contains_ipv6Name] at hplain
      cases hplain
  · have hname : dashed p.protocol.str p.port = entryName svc p := by
      simp [entryName, entryProtocol, hrep]
    rw [hname, entered_entryName hp]
    simp [h4, hrep]

/-- On a load balancer every listener names the plain backend set of its service port,
which the other loops build unless the number is repeated or IPv4 is missing. -/
theorem referenceClosed_iff_lb (hlb : getLoadBalancerType svc = .lb)
    (hls : getListenersOciLoadBalancer lib svc sslCfg = .ok listeners)
    (hbss : getBackendSets lib o svc nodes sslCfg isPreserveSource [.ipv4] = .ok backendSets)
    (hports : getPorts o' svc [.ipv4] = .ok ports) :
    ReferenceClosed svc listeners backendSets ports ↔ NamesAgree svc [.ipv4] := by
  have h4 : IpVersion.ipv4 ∈ [IpVersion.ipv4] := by simp
  rw [referenceClosed_iff hbss hports, NamesAgree, if_neg (by simp [hlb])]
  -- the listener of a service port that the loop keeps, possibly written by another
  -- service port of the same number
  have hkept : ∀ p ∈ svc.ports, ∃ p' ∈ svc.ports, p'.port = p.port ∧ ∃ n l,
      listeners.lookup n = some l ∧ l.defaultBackendSetName = dashed p'.protocol.str p'.port := by
    intro p hp
    obtain ⟨hdash, hmem⟩ := mem_getListenersOciLoadBalancer hls hp
    obtain ⟨l, hl⟩ := GoMap.mem_iff_exists_lookup.mp hmem
    obtain ⟨p', hp', -, hname, hdefault, -⟩ := lookup_getListenersOciLoadBalancer hls hl
    obtain ⟨hdash', -⟩ := mem_getListenersOciLoadBalancer hls hp'
    exact ⟨p', hp', (dashed_inj hdash hdash' hname).2.symm, _, l, hl, hdefault⟩
  constructor
  · rintro ⟨hent, -, -⟩
    have hplain : ∀ p ∈ svc.ports, .ipv4 ∈ getIpFamilies svc ∧ ¬RepeatedPort svc p.port := by
      intro p hp
      obtain ⟨p', hp', hport, n, l, hl, hdefault⟩ := hkept p hp
      rw [← hport]
      exact (entered_plain hp' h4).mp (hdefault ▸ hent n l hl)
    rcases List.eq_nil_or_concat svc.ports with hnil | ⟨init, p, hconcat⟩
    · exact .inl hnil
    · exact .inr ⟨(hplain p (by simp [hconcat])).1, fun p' hp' => (hplain p' hp').2⟩
  · intro hagree
    refine ⟨?_, fun h => absurd h (by simp [hlb]), ?_⟩
    · intro name l hl
      obtain ⟨p, hp, -, -, hdefault, -⟩ := lookup_getListenersOciLoadBalancer hls hl
      rcases hagree with hnil | ⟨hfam, hrep⟩
      · exact absurd hp (by simp [hnil])
      · rw [hdefault]
        exact (entered_plain hp h4).mpr ⟨hfam, hrep p hp⟩
    · intro name hname
      obtain ⟨q, hq, ⟨-, rfl⟩ | ⟨h6, -⟩⟩ := exists_of_entered hname
      · rcases hagree with hnil | ⟨-, hrep⟩
        · exact absurd hq.mem (by simp [hnil])
        · obtain ⟨p', hp', hport, n, l, hl, hdefault⟩ := hkept q hq.mem
          obtain rfl : p' = q := by
            by_contra hne
            exact hrep q hq.mem (repeatedPort_of_ne hp' hq.mem hne hport)
          refine ⟨n, l, hl, ?_⟩
          simp [hdefault, entryName, entryProtocol, hrep p' hq.mem]
      · simp at h6

/-- Listeners, backend sets and ports of a service are closed under reference exactly
when the names of the separate loops agree. -/
theorem referenceClosed_iff_namesAgree (lib : Library RuleSet) (o o' : RangeOrder.{0})
    (svc : Service) (lbSubnets nodeSubnets : List (Option Subnet)) (versions : IpVersions)
    (nodes : List Node) (sslCfg : Option SSLConfig) (isPreserveSource : Bool)
    (listeners : GoMap Listener) (backendSets : GoMap BackendSetDetails) (ports : GoMap PortSpec)
    (_hvalid : validateService svc = .ok ())
    (hversions : getOciIpVersions lbSubnets nodeSubnets svc = .ok versions)
    (hls : getListeners lib svc sslCfg
      (convertOciIpVersionsToOciIpFamilies versions.listenerBackendIpVersion) = .ok listeners)
    (hbss : getBackendSets lib o svc nodes sslCfg isPreserveSource
      (convertOciIpVersionsToOciIpFamilies versions.listenerBackendIpVersion) = .ok backendSets)
    (hports : getPorts o' svc
      (convertOciIpVersionsToOciIpFamilies versions.listenerBackendIpVersion) = .ok ports) :
    ReferenceClosed svc listeners backendSets ports ↔
      NamesAgree svc (convertOciIpVersionsToOciIpFamilies versions.listenerBackendIpVersion) := by
  obtain ⟨hchosen, hlb4⟩ := getOciIpVersions_ok hversions
  have hconvert : convertOciIpVersionsToOciIpFamilies versions.listenerBackendIpVersion =
      versions.listenerBackendIpVersion := by
    rcases hchosen with h | h | h <;> simp [h, convertOciIpVersionsToOciIpFamilies]
  rw [hconvert] at hls hbss hports ⊢
  cases htype : getLoadBalancerType svc with
  | nlb =>
    rw [getListeners, htype] at hls
    refine referenceClosed_iff_nlb htype (fun v hv => ?_) hls hbss hports
    rcases hchosen with h | h | h <;> simp_all
  | lb =>
    rw [getListeners, htype] at hls
    rw [hlb4 htype] at hbss hports ⊢
    exact referenceClosed_iff_lb htype hls hbss hports

/-- A subnet with address blocks of both families. -/
def dualStackSubnet : Subnet where
  id := "ocid1.subnet.oc1..a"
  cidrBlock := some "10.0.0.0/24"
  ipv6CidrBlock := some "2001:db8::/64"

/-- A load balancer with a single TCP port. -/
def webService : Service where
  ports := [⟨.tcp, 80, 30080⟩]

theorem webService_referenceClosed :
    ∃ versions listeners backendSets ports,
      validateService webService = .ok () ∧
      getOciIpVersions [some dualStackSubnet] [some dualStackSubnet] webService = .ok versions ∧
      getListeners .simple webService none
        (convertOciIpVersionsToOciIpFamilies versions.listenerBackendIpVersion) =
          .ok listeners ∧
      getBackendSets .simple .stored webService [] none false
        (convertOciIpVersionsToOciIpFamilies versions.listenerBackendIpVersion) =
          .ok backendSets ∧
      getPorts .stored webService
        (convertOciIpVersionsToOciIpFamilies versions.listenerBackendIpVersion) = .ok ports ∧
      ReferenceClosed webService listeners backendSets ports := by
  refine ⟨_, _, _, _, rfl, rfl, rfl, rfl, rfl, ?_⟩
  exact (referenceClosed_iff_namesAgree .simple .stored .stored webService
    [some dualStackSubnet] [some dualStackSubnet] _ [] none false _ _ _ rfl rfl rfl rfl rfl).mpr
    (by decide)

/-- A dual-stack network load balancer for DNS: TCP and UDP on port 53. -/
def dualStackDns : Service where
  annotations := .ofPairs [(serviceAnnotationLoadBalancerType, "nlb")]
  ports := [⟨.tcp, 53, 30053⟩, ⟨.udp, 53, 30053⟩]
  ipFamilies := [.ipv4, .ipv6]
  ipFamilyPolicy := some .requireDualStack

/-- The IPv6 listener of a mixed port names a backend set that is never built. -/
theorem dualStackDns_not_referenceClosed :
    ∃ versions listeners backendSets ports,
      validateService dualStackDns = .ok () ∧
      getOciIpVersions [some dualStackSubnet] [some dualStackSubnet] dualStackDns =
        .ok versions ∧
      getListeners .simple dualStackDns none
        (convertOciIpVersionsToOciIpFamilies versions.listenerBackendIpVersion) =
          .ok listeners ∧
      getBackendSets .simple .stored dualStackDns [] none false
        (convertOciIpVersionsToOciIpFamilies versions.listenerBackendIpVersion) =
          .ok backendSets ∧
      getPorts .stored dualStackDns
        (convertOciIpVersionsToOciIpFamilies versions.listenerBackendIpVersion) = .ok ports ∧
      ¬ReferenceClosed dualStackDns listeners backendSets ports := by
  refine ⟨_, _, _, _, rfl, rfl, rfl, rfl, rfl, fun h => ?_⟩
  have hdefault := (h.default_mem "TCP_AND_UDP-53-IPv6" _ rfl).1
  exact absurd hdefault (by decide)

end

/-! ## Where the traffic of a listener goes -/

/-- A listener protocol serves a service port's protocol. -/
def Covers (protocol : String) (p : Protocol) : Prop :=
  protocol = p.str ∨ (protocol = protocolTypeMixed ∧ (p = .tcp ∨ p = .udp))

/-- The listener accepts the traffic of the service port, and its default backend set
and the ports stored for it lead to the node port of that service port. -/
structure DeliversTo (listeners : GoMap Listener) (backendSets : GoMap BackendSetDetails)
    (ports : GoMap PortSpec) (p : ServicePort) (l : Listener) : Prop where
  mem : ∃ name, listeners.lookup name = some l
  port_eq : l.port = p.port
  covers : Covers l.protocol p.protocol
  backends : ∃ bs, backendSets.lookup l.defaultBackendSetName = some bs ∧
    ∀ b ∈ bs.backends, b.port = p.nodePort
  portSpec : ∃ spec, ports.lookup l.defaultBackendSetName = some spec ∧
    spec.backendPort = p.nodePort

theorem IsFirst.eq {q q' : ServicePort} (h : IsFirst svc q) (h' : IsFirst svc q')
    (hport : q.port = q'.port) : q = q' := by
  unfold IsFirst at h h'
  rw [hport, h'] at h
  exact (Option.some.inj h).symm

section

variable {lib : Library RuleSet} {o o' : RangeOrder.{0}} {nodes : List Node}
  {sslCfg : Option SSLConfig} {isPreserveSource : Bool} {listeners : GoMap Listener}
  {backendSets : GoMap BackendSetDetails} {ports : GoMap PortSpec}

theorem lookup_portMap_entryName (h4 : .ipv4 ∈ getIpFamilies svc) {q : ServicePort}
    (hq : IsFirst svc q) : (getBackendSetNamePortMap svc).lookup (entryName svc q) = some q :=
  (lookup_getBackendSetNamePortMap _ _ _).mpr ⟨hq, .inl ⟨h4, rfl⟩⟩

theorem deliversTo_of_isFirst (h4 : .ipv4 ∈ getIpFamilies svc)
    (hls : getListenersNetworkLoadBalancer svc [.ipv4] = .ok listeners)
    (hbss : getBackendSets lib o svc nodes sslCfg isPreserveSource [.ipv4] = .ok backendSets)
    (hports : getPorts o' svc [.ipv4] = .ok ports) {p q : ServicePort} (hp : p ∈ svc.ports)
    (hq : IsFirst svc q) (hport : q.port = p.port) (hnode : q.nodePort = p.nodePort) :
    DeliversTo listeners backendSets ports p
      (networkListener svc (enablePpv2 svc) q (entryName svc q) .ipv4) := by
  obtain ⟨hproto, hlookup⟩ := lookup_getListenersNetworkLoadBalancer hls
  have hentry := lookup_portMap_entryName h4 hq
  have hent : Entered svc [.ipv4] (entryName svc q) :=
    (entered_entryName hq.mem).mpr ⟨h4, by simp⟩
  refine ⟨⟨_, (hlookup _ _).mpr ⟨q, hq, .inl ⟨by simp, rfl, rfl⟩⟩⟩, hport, ?_, ?_, ?_⟩
  · by_cases hrep : RepeatedPort svc q.port
    · refine .inr ⟨by simp [networkListener, entryProtocol, hrep], ?_⟩
      have := hproto p hp
      cases hpp : p.protocol <;> simp_all
    · obtain rfl : q = p := by
        by_contra hne
        exact hrep (hport ▸ repeatedPort_of_ne hq.mem hp hne hport)
      exact .inl (by simp [networkListener, entryProtocol, hrep])
  · obtain ⟨bs, hbs⟩ := GoMap.mem_iff_exists_lookup.mp ((mem_getBackendSets hbss).mpr hent)
    refine ⟨bs, hbs, fun b hb => ?_⟩
    obtain ⟨q', v, hq', hv, -, -, hbackends⟩ := lookup_getBackendSets hbss hbs
    obtain rfl : q = q' := Option.some.inj (hentry.symm.trans hq')
    rw [hbackends] at hb
    rw [(of_mem_getBackends hb).1, hnode]
  · obtain ⟨hc, hhc⟩ := getHealthChecker_of_getPorts hports hentry
    exact ⟨_, (lookup_getPorts hports).mpr ⟨q, hc, hentry, hent.2, hhc, rfl⟩, hnode⟩

/-- A listener that leads to the node port of a service port stores the node port of
the first service port with its number. -/
theorem nodePort_of_deliversTo (h4 : .ipv4 ∈ getIpFamilies svc)
    (hls : getListenersNetworkLoadBalancer svc [.ipv4] = .ok listeners)
    (hports : getPorts o' svc [.ipv4] = .ok ports) {p q : ServicePort} {l : Listener}
    (hq : IsFirst svc q) (hport : q.port = p.port)
    (h : DeliversTo listeners backendSets ports p l) : q.nodePort = p.nodePort := by
  obtain ⟨-, hlookup⟩ := lookup_getListenersNetworkLoadBalancer hls
  obtain ⟨name, hl⟩ := h.mem
  obtain ⟨q', hq', ⟨-, rfl, rfl⟩ | ⟨h6, -⟩⟩ := (hlookup name l).mp hl
  · obtain rfl : q = q' := hq.eq hq' (hport.trans h.port_eq.symm)
    obtain ⟨spec, hspec, hback⟩ := h.portSpec
    obtain ⟨q'', hc, hq'', -, -, rfl⟩ := (lookup_getPorts hports).mp hspec
    obtain rfl : q = q'' :=
      Option.some.inj ((lookup_portMap_entryName h4 hq).symm.trans hq'')
    exact hback
  · simp at h6

/-- On an IPv4 network load balancer the traffic of every service port reaches its own
node port exactly when service ports that share a number share the node port. -/
theorem deliversTo_iff_nodePorts_agree (lib : Library RuleSet) (o o' : RangeOrder.{0})
    (svc : Service) (nodes : List Node) (sslCfg : Option SSLConfig) (isPreserveSource : Bool)
    (listeners : GoMap Listener) (backendSets : GoMap BackendSetDetails) (ports : GoMap PortSpec)
    (hnlb : getLoadBalancerType svc = .nlb) (hfam : svc.ipFamilies = [.ipv4])
    (_hvalid : validateService svc = .ok ())
    (hls : getListeners lib svc sslCfg [.ipv4] = .ok listeners)
    (hbss : getBackendSets lib o svc nodes sslCfg isPreserveSource [.ipv4] = .ok backendSets)
    (hports : getPorts o' svc [.ipv4] = .ok ports) :
    (∀ p ∈ svc.ports, ∃ l, DeliversTo listeners backendSets ports p l) ↔
      ∀ p ∈ svc.ports, ∀ q ∈ svc.ports, p.port = q.port → p.nodePort = q.nodePort := by
  have h4 : .ipv4 ∈ getIpFamilies svc := by simp [getIpFamilies, hfam, IpVersion.ofFamily]
  rw [getListeners, hnlb] at hls
  constructor
  · intro hall p hp q hq hpq
    obtain ⟨r, hr, hrp, -⟩ := exists_isFirst hp
    obtain ⟨l, hl⟩ := hall p hp
    obtain ⟨l', hl'⟩ := hall q hq
    rw [← nodePort_of_deliversTo h4 hls hports hr hrp hl,
      nodePort_of_deliversTo h4 hls hports hr (hrp.trans hpq) hl']
  · intro hagree p hp
    obtain ⟨r, hr, hrp, -⟩ := exists_isFirst hp
    exact ⟨_, deliversTo_of_isFirst h4 hls hbss hports hp hr hrp (hagree r hr.mem p hp hrp)⟩

/-- DNS behind an IPv4 network load balancer, with one node port for both protocols. -/
def dnsService : Service where
  annotations := .ofPairs [(serviceAnnotationLoadBalancerType, "nlb")]
  ports := [⟨.tcp, 53, 30053⟩, ⟨.udp, 53, 30053⟩]

def workerNode : Node where
  name := "worker"
  providerID := "ocid1.instance.oc1..a"
  addresses := [⟨.internalIP, "10.0.0.2"⟩]

theorem dnsService_deliversTo :
    ∃ listeners backendSets ports,
      getListeners .simple dnsService none [.ipv4] = .ok listeners ∧
      getBackendSets .simple .stored dnsService [workerNode] none false [.ipv4] =
        .ok backendSets ∧
      getPorts .stored dnsService [.ipv4] = .ok ports ∧
      ∀ p ∈ dnsService.ports, ∃ l, DeliversTo listeners backendSets ports p l := by
  refine ⟨_, _, _, rfl, rfl, rfl, ?_⟩
  exact (deliversTo_iff_nodePorts_agree .simple .stored .stored dnsService [workerNode] none
    false _ _ _ (by decide) rfl rfl rfl rfl rfl).mpr (by decide)

/-- The same service with the node ports that the cluster allocates by default. -/
def dnsServiceTwoNodePorts : Service :=
  { dnsService with ports := [⟨.tcp, 53, 30053⟩, ⟨.udp, 53, 31053⟩] }

/-- The UDP traffic of the second service port is sent to the node port of the first. -/
theorem dnsServiceTwoNodePorts_not_deliversTo :
    ∃ listeners backendSets ports,
      getLoadBalancerType dnsServiceTwoNodePorts = .nlb ∧
      dnsServiceTwoNodePorts.ipFamilies = [.ipv4] ∧
      validateService dnsServiceTwoNodePorts = .ok () ∧
      getListeners .simple dnsServiceTwoNodePorts none [.ipv4] = .ok listeners ∧
      getBackendSets .simple .stored dnsServiceTwoNodePorts [workerNode] none false [.ipv4] =
        .ok backendSets ∧
      getPorts .stored dnsServiceTwoNodePorts [.ipv4] = .ok ports ∧
      ¬∀ p ∈ dnsServiceTwoNodePorts.ports, ∃ l, DeliversTo listeners backendSets ports p l := by
  obtain ⟨listeners, hls⟩ : ∃ listeners,
      getListeners .simple dnsServiceTwoNodePorts none [.ipv4] = .ok listeners := ⟨_, rfl⟩
  obtain ⟨ports, hports⟩ : ∃ ports,
      getPorts .stored dnsServiceTwoNodePorts [.ipv4] = .ok ports := ⟨_, rfl⟩
  refine ⟨listeners, _, ports, by decide, rfl, rfl, hls, rfl, hports, fun hall => ?_⟩
  obtain ⟨l, hl⟩ := hall ⟨.udp, 53, 31053⟩ (by decide)
  have hfirst : IsFirst dnsServiceTwoNodePorts ⟨.tcp, 53, 30053⟩ := rfl
  have hnode := nodePort_of_deliversTo (p := ⟨.udp, 53, 31053⟩) (by decide) hls hports hfirst
    rfl hl
  exact absurd hnode (by decide)

end

end OciCcm.LoadBalancer
