import OciCcm.LoadBalancer.Comparison
import OciCcm.LoadBalancer.Dangling

/-! # Updating a load balancer or creating it afresh

A load balancer that is brought from one specification to another should have
the settings of one that is created from the latter. The backend sets always do.
A listener does unless all that is different about it are settings that it had
and has no more: where the specification leaves out the cipher suite or the
connection configuration, the comparison does not look at what the listener has,
and so the old proxy protocol or cipher suite stays.
-/

namespace OciCcm.LoadBalancer

open Go Kubernetes

variable {RuleSet : Type} {actual desired : Option SslConfigurationDetails}

/-! ## Settings -/

/-- The settings of a listener. One that is absent is off or the default. -/
@[ext] structure ListenerSettings where
  protocol : String
  port : Nat
  defaultBackendSetName : String
  certificateName : String
  cipherSuiteName : String
  backendTcpProxyProtocolVersion : Int
deriving DecidableEq

def Listener.settings (l : Listener) : ListenerSettings where
  protocol := l.protocol
  port := l.port
  defaultBackendSetName := l.defaultBackendSetName
  certificateName := (l.sslConfiguration.bind (·.certificateName)).getD ""
  cipherSuiteName := (l.sslConfiguration.bind (·.cipherSuiteName)).getD ""
  backendTcpProxyProtocolVersion :=
    (l.connectionConfiguration.bind (·.backendTcpProxyProtocolVersion)).getD 0

structure HealthCheckSettings where
  port : Nat
  urlPath : String
  protocol : String
  retries : Int
  intervalInMillis : Int
  timeoutInMillis : Int
deriving DecidableEq

def HealthChecker.settings (hc : HealthChecker) : HealthCheckSettings where
  port := hc.port.getD 0
  urlPath := hc.urlPath.getD ""
  protocol := hc.protocol
  retries := hc.retries.getD 0
  intervalInMillis := hc.intervalInMillis.getD 0
  timeoutInMillis := hc.timeoutInMillis.getD 0

/-- The settings of a backend set, with the addresses and ports of its backends. -/
structure BackendSetSettings where
  policy : String
  certificateName : String
  isPreserveSource : Bool
  healthCheck : Option HealthCheckSettings
  backends : Finset (String × Nat)
deriving DecidableEq

def BackendSetDetails.settings (bs : BackendSetDetails) : BackendSetSettings where
  policy := bs.policy.getD ""
  certificateName := (bs.sslConfiguration.bind (·.certificateName)).getD ""
  isPreserveSource := bs.isPreserveSource.getD false
  healthCheck := bs.healthChecker.map (·.settings)
  backends := (bs.backends.map fun b => (b.ipAddress, b.port)).toFinset

/-- The settings of all listeners. A listener keeps its name when its protocol changes from TCP
to HTTP or back, so listeners are known by their sanitized names. -/
def listenerSettings (listeners : GoMap Listener) : Finset (String × ListenerSettings) :=
  (listeners.toPairs.map fun e => (getSanitizedName e.1, e.2.settings)).toFinset

def backendSetSettings (backendSets : GoMap BackendSetDetails) :
    Finset (String × BackendSetSettings) :=
  (backendSets.toPairs.map fun e => (e.1, e.2.settings)).toFinset

/-- Both load balancers have the same listeners and backend sets, with the same settings. -/
abbrev SameSettings (lb lb' : LoadBalancerState RuleSet) : Prop :=
  listenerSettings lb.listeners = listenerSettings lb'.listeners ∧
    backendSetSettings lb.backendSets = backendSetSettings lb'.backendSets

theorem mem_listenerSettings {listeners : GoMap Listener} {k : String} {x : ListenerSettings} :
    (k, x) ∈ listenerSettings listeners ↔
      ∃ name l, listeners.lookup name = some l ∧ getSanitizedName name = k ∧ l.settings = x := by
  simp [listenerSettings, GoMap.mem_toPairs]

theorem mem_backendSetSettings {backendSets : GoMap BackendSetDetails} {k : String}
    {x : BackendSetSettings} : (k, x) ∈ backendSetSettings backendSets ↔
      ∃ bs, backendSets.lookup k = some bs ∧ bs.settings = x := by
  simp [backendSetSettings, GoMap.mem_toPairs]

/-! ## Settings that are not compared -/

/-- The proxy protocol is switched off together with all other settings of the connection, or
the cipher suite is left out. -/
def SwitchesOff (actual desired : Listener) : Prop :=
  (desired.connectionConfiguration = none ∧
    actual.settings.backendTcpProxyProtocolVersion ≠ 0) ∨
  (desired.settings.cipherSuiteName = "" ∧ actual.settings.cipherSuiteName ≠ "")

theorem SslUnchanged.certificateName_eq (h : SslUnchanged actual desired) :
    (actual.bind (·.certificateName)).getD "" = (desired.bind (·.certificateName)).getD "" := by
  cases actual with
  | none =>
    cases desired with
    | none => rfl
    | some desired => exact h.elim
  | some actual =>
    cases desired with
    | none => exact h.elim
    | some desired => exact h.1

theorem SslUnchanged.cipherSuiteName_eq (h : SslUnchanged actual desired)
    (hset : (desired.bind (·.cipherSuiteName)).getD "" ≠ "") :
    (actual.bind (·.cipherSuiteName)).getD "" = (desired.bind (·.cipherSuiteName)).getD "" := by
  cases desired with
  | none => exact absurd rfl hset
  | some desired =>
    cases actual with
    | none => exact h.elim
    | some actual => exact (h.2.2.2 hset).1

theorem ConnectionUnchanged.proxyProtocol_eq {actual : Option ConnectionConfiguration}
    {desired : ConnectionConfiguration} (h : ConnectionUnchanged actual (some desired)) :
    (actual.bind (·.backendTcpProxyProtocolVersion)).getD 0 =
      desired.backendTcpProxyProtocolVersion.getD 0 := by
  cases actual with
  | none => exact h.elim
  | some actual => exact h.2

/-- Listeners without reported differences have the same settings, but for those that were
switched off. -/
theorem ListenerUnchanged.settings_eq_iff {actual desired : Listener}
    {ruleSets : Option (GoMap RuleSet)} (h : ListenerUnchanged actual desired ruleSets) :
    actual.settings = desired.settings ↔ ¬SwitchesOff actual desired := by
  constructor
  · rintro heq (⟨hnone, hproxy⟩ | ⟨hunset, hcipher⟩)
    · rw [heq] at hproxy
      simp [Listener.settings, hnone] at hproxy
    · rw [heq] at hcipher
      exact hcipher hunset
  · intro hoff
    have hcipher : actual.settings.cipherSuiteName = desired.settings.cipherSuiteName := by
      by_cases hunset : desired.settings.cipherSuiteName = ""
      · rw [hunset]
        by_contra hset
        exact hoff (.inr ⟨hunset, hset⟩)
      · exact h.sslConfiguration.cipherSuiteName_eq hunset
    have hproxy : actual.settings.backendTcpProxyProtocolVersion =
        desired.settings.backendTcpProxyProtocolVersion := by
      have hconnection := h.connectionConfiguration
      cases hnone : desired.connectionConfiguration with
      | none =>
        simp only [Listener.settings, hnone]
        by_contra hset
        exact hoff (.inl ⟨hnone, hset⟩)
      | some connection =>
        rw [hnone] at hconnection
        simp only [Listener.settings, hnone]
        exact hconnection.proxyProtocol_eq
    have hcertificate : actual.settings.certificateName = desired.settings.certificateName :=
      h.sslConfiguration.certificateName_eq
    exact ListenerSettings.ext h.protocol h.port h.defaultBackendSetName hcertificate hcipher hproxy

theorem mem_backends_iff {backends : List Backend} {b : Backend} :
    (b.ipAddress, b.port) ∈ backends.map (fun b => (b.ipAddress, b.port)) ↔
      backendKey b ∈ backends.map backendKey := by
  simp only [List.mem_map, Prod.mk.injEq]
  constructor
  · rintro ⟨b', hb', haddress, hport⟩
    exact ⟨b', hb', by rw [backendKey, backendKey, haddress, hport]⟩
  · rintro ⟨b', hb', hkey⟩
    exact ⟨b', hb', backendKey_inj hkey⟩

theorem BackendSetUnchanged.settings_eq {actual desired : BackendSetDetails} {hc : HealthChecker}
    (hdesired : desired.healthChecker = some hc) (h : BackendSetUnchanged actual desired) :
    actual.settings = desired.settings := by
  have hhealth := h.healthChecker
  rw [hdesired, getHealthCheckerChanges_eq_nil] at hhealth
  obtain ⟨hc', hactual, hsame⟩ := hhealth
  have hcheck : hc'.settings = hc.settings := by
    simp only [HealthChecker.settings, hsame.port, hsame.urlPath, hsame.protocol, hsame.retries,
      hsame.intervalInMillis, hsame.timeoutInMillis]
  have hbackends : (actual.backends.map fun b => (b.ipAddress, b.port)).toFinset =
      (desired.backends.map fun b => (b.ipAddress, b.port)).toFinset := by
    ext ⟨ipAddress, port⟩
    have hkey := h.backends (backendKey { port, ipAddress, targetId := none, weight := none })
    rw [← mem_backends_iff, ← mem_backends_iff] at hkey
    simpa only [List.mem_toFinset] using hkey
  simp only [BackendSetDetails.settings, hdesired, hactual, Option.map_some, hcheck, hbackends,
    h.policy, h.isPreserveSource, h.sslConfiguration.certificateName_eq]

/-! ## The load balancer after the update -/

section Update

variable {o : ChangeOrders} {s₀ s₁ : LBSpec RuleSet}

/-- The load balancer of the first specification after all actions towards the second. -/
def updated (o : ChangeOrders) (s₀ s₁ : LBSpec RuleSet) : LoadBalancerState RuleSet :=
  (LoadBalancerState.ofSpec s₀).applyAll (mainActions o s₀ s₁)

theorem lookup_listeners_updated (h₁ : WellNamed s₁) {name : String} {l : Listener} :
    (updated o s₀ s₁).listeners.lookup name = some l ↔
      (∃ name₁ l₀ l₁, s₀.listeners.lookup name = some l₀ ∧ s₁.listeners.lookup name₁ = some l₁ ∧
        getSanitizedName name₁ = getSanitizedName name ∧
        l = if hasListenerChanged l₀ l₁ s₁.ruleSets then l₁ else l₀) ∨
      ((∀ name₀ ∈ s₀.listeners, getSanitizedName name₀ ≠ getSanitizedName name) ∧
        s₁.listeners.lookup name = some l) := by
  rw [updated, listeners_applyAll]
  refine lookup_editAll_of_isEdit h₁.sanitized_inj fun e => ?_
  simp only [mem_filterMap_edit Action.listenerEdit_eq_some, listener_mem_mainActions]
  exact edit_getListenerChanges_iff h₁.sanitized_inj

theorem lookup_backendSets_updated (h₀ : WellNamed s₀) {name : String} {bs : BackendSetDetails} :
    (updated o s₀ s₁).backendSets.lookup name = some bs ↔
      (∃ bs₀ bs₁, s₀.backendSets.lookup name = some bs₀ ∧ s₁.backendSets.lookup name = some bs₁ ∧
        bs = if hasBackendSetChanged bs₀ bs₁ then bs₁ else bs₀) ∨
      (name ∉ s₀.backendSets ∧ s₁.backendSets.lookup name = some bs) := by
  have hedits : ∀ e, e ∈ (mainActions o s₀ s₁).filterMap Action.backendSetEdit ↔
      IsEdit id hasBackendSetChanged s₀.backendSets s₁.backendSets e := by
    intro e
    simp only [mem_filterMap_edit Action.backendSetEdit_eq_some, backendSet_mem_mainActions]
    exact edit_getBackendSetChanges_iff h₀.backendSet_name
  have hinj : NormInj id s₁.backendSets := fun _ _ _ _ h => h
  rw [updated, backendSets_applyAll]
  refine (lookup_editAll_of_isEdit hinj hedits).trans (or_congr ?_ ?_)
  · constructor
    · rintro ⟨name', bs₀, bs₁, hbs₀, hbs₁, rfl, hbs⟩
      exact ⟨bs₀, bs₁, hbs₀, hbs₁, hbs⟩
    · rintro ⟨bs₀, bs₁, hbs₀, hbs₁, hbs⟩
      exact ⟨name, bs₀, bs₁, hbs₀, hbs₁, rfl, hbs⟩
  · rw [forall_id_ne_iff]

theorem backendSetSettings_updated (h₀ : WellNamed s₀)
    (hhealth : ∀ name bs, s₁.backendSets.lookup name = some bs → ∃ hc, bs.healthChecker = some hc) :
    backendSetSettings (updated o s₀ s₁).backendSets = backendSetSettings s₁.backendSets := by
  have hkept : ∀ {name bs₀ bs₁}, s₁.backendSets.lookup name = some bs₁ →
      (if hasBackendSetChanged bs₀ bs₁ then bs₁ else bs₀).settings = bs₁.settings := by
    intro name bs₀ bs₁ hbs₁
    obtain ⟨hc, hhc⟩ := hhealth name bs₁ hbs₁
    split
    · rfl
    · next hchanged => exact (not_hasBackendSetChanged_iff.mp hchanged).settings_eq hhc
  ext ⟨name, x⟩
  simp only [mem_backendSetSettings, lookup_backendSets_updated h₀]
  constructor
  · rintro ⟨bs, ⟨bs₀, bs₁, -, hbs₁, rfl⟩ | ⟨-, hbs₁⟩, rfl⟩
    · exact ⟨bs₁, hbs₁, (hkept hbs₁).symm⟩
    · exact ⟨bs, hbs₁, rfl⟩
  · rintro ⟨bs₁, hbs₁, rfl⟩
    cases hbs₀ : s₀.backendSets.lookup name with
    | none => exact ⟨bs₁, .inr ⟨AList.lookup_eq_none.mp hbs₀, hbs₁⟩, rfl⟩
    | some bs₀ => exact ⟨_, .inl ⟨bs₀, bs₁, rfl, hbs₁, rfl⟩, hkept hbs₁⟩

/-- The specifications have no listener that differs only in settings which are switched off. -/
def NoSilentSwitchOff (s₀ s₁ : LBSpec RuleSet) : Prop :=
  ∀ name₀ name₁ l₀ l₁, s₀.listeners.lookup name₀ = some l₀ → s₁.listeners.lookup name₁ = some l₁ →
    getSanitizedName name₁ = getSanitizedName name₀ → ListenerUnchanged l₀ l₁ s₁.ruleSets →
    ¬SwitchesOff l₀ l₁

/-- The settings of the listeners are those of the second specification if no setting is switched
off silently. -/
theorem listenerSettings_updated_iff (h₁ : WellNamed s₁) :
    listenerSettings (updated o s₀ s₁).listeners = listenerSettings s₁.listeners ↔
      NoSilentSwitchOff s₀ s₁ := by
  constructor
  · intro heq name₀ name₁ l₀ l₁ hl₀ hl₁ hname hsame
    rw [← hsame.settings_eq_iff]
    have hchanged := not_hasListenerChanged_iff.mpr hsame
    have hmem : (getSanitizedName name₀, l₀.settings) ∈
        listenerSettings (updated o s₀ s₁).listeners := by
      refine mem_listenerSettings.mpr ⟨name₀, l₀, (lookup_listeners_updated h₁).mpr (.inl ?_),
        rfl, rfl⟩
      exact ⟨name₁, l₀, l₁, hl₀, hl₁, hname, (if_neg hchanged).symm⟩
    rw [heq, mem_listenerSettings] at hmem
    obtain ⟨name, l, hl, hsanitized, hsettings⟩ := hmem
    obtain rfl := h₁.sanitized_inj name (GoMap.mem_of_lookup hl) name₁ (GoMap.mem_of_lookup hl₁)
      (hsanitized.trans hname.symm)
    obtain rfl := Option.some.inj (hl.symm.trans hl₁)
    exact hsettings.symm
  · intro hoff
    have hkept : ∀ {name₀ name₁ l₀ l₁}, s₀.listeners.lookup name₀ = some l₀ →
        s₁.listeners.lookup name₁ = some l₁ → getSanitizedName name₁ = getSanitizedName name₀ →
        (if hasListenerChanged l₀ l₁ s₁.ruleSets then l₁ else l₀).settings = l₁.settings := by
      intro name₀ name₁ l₀ l₁ hl₀ hl₁ hname
      split
      · rfl
      · next hchanged =>
        have hsame := not_hasListenerChanged_iff.mp hchanged
        exact hsame.settings_eq_iff.mpr (hoff name₀ name₁ l₀ l₁ hl₀ hl₁ hname hsame)
    ext ⟨k, x⟩
    simp only [mem_listenerSettings, lookup_listeners_updated h₁]
    constructor
    · rintro ⟨name, l, ⟨name₁, l₀, l₁, hl₀, hl₁, hname, rfl⟩ | ⟨-, hl₁⟩, rfl, rfl⟩
      · exact ⟨name₁, l₁, hl₁, hname, (hkept hl₀ hl₁ hname).symm⟩
      · exact ⟨name, l, hl₁, rfl, rfl⟩
    · rintro ⟨name₁, l₁, hl₁, rfl, rfl⟩
      by_cases hold : ∃ name₀ ∈ s₀.listeners, getSanitizedName name₀ = getSanitizedName name₁
      · obtain ⟨name₀, hmem, hname⟩ := hold
        obtain ⟨l₀, hl₀⟩ := GoMap.mem_iff_exists_lookup.mp hmem
        exact ⟨name₀, _, .inl ⟨name₁, l₀, l₁, hl₀, hl₁, hname.symm, rfl⟩, hname,
          hkept hl₀ hl₁ hname.symm⟩
      · exact ⟨name₁, l₁, .inr ⟨fun name₀ hmem heq => hold ⟨name₀, hmem, heq⟩, hl₁⟩, rfl, rfl⟩

end Update

/-! ## Services -/

theorem newLBSpec_healthChecker {lib : Library RuleSet} {o o' : RangeOrder.{0}} {svc : Service}
    {nodes : List Node} {subnets : List String} {sslConfig : Option SSLConfig}
    {versions : IpVersions} {spec : LBSpec RuleSet}
    (h : newLBSpec lib o o' svc nodes subnets sslConfig versions = .ok spec) {name : String}
    {bs : BackendSetDetails} (hbs : spec.backendSets.lookup name = some bs) :
    ∃ hc, bs.healthChecker = some hc := by
  obtain ⟨policy, ssl, hc, q, v, -, -, -, -, rfl⟩ :=
    eq_of_lookup_getBackendSets (newLBSpec_ok h).backendSets hbs
  exact ⟨hc, rfl⟩

/-- From one version of a service to the next: the settings are those of a load balancer that is
created afresh exactly if no listener differs only in settings that are switched off. -/
theorem sameSettings_updated_iff (lib : Library RuleSet) (o : ChangeOrders)
    {o₀ o₀' o₁ o₁' : RangeOrder.{0}} {svc₀ svc₁ : Service} {nodes₀ nodes₁ : List Node}
    {subnets₀ subnets₁ : List String} {sslConfig₀ sslConfig₁ : Option SSLConfig}
    {versions₀ versions₁ : IpVersions} {s₀ s₁ : LBSpec RuleSet}
    (htype₀ : getLoadBalancerType svc₀ = .lb) (htype₁ : getLoadBalancerType svc₁ = .lb)
    (h₀ : newLBSpec lib o₀ o₀' svc₀ nodes₀ subnets₀ sslConfig₀ versions₀ = .ok s₀)
    (h₁ : newLBSpec lib o₁ o₁' svc₁ nodes₁ subnets₁ sslConfig₁ versions₁ = .ok s₁) :
    SameSettings (updated o s₀ s₁) (.ofSpec s₁) ↔ NoSilentSwitchOff s₀ s₁ := by
  have hwell₀ := newLBSpec_wellNamed h₀ ((newLBSpec_ok h₀).type.trans htype₀)
  have hwell₁ := newLBSpec_wellNamed h₁ ((newLBSpec_ok h₁).type.trans htype₁)
  rw [← listenerSettings_updated_iff (o := o) hwell₁]
  constructor
  · exact And.left
  · exact fun hlisteners => ⟨hlisteners,
      backendSetSettings_updated hwell₀ fun _ _ => newLBSpec_healthChecker h₁⟩

/-- A service with the proxy protocol. -/
def proxyService : Service where
  annotations := .ofPairs [(serviceAnnotationLoadBalancerConnectionProxyProtocolVersion, "2")]
  ports := [⟨.tcp, 80, 30080⟩]

/-- The service with HTTP backends instead. -/
def httpService : Service where
  annotations := .ofPairs [(serviceAnnotationLoadBalancerBEProtocol, "HTTP")]
  ports := [⟨.tcp, 80, 30080⟩]

/-- When the protocol of the listener changes as well, the listener is replaced. -/
theorem proxyService_toHttp_noSilentSwitchOff :
    ∃ s₀ s₁,
      newLBSpec .simple .stored .stored proxyService [] [] none ipv4Only = .ok s₀ ∧
      newLBSpec .simple .stored .stored httpService [] [] none ipv4Only = .ok s₁ ∧
      NoSilentSwitchOff s₀ s₁ := by
  have h₀ : newLBSpec .simple .stored .stored proxyService [] [] none ipv4Only = .ok _ := rfl
  have h₁ : newLBSpec .simple .stored .stored httpService [] [] none ipv4Only = .ok _ := rfl
  refine ⟨_, _, h₀, h₁, ?_⟩
  exact (sameSettings_updated_iff .simple {} rfl rfl h₀ h₁).mp (by decide +kernel)

/-- When the annotation is removed, the listener keeps the proxy protocol. -/
theorem proxyService_keeps_proxyProtocol :
    ∃ s₀ s₁,
      newLBSpec .simple .stored .stored proxyService [] [] none ipv4Only = .ok s₀ ∧
      newLBSpec .simple .stored .stored webService [] [] none ipv4Only = .ok s₁ ∧
      ¬SameSettings (updated {} s₀ s₁) (.ofSpec s₁) :=
  ⟨_, _, rfl, rfl, by decide +kernel⟩

end OciCcm.LoadBalancer
