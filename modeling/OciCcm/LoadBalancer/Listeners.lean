import OciCcm.LoadBalancer.PortMap

/-! # What the listener loops build

A network load balancer gets one listener for each port number and chosen IP
version, a load balancer one listener for each service port. The names of the
latter carry the protocol as the backend-protocol annotation spells it.
-/

namespace OciCcm.LoadBalancer

open Go Kubernetes List

variable {RuleSet : Type} {svc : Service} {vs : List IpVersion}

/-! ## Listeners of a network load balancer -/

/-- The listener entered for a number under one IP version. -/
def networkListener (svc : Service) (ppv2 : Option Bool) (q : ServicePort)
    (name : String) (ipVersion : IpVersion) : Listener :=
  { name, defaultBackendSetName := name, protocol := entryProtocol svc q, port := q.port,
    isPpv2Enabled := ppv2, ipVersion := some ipVersion }

/-- The entries of one number among the listeners. -/
def networkListenerEntries (svc : Service) (requireIPv4 requireIPv6 : Bool)
    (ppv2 : Option Bool) (q : ServicePort) : List (String × Listener) :=
  (if requireIPv4 then
    [(entryName svc q, networkListener svc ppv2 q (entryName svc q) .ipv4)] else []) ++
  (if requireIPv6 then
    [(ipv6Name (entryName svc q),
      networkListener svc ppv2 q (ipv6Name (entryName svc q)) .ipv6)] else [])

variable {requireIPv4 requireIPv6 : Bool} {ppv2 : Option Bool} {l : Listener} {p : ServicePort}
  {st : GoMap Listener × Finset Nat}

theorem mem_networkListenerEntries {q : ServicePort} {k : String} :
    (k, l) ∈ networkListenerEntries svc requireIPv4 requireIPv6 ppv2 q ↔
      (requireIPv4 ∧ k = entryName svc q ∧ l = networkListener svc ppv2 q k .ipv4) ∨
      (requireIPv6 ∧ k = ipv6Name (entryName svc q) ∧
        l = networkListener svc ppv2 q k .ipv6) := by
  simp only [networkListenerEntries, mem_append]
  constructor
  · rintro (h | h) <;> split at h <;> simp_all
  · rintro (⟨h4, rfl, rfl⟩ | ⟨h6, rfl, rfl⟩)
    · exact .inl (by simp [h4])
    · exact .inr (by simp [h6])

theorem networkListenersStep_enter {m : GoMap Listener} {mixed : Finset Nat} {met : List Nat}
    (hmixed : MixedMet svc mixed met) (hrep : p.port ∈ met → RepeatedPort svc p.port)
    (h : networkListenersStep svc requireIPv4 requireIPv6 ppv2 (m, mixed) p = .ok st) :
    let st' := enterStep ServicePort.port
      (networkListenerEntries svc requireIPv4 requireIPv6 ppv2) (m, met) p
    p.protocol ≠ .sctp ∧ st.1 = st'.1 ∧ MixedMet svc st.2 st'.2 := by
  unfold networkListenersStep at h
  split at h
  · cases h
  · next hproto =>
      refine ⟨hproto, ?_⟩
      by_cases hmem : p.port ∈ met
      · rw [mixedOrPlain_met hmixed hmem (hrep hmem)] at h
        cases h
        simpa [enterStep, hmem] using hmixed
      · obtain ⟨mixed', hfst, hmixed'⟩ := mixedOrPlain_fresh hmixed hmem
        rw [hfst] at h
        cases h
        cases requireIPv4 <;> cases requireIPv6 <;>
          simp [enterStep, hmem, networkListenerEntries, networkListener, insertAll, hmixed',
            getListenerName, getBackendSetName, entryName]

/-- The loop over a part of the service ports agrees with the generic loop. -/
theorem foldlM_networkListenersStep {xs : List ServicePort} (hpre : xs <+: svc.ports)
    (h : xs.foldlM (networkListenersStep svc requireIPv4 requireIPv6 ppv2) (∅, ∅) =
      .ok st) :
    let st' := xs.foldl (enterStep ServicePort.port
      (networkListenerEntries svc requireIPv4 requireIPv6 ppv2)) (∅, [])
    (∀ p ∈ xs, p.protocol ≠ .sctp) ∧ st.1 = st'.1 ∧ MixedMet svc st.2 st'.2 := by
  induction xs using List.reverseRecOn generalizing st with
  | nil =>
    cases h
    simp [MixedMet]
  | append_singleton xs p ih =>
    rw [foldlM_append] at h
    obtain ⟨st₁, h₁, h⟩ := bind_ok h
    obtain ⟨st₂, h₂, h⟩ := foldlM_cons_ok h
    cases h
    obtain ⟨hproto, hfst, hmixed⟩ := ih ((prefix_append xs [p]).trans hpre) h₁
    have hmet := mem_foldl_enterStep ServicePort.port
      (networkListenerEntries svc requireIPv4 requireIPv6 ppv2) xs p.port
    simp only [foldl_append, foldl_cons, foldl_nil]
    generalize xs.foldl (enterStep ServicePort.port
      (networkListenerEntries svc requireIPv4 requireIPv6 ppv2)) (∅, []) = st'
      at hfst hmixed hmet ⊢
    obtain ⟨m, mixed⟩ := st₁
    obtain ⟨m', met⟩ := st'
    obtain rfl : m = m' := hfst
    have hrep : p.port ∈ met → RepeatedPort svc p.port := fun hmem => by
      obtain ⟨y, hy, hyp⟩ := hmet.mp hmem
      exact repeatedPort_of_mem hpre hy hyp
    obtain ⟨hp, hstep⟩ := networkListenersStep_enter hmixed hrep h₂
    refine ⟨?_, hstep⟩
    simpa [or_imp, forall_and] using ⟨hproto, hp⟩

/-- The listeners of a network load balancer: one for the first service port of
every number and each chosen IP version, whose default backend set has its name. -/
theorem lookup_getListenersNetworkLoadBalancer {ls : GoMap Listener}
    (h : getListenersNetworkLoadBalancer svc vs = .ok ls) :
    (∀ p ∈ svc.ports, p.protocol ≠ .sctp) ∧
    ∀ name l, ls.lookup name = some l ↔
      ∃ q, IsFirst svc q ∧
        ((.ipv4 ∈ vs ∧ name = entryName svc q ∧
            l = networkListener svc (enablePpv2 svc) q name .ipv4) ∨
          (.ipv6 ∈ vs ∧ name = ipv6Name (entryName svc q) ∧
            l = networkListener svc (enablePpv2 svc) q name .ipv6)) := by
  unfold getListenersNetworkLoadBalancer at h
  obtain ⟨st, hst, h⟩ := bind_ok h
  cases h
  obtain ⟨hproto, hfold, -⟩ := foldlM_networkListenersStep (prefix_refl svc.ports) hst
  refine ⟨hproto, fun name l => ?_⟩
  rw [hfold, lookup_foldl_enterStep]
  · simp only [mem_networkListenerEntries, List.contains_iff_mem]
    rfl
  · intro x _
    unfold networkListenerEntries
    split <;> split <;> simp [(ipv6Name_ne_entryName _ _).symm]
  · intro x _ y _ k hx hy
    simp only [mem_map, Prod.exists, exists_and_right, exists_eq_right,
      mem_networkListenerEntries] at hx hy
    obtain ⟨_, hx⟩ := hx
    obtain ⟨_, hy⟩ := hy
    exact port_eq_of_names (hx.imp (fun h => h.2.1) fun h => h.2.1)
      (hy.imp (fun h => h.2.1) fun h => h.2.1)

/-! ## Listeners of a load balancer -/

/-- The protocol part of a listener's name: the annotation's spelling, with GRPC in
upper case, or the protocol of the service port. -/
def listenerSpelling (svc : Service) (protocol : Protocol) : String :=
  match svc.annotations.lookup serviceAnnotationLoadBalancerBEProtocol with
  | none => protocol.str
  | some p =>
    if p = "" then defaultLoadBalancerBEProtocol
    else if equalFold p "GRPC" then protocolGrpc
    else p

theorem notMem_of_equalFold {s t : String} {c : Char} (h : equalFold s t)
    (hc : foldChar c ∉ t.toList.map foldChar) : c ∉ s.toList := by
  intro hmem
  rw [equalFold, beq_iff_eq] at h
  exact hc (h ▸ mem_map_of_mem hmem)

/-- The protocols that the loop over the service ports accepts. -/
theorem listenerProtocol_ok {protocol : String} (h : listenerProtocol svc p = .ok protocol) :
    '-' ∉ protocol.toList ∧
      (listenerSpelling svc p.protocol =
        if equalFold protocol "GRPC" then protocolGrpc else protocol) := by
  unfold listenerProtocol at h
  unfold listenerSpelling
  cases hann : svc.annotations.lookup serviceAnnotationLoadBalancerBEProtocol with
  | none =>
    rw [hann] at h
    cases h
    refine ⟨dash_notMem_str p.protocol, ?_⟩
    have hgrpc : equalFold p.protocol.str "GRPC" = false := by
      cases p.protocol <;> decide
    simp [hgrpc]
  | some a =>
    rw [hann] at h
    simp only at h
    by_cases ha : a = ""
    · subst ha
      have htcp : equalFold defaultLoadBalancerBEProtocol "TCP" = true := by decide
      have hgrpc : equalFold defaultLoadBalancerBEProtocol "GRPC" = false := by decide
      obtain rfl : defaultLoadBalancerBEProtocol = protocol := by simpa [htcp] using h
      exact ⟨by decide, by simp [hgrpc]⟩
    · simp only [ha, if_false] at h ⊢
      split at h
      · next hfold =>
          cases h
          refine ⟨?_, rfl⟩
          rcases hfold with hf | hf | hf <;> exact notMem_of_equalFold hf (by decide)
      · cases h

theorem normalizeGrpc_ok {protocol protocol' : String}
    {ssl ssl' : Option SslConfigurationDetails}
    (h : normalizeGrpc protocol ssl = .ok (protocol', ssl')) :
    protocol' = if equalFold protocol "GRPC" then protocolGrpc else protocol := by
  unfold normalizeGrpc at h
  split at h
  · next hf =>
      split at h
      · cases h
      · simp only [Except.ok.injEq, Prod.mk.injEq] at h
        simp [hf, h.1.symm]
  · next hf =>
      simp only [Except.ok.injEq, Prod.mk.injEq] at h
      simp [hf, h.1.symm]

theorem ociListener_ok {lib : Library RuleSet} {sslCfg : Option SSLConfig} {idle proxy : Option Int}
    {rs : Option (List String)} (h : ociListener lib svc sslCfg idle proxy rs p = .ok l) :
    '-' ∉ (listenerSpelling svc p.protocol).toList ∧
      l.name = dashed (listenerSpelling svc p.protocol) p.port ∧
      l.defaultBackendSetName = dashed p.protocol.str p.port ∧
      l.ruleSetNames = rs := by
  obtain ⟨protocol, hprotocol, h⟩ := bind_ok h
  obtain ⟨ssl, -, h⟩ := bind_ok h
  obtain ⟨⟨protocol', ssl'⟩, hgrpc, h⟩ := bind_ok h
  cases h
  obtain ⟨hdash, hspell⟩ := listenerProtocol_ok hprotocol
  have hprotocol' := (normalizeGrpc_ok hgrpc).trans hspell.symm
  refine ⟨?_, by simp [getListenerName, hprotocol'], rfl, rfl⟩
  rw [hspell]
  split
  · decide
  · exact hdash

variable {lib : Library RuleSet} {sslCfg : Option SSLConfig} {ls : GoMap Listener}

theorem lookup_getListenersOciLoadBalancer (h : getListenersOciLoadBalancer lib svc sslCfg = .ok ls)
    {name : String} (hl : ls.lookup name = some l) :
    ∃ p ∈ svc.ports, l.name = name ∧ name = dashed (listenerSpelling svc p.protocol) p.port ∧
      l.defaultBackendSetName = dashed p.protocol.str p.port ∧
      l.ruleSetNames = ruleSetNames lib svc := by
  obtain ⟨idle, -, h⟩ := bind_ok h
  obtain ⟨proxy, -, h⟩ := bind_ok h
  obtain ⟨p, hp, hf⟩ := exists_of_lookup_fill h hl
  obtain ⟨l', hoci, heq⟩ := map_ok hf
  obtain ⟨rfl, rfl⟩ := Prod.mk.inj (Option.some.inj heq)
  obtain ⟨-, hname, hdefault, hrs⟩ := ociListener_ok hoci
  exact ⟨p, hp, rfl, hname, hdefault, hrs⟩

theorem unset_of_lookup_getListenersOciLoadBalancer
    (h : getListenersOciLoadBalancer lib svc sslCfg = .ok ls) {name : String}
    (hl : ls.lookup name = some l) :
    l.hostnameNames = none ∧ l.pathRouteSetName = none ∧ l.routingPolicyName = none ∧
      l.isPpv2Enabled = none := by
  obtain ⟨idle, -, h⟩ := bind_ok h
  obtain ⟨proxy, -, h⟩ := bind_ok h
  obtain ⟨p, -, hf⟩ := exists_of_lookup_fill h hl
  obtain ⟨l', hoci, heq⟩ := map_ok hf
  obtain ⟨-, rfl⟩ := Prod.mk.inj (Option.some.inj heq)
  obtain ⟨protocol, -, hoci⟩ := bind_ok hoci
  obtain ⟨ssl, -, hoci⟩ := bind_ok hoci
  obtain ⟨⟨protocol', ssl'⟩, -, hoci⟩ := bind_ok hoci
  cases hoci
  exact ⟨rfl, rfl, rfl, rfl⟩

theorem mem_getListenersOciLoadBalancer (h : getListenersOciLoadBalancer lib svc sslCfg = .ok ls)
    (hp : p ∈ svc.ports) :
    '-' ∉ (listenerSpelling svc p.protocol).toList ∧
      dashed (listenerSpelling svc p.protocol) p.port ∈ ls := by
  obtain ⟨idle, -, h⟩ := bind_ok h
  obtain ⟨proxy, -, h⟩ := bind_ok h
  obtain ⟨r, hr⟩ := fill_ok_iterations h p hp
  obtain ⟨l, hoci, rfl⟩ := map_ok hr
  obtain ⟨hdash, hname, -⟩ := ociListener_ok hoci
  exact ⟨hdash, hname ▸ mem_fill h hp hr⟩

end OciCcm.LoadBalancer
