import OciCcm.LoadBalancer.Spec

/-! # What the naming loops build

The loops over the service ports enter every port number once, under a name
determined by the number and the protocols on it. This file identifies each loop
with the generic loop `enterStep` and reads off the entries of its result.
-/

namespace OciCcm.LoadBalancer

open Go Kubernetes List

variable {RuleSet : Type} {svc : Service} {p : ServicePort} {ports : GoMap PortSpec}
  {met : List Nat} {mixed : Finset Nat} {xs : List ServicePort} {q : ServicePort}
  {requireIPv4 requireIPv6 : Bool} {name : String}

/-! ## Names -/

/-- Several service ports have this number. -/
abbrev RepeatedPort (svc : Service) (port : Nat) : Prop := 1 < (portsMap svc port).length

/-- The protocol part of the name under which a service port is entered. -/
def entryProtocol (svc : Service) (p : ServicePort) : String :=
  if RepeatedPort svc p.port then protocolTypeMixed else p.protocol.str

/-- The name under which a service port is entered. -/
def entryName (svc : Service) (p : ServicePort) : String := dashed (entryProtocol svc p) p.port

theorem entryProtocol_mem (svc : Service) (p : ServicePort) :
    entryProtocol svc p ∈ ["TCP", "UDP", "SCTP", "TCP_AND_UDP"] := by
  unfold entryProtocol
  split
  · simp [protocolTypeMixed]
  · cases p.protocol <;> simp [Protocol.str]

theorem dash_notMem_str (p : Protocol) : '-' ∉ p.str.toList := by
  cases p <;> decide

theorem dash_notMem_entryProtocol (svc : Service) (p : ServicePort) :
    '-' ∉ (entryProtocol svc p).toList := by
  have hall : ∀ s ∈ ["TCP", "UDP", "SCTP", "TCP_AND_UDP"], '-' ∉ s.toList := by decide
  exact hall _ (entryProtocol_mem svc p)

theorem entryName_inj {p q : ServicePort} (h : entryName svc p = entryName svc q) :
    p.port = q.port :=
  (dashed_inj (dash_notMem_entryProtocol svc p) (dash_notMem_entryProtocol svc q) h).2

theorem toList_ipv6Name (name : String) :
    (ipv6Name name).toList = name.toList ++ ['-', 'I', 'P', 'v', '6'] := by
  simp [ipv6Name, String.toList_append]

theorem ipv6Name_inj {a b : String} (h : ipv6Name a = ipv6Name b) : a = b := by
  have h' := congrArg String.toList h
  rw [toList_ipv6Name, toList_ipv6Name] at h'
  exact String.toList_inj.mp (append_cancel_right h')

theorem contains_ipv6Name (name : String) : contains (ipv6Name name) "IPv6" = true := by
  have hsuffix : ['I', 'P', 'v', '6'] <:+ (ipv6Name name).toList := by
    rw [toList_ipv6Name]
    exact ⟨name.toList ++ ['-'], by simp⟩
  simpa [Go.contains] using hsuffix.isInfix

/-- No name without the suffix contains the letter `v`, so none looks like an IPv6 name. -/
theorem contains_entryName (svc : Service) (p : ServicePort) :
    contains (entryName svc p) "IPv6" = false := by
  have hall : ∀ s ∈ ["TCP", "UDP", "SCTP", "TCP_AND_UDP"], 'v' ∉ s.toList := by decide
  have hv : 'v' ∉ (entryName svc p).toList := by
    rw [entryName, toList_dashed, mem_append, mem_cons]
    rintro (h | h | h)
    · exact hall _ (entryProtocol_mem svc p) h
    · exact absurd h (by decide)
    · exact absurd (isDigit_of_mem_toString h) (by decide)
  simp only [Go.contains, decide_eq_false_iff_not]
  exact fun h => hv (h.subset (by decide))

theorem ipv6Name_ne_entryName (name : String) (p : ServicePort) :
    ipv6Name name ≠ entryName svc p := by
  intro h
  have hc := contains_entryName svc p
  rw [← h, contains_ipv6Name] at hc
  cases hc

theorem backendSetIpVersion_entryName (p : ServicePort) (vs : List IpVersion) :
    backendSetIpVersion (entryName svc p) vs = if .ipv4 ∈ vs then some .ipv4 else none := by
  simp [backendSetIpVersion, contains_entryName]

theorem backendSetIpVersion_ipv6Name (name : String) (vs : List IpVersion) :
    backendSetIpVersion (ipv6Name name) vs = if .ipv6 ∈ vs then some .ipv6 else none := by
  simp [backendSetIpVersion, contains_ipv6Name]

/-! ## Entering a port -/

/-- The set of mixed ports records the repeated numbers among those met. -/
def MixedMet (svc : Service) (mixed : Finset Nat) (met : List Nat) : Prop :=
  ∀ n, n ∈ mixed ↔ n ∈ met ∧ RepeatedPort svc n

theorem mixedOrPlain_met (h : MixedMet svc mixed met) (hmem : p.port ∈ met)
    (hrep : RepeatedPort svc p.port) :
    mixedOrPlain svc mixed p = none := by
  have hp : p.port ∈ mixed := (h p.port).mpr ⟨hmem, hrep⟩
  simp [mixedOrPlain, hrep, hp]

theorem mixedOrPlain_fresh (h : MixedMet svc mixed met) (hmem : p.port ∉ met) :
    ∃ mixed', mixedOrPlain svc mixed p = some (entryProtocol svc p, mixed') ∧
      MixedMet svc mixed' (p.port :: met) := by
  have hp : p.port ∉ mixed := fun hp => hmem ((h p.port).mp hp).1
  by_cases hrep : RepeatedPort svc p.port
  · refine ⟨insert p.port mixed, by simp [mixedOrPlain, entryProtocol, hrep, hp], fun n => ?_⟩
    rw [Finset.mem_insert, h n, mem_cons]
    by_cases hn : n = p.port
    · simp [hn, hrep]
    · simp [hn]
  · refine ⟨mixed, by simp [mixedOrPlain, entryProtocol, hrep], fun n => ?_⟩
    rw [h n, mem_cons]
    by_cases hn : n = p.port
    · simp [hn, hrep]
    · simp [hn]

theorem repeatedPort_of_mem {p y : ServicePort} (hpre : xs ++ [p] <+: svc.ports) (hy : y ∈ xs)
    (hyp : y.port = p.port) :
    RepeatedPort svc p.port := by
  obtain ⟨t, ht⟩ := hpre
  have hpos : 0 < (xs.filter (·.port = p.port)).length :=
    length_pos_of_mem (mem_filter.mpr ⟨hy, by simpa using hyp⟩)
  have hcount : (svc.ports.filter (·.port = p.port)).length =
      (xs.filter (·.port = p.port)).length + 1 + (t.filter (·.port = p.port)).length := by
    rw [← ht]
    simp [filter_append]
    omega
  simp only [RepeatedPort, portsMap, length_map]
  omega

theorem repeatedPort_of_ne {p q : ServicePort} (hp : p ∈ svc.ports) (hq : q ∈ svc.ports)
    (hne : p ≠ q) (hport : p.port = q.port) : RepeatedPort svc q.port := by
  have hp' : p ∈ svc.ports.filter (·.port = q.port) := mem_filter.mpr ⟨hp, by simpa⟩
  have hq' : q ∈ svc.ports.filter (·.port = q.port) := mem_filter.mpr ⟨hq, by simp⟩
  simp only [RepeatedPort, portsMap, length_map]
  by_contra hle
  obtain ⟨x, hx⟩ : ∃ x, svc.ports.filter (·.port = q.port) = [x] :=
    length_eq_one_iff.mp (le_antisymm (not_lt.mp hle) (length_pos_of_mem hp'))
  rw [hx, mem_singleton] at hp' hq'
  exact hne (hp'.trans hq'.symm)

/-- The service port under whose data a number is entered: the first one with that number. -/
def IsFirst (svc : Service) (q : ServicePort) : Prop :=
  svc.ports.find? (fun y => y.port = q.port) = some q

theorem IsFirst.mem (h : IsFirst svc q) : q ∈ svc.ports :=
  mem_of_find?_eq_some h

theorem exists_isFirst (hp : p ∈ svc.ports) :
    ∃ q, IsFirst svc q ∧ q.port = p.port ∧ entryName svc q = entryName svc p := by
  cases h : svc.ports.find? (fun y => y.port = p.port) with
  | none => exact absurd (List.find?_eq_none.mp h p hp) (by simp)
  | some q =>
    have hqp : q.port = p.port := by simpa using List.find?_some h
    refine ⟨q, by rw [IsFirst, hqp, h], hqp, ?_⟩
    by_cases heq : q = p
    · rw [heq]
    · have hrep := repeatedPort_of_ne (mem_of_find?_eq_some h) hp heq hqp
      simp [entryName, entryProtocol, hqp, hrep]

/-! ## The map of backend set names -/

/-- The entries of one number in `getBackendSetNamePortMap`. With both IP families
the entry of a repeated number takes the place of its IPv6 entry. -/
def portMapEntries (svc : Service) (requireIPv4 requireIPv6 : Bool) (q : ServicePort) :
    List (String × ServicePort) :=
  (if requireIPv4 then [(entryName svc q, q)] else []) ++
  (if requireIPv6 ∧ ¬(requireIPv4 ∧ RepeatedPort svc q.port) then
    [(ipv6Name (entryName svc q), q)] else [])

theorem mem_portMapEntries {e : String × ServicePort} :
    e ∈ portMapEntries svc requireIPv4 requireIPv6 q ↔
      e.2 = q ∧ ((requireIPv4 ∧ e.1 = entryName svc q) ∨
        (requireIPv6 ∧ ¬(requireIPv4 ∧ RepeatedPort svc q.port) ∧
          e.1 = ipv6Name (entryName svc q))) := by
  obtain ⟨name, p⟩ := e
  simp only [portMapEntries, mem_append]
  constructor
  · rintro (h | h) <;> split at h <;> simp_all
  · rintro ⟨rfl, ⟨h4, rfl⟩ | ⟨h6, hn, rfl⟩⟩
    · exact .inl (by simp [h4])
    · exact .inr (by rw [if_pos ⟨h6, hn⟩]; simp)

/-- What one iteration does, seen through the generic loop. -/
theorem backendSetNamePortMapStep_enter {m : GoMap ServicePort}
    (hmixed : (requireIPv4 ∨ requireIPv6) → MixedMet svc mixed met)
    (hrep : p.port ∈ met → RepeatedPort svc p.port) :
    let st := backendSetNamePortMapStep svc requireIPv4 requireIPv6 (m, mixed) p
    let st' := enterStep ServicePort.port (portMapEntries svc requireIPv4 requireIPv6) (m, met) p
    st.1 = st'.1 ∧ ((requireIPv4 ∨ requireIPv6) → MixedMet svc st.2 st'.2) := by
  by_cases hmem : p.port ∈ met
  · -- the number has been met: both loops leave their state alone
    have hskip : (requireIPv4 ∨ requireIPv6) → mixedOrPlain svc mixed p = none :=
      fun h => mixedOrPlain_met (hmixed h) hmem (hrep hmem)
    cases requireIPv4 <;> cases requireIPv6 <;>
      simp_all [backendSetNamePortMapStep, enterStep]
  · cases requireIPv4 with
    | true =>
      obtain ⟨mixed', hfst, hmixed'⟩ := mixedOrPlain_fresh (hmixed (.inl rfl)) hmem
      cases requireIPv6 with
      | false =>
        simp [backendSetNamePortMapStep, enterStep, hmem, hfst, portMapEntries, insertAll,
          hmixed', getBackendSetName, entryName]
      | true =>
        -- the IPv6 entry consults the set that the IPv4 entry has just updated
        by_cases hr : RepeatedPort svc p.port
        · have hsnd := mixedOrPlain_met hmixed' mem_cons_self hr
          simp [backendSetNamePortMapStep, enterStep, hmem, hfst, hsnd, portMapEntries,
            insertAll, hmixed', getBackendSetName, entryName, hr]
        · have hsame : mixedOrPlain svc mixed' p = some (entryProtocol svc p, mixed') := by
            simp [mixedOrPlain, entryProtocol, hr]
          simp [backendSetNamePortMapStep, enterStep, hmem, hfst, hsame, portMapEntries,
            insertAll, hmixed', getBackendSetName, entryName, hr]
    | false =>
      cases requireIPv6 with
      | false => simp [backendSetNamePortMapStep, enterStep, hmem, portMapEntries, insertAll]
      | true =>
        obtain ⟨mixed', hfst, hmixed'⟩ := mixedOrPlain_fresh (hmixed (.inr rfl)) hmem
        simp [backendSetNamePortMapStep, enterStep, hmem, hfst, portMapEntries, insertAll,
          hmixed', getBackendSetName, entryName]

theorem foldl_backendSetNamePortMapStep (requireIPv4 requireIPv6 : Bool) (hpre : xs <+: svc.ports) :
    let st := xs.foldl (backendSetNamePortMapStep svc requireIPv4 requireIPv6) (∅, ∅)
    let st' := xs.foldl (enterStep ServicePort.port
      (portMapEntries svc requireIPv4 requireIPv6)) (∅, [])
    st.1 = st'.1 ∧ ((requireIPv4 ∨ requireIPv6) → MixedMet svc st.2 st'.2) := by
  induction xs using List.reverseRecOn with
  | nil => simp [MixedMet]
  | append_singleton xs p ih =>
    have ih := ih ((prefix_append xs [p]).trans hpre)
    have hmet := mem_foldl_enterStep ServicePort.port
      (portMapEntries svc requireIPv4 requireIPv6) xs p.port
    simp only [foldl_append, foldl_cons, foldl_nil]
    generalize xs.foldl (backendSetNamePortMapStep svc requireIPv4 requireIPv6) (∅, ∅) = st
      at ih ⊢
    generalize xs.foldl (enterStep ServicePort.port
      (portMapEntries svc requireIPv4 requireIPv6)) (∅, []) = st' at ih hmet ⊢
    obtain ⟨m, mixed⟩ := st
    obtain ⟨m', met⟩ := st'
    obtain ⟨rfl, hmixed⟩ := ih
    refine backendSetNamePortMapStep_enter hmixed fun hmem => ?_
    obtain ⟨y, hy, hyp⟩ := hmet.mp hmem
    exact repeatedPort_of_mem hpre hy hyp

theorem port_eq_of_names {p q : ServicePort} {k : String}
    (hp : k = entryName svc p ∨ k = ipv6Name (entryName svc p))
    (hq : k = entryName svc q ∨ k = ipv6Name (entryName svc q)) : p.port = q.port := by
  rcases hp with rfl | rfl <;> rcases hq with h | h
  · exact entryName_inj h
  · exact absurd h.symm (ipv6Name_ne_entryName _ _)
  · exact absurd h (ipv6Name_ne_entryName _ _)
  · exact entryName_inj (ipv6Name_inj h)

/-- The entries of `getBackendSetNamePortMap`: the first service port of every
number, under its name for each required IP version, except that with both
versions a repeated number has no IPv6 entry. -/
theorem lookup_getBackendSetNamePortMap (svc : Service) (name : String) (q : ServicePort) :
    (getBackendSetNamePortMap svc).lookup name = some q ↔
      IsFirst svc q ∧
        ((.ipv4 ∈ getIpFamilies svc ∧ name = entryName svc q) ∨
          (.ipv6 ∈ getIpFamilies svc ∧
            ¬(.ipv4 ∈ getIpFamilies svc ∧ RepeatedPort svc q.port) ∧
            name = ipv6Name (entryName svc q))) := by
  have hfold := (foldl_backendSetNamePortMapStep ((getIpFamilies svc).contains .ipv4)
    ((getIpFamilies svc).contains .ipv6) (prefix_refl svc.ports)).1
  unfold getBackendSetNamePortMap getRequireIpVersions
  simp only
  rw [hfold, lookup_foldl_enterStep]
  · simp only [mem_portMapEntries, IsFirst, List.contains_iff_mem]
    constructor
    · rintro ⟨q', hfirst, rfl, h⟩
      exact ⟨hfirst, h⟩
    · rintro ⟨hfirst, h⟩
      exact ⟨q, hfirst, rfl, h⟩
  · intro x _
    unfold portMapEntries
    split <;> split <;> simp [(ipv6Name_ne_entryName _ _).symm]
  · intro x _ y _ k hx hy
    simp only [mem_map, Prod.exists, exists_and_right, exists_eq_right,
      mem_portMapEntries] at hx hy
    obtain ⟨-, hx⟩ := hx
    obtain ⟨-, hy⟩ := hy
    exact port_eq_of_names (hx.imp And.right fun h => h.2.2) (hy.imp And.right fun h => h.2.2)

/-! ## Backend sets and ports -/

variable {o : RangeOrder.{0}} {vs : List IpVersion}

theorem portsEntry_eq {k k' : String} {spec : PortSpec} :
    portsEntry svc vs (k, p) = .ok (some (k', spec)) ↔
      k' = k ∧ (backendSetIpVersion k vs).isSome ∧ ∃ hc, getHealthChecker svc = .ok hc ∧
        spec = { backendPort := p.nodePort, listenerPort := p.port,
                 healthCheckerPort := hc.port.getD 0 } := by
  cases hhc : getHealthChecker svc with
  | error e => simp [portsEntry, hhc, bind, Except.bind]
  | ok hc =>
    cases hv : backendSetIpVersion k vs with
    | none => simp [portsEntry, hhc, hv, bind, Except.bind]
    | some v => simp [portsEntry, hhc, hv, bind, Except.bind, eq_comm]

theorem lookup_getPorts (h : getPorts o svc vs = .ok ports) {spec : PortSpec} :
    ports.lookup name = some spec ↔
      ∃ q hc, (getBackendSetNamePortMap svc).lookup name = some q ∧
        (backendSetIpVersion name vs).isSome ∧ getHealthChecker svc = .ok hc ∧
        spec = { backendPort := q.nodePort, listenerPort := q.port,
                 healthCheckerPort := hc.port.getD 0 } := by
  rw [lookup_fill_range (fun k p k' spec' hf => (portsEntry_eq.mp hf).1) h]
  simp only [portsEntry_eq, true_and]
  exact ⟨fun ⟨q, hq, hv, hc, hhc⟩ => ⟨q, hc, hq, hv, hhc⟩,
    fun ⟨q, hc, hq, hv, hhc⟩ => ⟨q, hq, hv, hc, hhc⟩⟩

theorem getHealthChecker_of_getPorts (h : getPorts o svc vs = .ok ports)
    (hq : (getBackendSetNamePortMap svc).lookup name = some q) :
    ∃ hc, getHealthChecker svc = .ok hc := by
  obtain ⟨r, hr⟩ := fill_ok_iterations h (name, q) (RangeOrder.mem_range.mpr hq)
  obtain ⟨hc, hhc, -⟩ := bind_ok hr
  exact ⟨hc, hhc⟩

theorem mem_getPorts (h : getPorts o svc vs = .ok ports) :
    name ∈ ports ↔
      name ∈ getBackendSetNamePortMap svc ∧ (backendSetIpVersion name vs).isSome := by
  simp only [GoMap.mem_iff_exists_lookup, lookup_getPorts h]
  constructor
  · rintro ⟨spec, q, hc, hq, hv, -⟩
    exact ⟨⟨q, hq⟩, hv⟩
  · rintro ⟨⟨q, hq⟩, hv⟩
    obtain ⟨hc, hhc⟩ := getHealthChecker_of_getPorts h hq
    exact ⟨_, q, hc, hq, hv, hhc, rfl⟩

theorem getPorts_congr (h : getPorts o svc vs = .ok ports) (o' : RangeOrder.{0}) :
    ∃ ports', getPorts o' svc vs = .ok ports' ∧ ∀ name, ports'.lookup name = ports.lookup name := by
  have hsame : ∀ e, portsEntry svc vs e =
      (portsEntry svc vs e).map (Option.map (Prod.map id id)) := by
    intro e
    rw [Prod.map_id, Option.map_id, Except.map_id, id]
  obtain ⟨ports', hports', hlookup⟩ : ∃ ports', getPorts o' svc vs = .ok ports' ∧
      ∀ name, ports'.lookup name = (ports.lookup name).map id :=
    fill_range_congr (fun k p k' spec hf => (portsEntry_eq.mp hf).1) hsame h
  refine ⟨ports', hports', fun name => ?_⟩
  rw [hlookup, Option.map_id_apply]

section BackendSets

variable {lib : Library RuleSet} {nodes : List Node} {sslCfg : Option SSLConfig}
  {isPreserveSource : Bool} {bss : GoMap BackendSetDetails}

/-- What the backends of an IP version have in common. -/
theorem of_mem_getBackends {nodePort : Nat} {v : IpVersion} {b : Backend}
    (hb : b ∈ if v = .ipv6 then (getBackends lib nodes nodePort).2
      else (getBackends lib nodes nodePort).1) :
    b.port = nodePort ∧ (lib.isIPv6String b.ipAddress = true ↔ v = .ipv6) ∧
      b.name = none ∧ b.drain = none ∧ b.offline = none := by
  have hfamily : ∀ {s}, lib.isIPv4String s → ¬lib.isIPv6String s := by
    simp only [Library.isIPv4String, Library.isIPv6String, beq_iff_eq]
    rintro s h h'
    cases h.symm.trans h'
  split at hb
  · next hv =>
      obtain ⟨node, -, hb⟩ := mem_flatMap.mp hb
      unfold backendsOfNode at hb
      grind
  · next hv =>
      obtain ⟨node, -, hb⟩ := mem_flatMap.mp hb
      unfold backendsOfNode at hb
      grind

theorem backendSetEntry_ok {policy : String} {k : String} {p : ServicePort}
    {r : Option (String × BackendSetDetails)}
    (h : backendSetEntry lib svc nodes sslCfg isPreserveSource vs policy (k, p) = .ok r) :
    ∃ ssl hc, backendSetSSL lib svc sslCfg p.port = .ok ssl ∧ getHealthChecker svc = .ok hc ∧
      r = (backendSetIpVersion k vs).map fun v =>
      (k, { name := k, policy := some policy, healthChecker := some hc,
            isPreserveSource := some isPreserveSource, sslConfiguration := ssl,
            ipVersion := some v,
            backends := if v = .ipv6 then (getBackends lib nodes p.nodePort).2
              else (getBackends lib nodes p.nodePort).1 }) := by
  obtain ⟨ssl, hssl, h⟩ := bind_ok h
  obtain ⟨hc, hhc, h⟩ := bind_ok h
  exact ⟨ssl, hc, hssl, hhc, (Except.ok.inj h).symm⟩

section

variable (h : getBackendSets lib o svc nodes sslCfg isPreserveSource vs = .ok bss)
  {bs : BackendSetDetails} {name : String}

include h

/-- The order of the loop does not matter for the backend sets, and whether sources are preserved
is only noted in them. -/
theorem getBackendSets_congr (o' : RangeOrder.{0}) (isPreserveSource' : Bool) :
    ∃ bss', getBackendSets lib o' svc nodes sslCfg isPreserveSource' vs = .ok bss' ∧
      ∀ name, bss'.lookup name =
        (bss.lookup name).map ({ · with isPreserveSource := some isPreserveSource' }) := by
  obtain ⟨policy, hpolicy, h⟩ := bind_ok h
  rw [getBackendSets, hpolicy]
  refine fill_range_congr ?_ ?_ h
  · intro k p k' bs hentry
    obtain ⟨ssl, hc, -, -, hr⟩ := backendSetEntry_ok hentry
    obtain ⟨v, -, heq⟩ := Option.map_eq_some_iff.mp hr.symm
    exact (congrArg Prod.fst heq).symm
  · rintro ⟨k, p⟩
    simp only [backendSetEntry]
    cases backendSetSSL lib svc sslCfg p.port with
    | error err => rfl
    | ok ssl =>
      cases getHealthChecker svc with
      | error err => rfl
      | ok hc =>
        cases backendSetIpVersion k vs with
        | none => rfl
        | some v => rfl

theorem eq_of_lookup_getBackendSets (hbs : bss.lookup name = some bs) :
    ∃ policy ssl hc q v, backendSetSSL lib svc sslCfg q.port = .ok ssl ∧
      getHealthChecker svc = .ok hc ∧ (getBackendSetNamePortMap svc).lookup name = some q ∧
      backendSetIpVersion name vs = some v ∧
      bs = { name := name, policy := some policy, healthChecker := some hc,
             isPreserveSource := some isPreserveSource, sslConfiguration := ssl,
             ipVersion := some v,
             backends := if v = .ipv6 then (getBackends lib nodes q.nodePort).2
               else (getBackends lib nodes q.nodePort).1 } := by
  obtain ⟨policy, -, h⟩ := bind_ok h
  obtain ⟨⟨k, q⟩, hq, hf⟩ := exists_of_lookup_fill h hbs
  obtain ⟨ssl, hc, hssl, hhc, hr⟩ := backendSetEntry_ok hf
  obtain ⟨v, hv, heq⟩ := Option.map_eq_some_iff.mp hr.symm
  obtain ⟨rfl, rfl⟩ := Prod.mk.inj heq
  exact ⟨policy, ssl, hc, q, v, hssl, hhc, RangeOrder.mem_range.mp hq, hv, rfl⟩

theorem lookup_getBackendSets_congr {o' : RangeOrder.{0}} {bss' : GoMap BackendSetDetails}
    (h' : getBackendSets lib o' svc nodes sslCfg isPreserveSource vs = .ok bss') (name : String) :
    bss'.lookup name = bss.lookup name := by
  obtain ⟨bss₁, h₁, hlookup⟩ := getBackendSets_congr h o' isPreserveSource
  obtain rfl := Except.ok.inj (h'.symm.trans h₁)
  rw [hlookup]
  cases hbs : bss.lookup name with
  | none => rfl
  | some bs =>
    obtain ⟨policy, ssl, hc, q, v, -, -, -, -, rfl⟩ := eq_of_lookup_getBackendSets h hbs
    rfl

/-- A backend set belongs to an entry of the name map, has the IP version of its
name and holds the backends on the node port of the entry. -/
theorem lookup_getBackendSets (hbs : bss.lookup name = some bs) :
    ∃ q v, (getBackendSetNamePortMap svc).lookup name = some q ∧
      backendSetIpVersion name vs = some v ∧ bs.name = name ∧ bs.ipVersion = some v ∧
      bs.backends = if v = .ipv6 then (getBackends lib nodes q.nodePort).2
        else (getBackends lib nodes q.nodePort).1 := by
  obtain ⟨policy, ssl, hc, q, v, -, -, hq, hv, rfl⟩ := eq_of_lookup_getBackendSets h hbs
  exact ⟨q, v, hq, hv, rfl, rfl, rfl⟩

theorem mem_getBackendSets :
    name ∈ bss ↔
      name ∈ getBackendSetNamePortMap svc ∧ (backendSetIpVersion name vs).isSome := by
  constructor
  · intro hmem
    obtain ⟨bs, hbs⟩ := GoMap.mem_iff_exists_lookup.mp hmem
    obtain ⟨q, v, hq, hv, -⟩ := lookup_getBackendSets h hbs
    exact ⟨GoMap.mem_of_lookup hq, by simp [hv]⟩
  · rintro ⟨hmem, hv⟩
    obtain ⟨q, hq⟩ := GoMap.mem_iff_exists_lookup.mp hmem
    obtain ⟨v, hv⟩ := Option.isSome_iff_exists.mp hv
    obtain ⟨policy, -, h⟩ := bind_ok h
    have hrange : (name, q) ∈ o.range 0 (getBackendSetNamePortMap svc) :=
      RangeOrder.mem_range.mpr hq
    obtain ⟨r, hr⟩ := fill_ok_iterations h (name, q) hrange
    obtain ⟨ssl, hc, -, -, rfl⟩ := backendSetEntry_ok hr
    rw [hv, Option.map_some] at hr
    exact mem_fill h hrange hr

end

end BackendSets

end OciCcm.LoadBalancer
