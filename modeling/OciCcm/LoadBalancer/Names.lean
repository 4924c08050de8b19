import OciCcm.LoadBalancer.Actions
import OciCcm.LoadBalancer.ChangeFacts

/-! # Sanitized names

What the functions that compare and sort rely on about the names in a
specification: backend sets keep their names when these are sanitized, and no
two listeners of a load balancer share a sanitized name.
-/

namespace OciCcm.LoadBalancer

open Go Kubernetes List

variable {RuleSet : Type}

theorem join_pair (p q : String) : join [p, q] "-" = p ++ "-" ++ q := by
  apply String.toList_inj.mp
  simp [join, String.toList_append]

theorem getSanitizedName_dashed {p : String} (hp : '-' ∉ p.toList) (n : Nat) :
    getSanitizedName (dashed p n) = dashed (if equalFold p "HTTP" then "TCP" else p) n := by
  unfold getSanitizedName
  rw [split_dashed hp]
  by_cases hhttp : equalFold p "HTTP"
  · simp [hhttp, join_pair, dashed]
  · simp [hhttp]

theorem split_ipv6Name {p : String} (hp : '-' ∉ p.toList) (n : Nat) :
    split (ipv6Name (dashed p n)) '-' = [p, toString n, "IPv6"] := by
  rw [split, toList_ipv6Name, toList_dashed, append_assoc, cons_append,
    splitOn_append_cons_self_of_not_mem hp,
    splitOn_append_cons_self_of_not_mem (dash_notMem_toString n)]
  simp only [map_cons, String.ofList_toList]
  rfl

theorem join_ipv6 (p : String) (n : Nat) :
    join [p, toString n, "IPv6"] "-" = ipv6Name (dashed p n) := by
  apply String.toList_inj.mp
  simp [join, String.toList_append, ipv6Name, dashed]

theorem equalFold_entryProtocol (svc : Service) (p : ServicePort) :
    equalFold (entryProtocol svc p) "HTTP" = false := by
  have hall : ∀ s ∈ ["TCP", "UDP", "SCTP", "TCP_AND_UDP"], equalFold s "HTTP" = false := by decide
  exact hall _ (entryProtocol_mem svc p)

@[simp] theorem getSanitizedName_entryName (svc : Service) (p : ServicePort) :
    getSanitizedName (entryName svc p) = entryName svc p := by
  rw [entryName, getSanitizedName_dashed (dash_notMem_entryProtocol svc p),
    equalFold_entryProtocol]
  rfl

@[simp] theorem getSanitizedName_ipv6Name (svc : Service) (p : ServicePort) :
    getSanitizedName (ipv6Name (entryName svc p)) = ipv6Name (entryName svc p) := by
  unfold getSanitizedName
  rw [entryName, split_ipv6Name (dash_notMem_entryProtocol svc p)]
  simp only [headD_cons, equalFold_entryProtocol, Bool.false_eq_true, if_false,
    length_cons, length_nil, gt_iff_lt]
  rw [if_pos (by decide), if_pos (by simp)]
  exact join_ipv6 _ _

/-- What the comparisons rely on. -/
structure WellNamed (spec : LBSpec RuleSet) : Prop where
  backendSet_name : ∀ {name bs}, spec.backendSets.lookup name = some bs → bs.name = name
  sanitized_backendSet : ∀ {name}, name ∈ spec.backendSets → getSanitizedName name = name
  sanitized_inj : SanitizedInj spec.listeners
  ruleSetNames : ∀ {name l}, spec.listeners.lookup name = some l → ∀ r ∈ l.namedRuleSets,
    ∃ ruleSets, spec.ruleSets = some ruleSets ∧ r ∈ ruleSets

theorem listenerSpelling_inj {svc : Service} {p q : Protocol}
    (h : (if equalFold (listenerSpelling svc p) "HTTP" then "TCP" else listenerSpelling svc p) =
      if equalFold (listenerSpelling svc q) "HTTP" then "TCP" else listenerSpelling svc q) :
    listenerSpelling svc p = listenerSpelling svc q := by
  unfold listenerSpelling at h ⊢
  cases hann : svc.annotations.lookup serviceAnnotationLoadBalancerBEProtocol with
  | none =>
    simp only [hann] at h ⊢
    have hhttp : ∀ p : Protocol, equalFold p.str "HTTP" = false := by
      intro p
      cases p <;> decide
    simpa only [hhttp, Bool.false_eq_true, if_false] using h
  | some a => rfl

theorem mem_ruleSetNames {lib : Library RuleSet} {svc : Service} {r : String}
    (h : r ∈ (ruleSetNames lib svc).getD []) :
    ∃ ruleSets, (getRuleSets lib svc).1 = some ruleSets ∧ r ∈ ruleSets := by
  unfold ruleSetNames at h
  cases hget : (getRuleSets lib svc).1 with
  | none =>
    rw [hget] at h
    cases h
  | some ruleSets =>
    rw [hget] at h
    exact ⟨ruleSets, rfl, AList.mem_keys.mp ((mem_insertionSort _).mp h)⟩

variable {lib : Library RuleSet} {o o' : RangeOrder.{0}} {svc : Service} {nodes : List Node}
  {subnets : List String} {sslConfig : Option SSLConfig} {versions : IpVersions}
  {spec : LBSpec RuleSet}

section

variable (h : newLBSpec lib o o' svc nodes subnets sslConfig versions = .ok spec)

include h

theorem newLBSpec_backendSet_name {name : String} {bs : BackendSetDetails}
    (hbs : spec.backendSets.lookup name = some bs) : bs.name = name := by
  obtain ⟨q, v, -, -, hname, -⟩ := lookup_getBackendSets (newLBSpec_ok h).backendSets hbs
  exact hname

theorem newLBSpec_sanitized_backendSet {name : String} (hmem : name ∈ spec.backendSets) :
    getSanitizedName name = name := by
  obtain ⟨bs, hbs⟩ := GoMap.mem_iff_exists_lookup.mp hmem
  obtain ⟨q, v, hq, -⟩ := lookup_getBackendSets (newLBSpec_ok h).backendSets hbs
  obtain ⟨-, ⟨-, rfl⟩ | ⟨-, -, rfl⟩⟩ := (lookup_getBackendSetNamePortMap svc name q).mp hq
  · exact getSanitizedName_entryName svc q
  · exact getSanitizedName_ipv6Name svc q

/-- The specifications of load balancers are well named. -/
theorem newLBSpec_wellNamed (htype : spec.type = .lb) : WellNamed spec := by
  have hbuilt := newLBSpec_ok h
  have hlisteners := hbuilt.listeners
  rw [getListeners, ← hbuilt.type, htype] at hlisteners
  refine ⟨newLBSpec_backendSet_name h, newLBSpec_sanitized_backendSet h, ?_, ?_⟩
  · intro name hmem name' hmem' heq
    obtain ⟨l, hl⟩ := GoMap.mem_iff_exists_lookup.mp hmem
    obtain ⟨l', hl'⟩ := GoMap.mem_iff_exists_lookup.mp hmem'
    obtain ⟨p, hp, -, rfl, -⟩ := lookup_getListenersOciLoadBalancer hlisteners hl
    obtain ⟨p', hp', -, rfl, -⟩ := lookup_getListenersOciLoadBalancer hlisteners hl'
    have hdash := (mem_getListenersOciLoadBalancer hlisteners hp).1
    have hdash' := (mem_getListenersOciLoadBalancer hlisteners hp').1
    rw [getSanitizedName_dashed hdash, getSanitizedName_dashed hdash'] at heq
    have hsanitized : ∀ {s : String}, '-' ∉ s.toList →
        '-' ∉ (if equalFold s "HTTP" then "TCP" else s).toList := by
      intro s hs
      split
      · decide
      · exact hs
    obtain ⟨hspell, hport⟩ := dashed_inj (hsanitized hdash) (hsanitized hdash') heq
    rw [listenerSpelling_inj hspell, hport]
  · intro name l hl r hr
    obtain ⟨p, -, -, -, -, hrs⟩ := lookup_getListenersOciLoadBalancer hlisteners hl
    rw [Listener.namedRuleSets, hrs] at hr
    obtain ⟨ruleSets, heq, hmem⟩ := mem_ruleSetNames hr
    have hruleSets := hbuilt.ruleSets
    refine ⟨ruleSets, ?_, hmem⟩
    unfold checkedRuleSets at hruleSets
    split at hruleSets
    · next rs hget =>
        rw [hget] at heq
        rw [← Except.ok.inj hruleSets]
        exact heq
    · cases hruleSets

/-- So are those of network load balancers, whose listeners have no rule sets. -/
theorem newLBSpec_wellNamed_of_nlb (htype : spec.type = .nlb) : WellNamed spec := by
  have hbuilt := newLBSpec_ok h
  have hlisteners := hbuilt.listeners
  rw [getListeners, ← hbuilt.type, htype] at hlisteners
  refine ⟨newLBSpec_backendSet_name h, newLBSpec_sanitized_backendSet h, ?_, ?_⟩
  · have hname : ∀ name ∈ spec.listeners, getSanitizedName name = name := by
      intro name hmem
      obtain ⟨l, hl⟩ := GoMap.mem_iff_exists_lookup.mp hmem
      obtain ⟨q, -, ⟨-, rfl, -⟩ | ⟨-, rfl, -⟩⟩ :=
        ((lookup_getListenersNetworkLoadBalancer hlisteners).2 name l).mp hl
      · exact getSanitizedName_entryName svc q
      · exact getSanitizedName_ipv6Name svc q
    intro name hmem name' hmem' heq
    rwa [hname name hmem, hname name' hmem'] at heq
  · intro name l hl r hr
    obtain ⟨q, -, ⟨-, -, rfl⟩ | ⟨-, -, rfl⟩⟩ :=
      ((lookup_getListenersNetworkLoadBalancer hlisteners).2 name l).mp hl
    · cases hr
    · cases hr

theorem wellNamed_of_newLBSpec : WellNamed spec := by
  cases htype : spec.type with
  | lb => exact newLBSpec_wellNamed h htype
  | nlb => exact newLBSpec_wellNamed_of_nlb h htype

end

end OciCcm.LoadBalancer
