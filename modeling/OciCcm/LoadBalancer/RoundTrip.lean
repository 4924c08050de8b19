import OciCcm.LoadBalancer.Comparison
import OciCcm.LoadBalancer.Conversion
import OciCcm.LoadBalancer.Dangling

/-! # Comparing a load balancer with the specification it was created from

A load balancer that has just been created is read back and compared with its
specification. Nothing should be reported, or every reconciliation would update
it again. All that is compared comes back from the load balancer service. The
network load balancer service has no health checks in plain text, but they are
asked for by an annotation that is read for both products.
-/

namespace OciCcm.LoadBalancer

open Go Kubernetes Option GoMap

variable {RuleSet : Type}

/-! ## Comparing entries of the same name -/

section SameNames

variable {o : RangeOrder.{0}} {ruleSets : Option (GoMap RuleSet)}

theorem getListenerChanges_eq_nil {actual desired : GoMap Listener}
    {read : String → Listener → Listener}
    (hactual : ∀ name, actual.lookup name = (desired.lookup name).map (read name))
    (hinj : SanitizedInj desired)
    (hsame : ∀ name l, desired.lookup name = some l → ListenerUnchanged (read name l) l ruleSets) :
    getListenerChanges o actual desired ruleSets = [] := by
  have hdesired : ∀ {name l}, actual.lookup name = some l →
      ∃ l', desired.lookup name = some l' ∧ read name l' = l := by
    intro name l hl
    rw [hactual] at hl
    exact map_eq_some_iff.mp hl
  refine List.eq_nil_iff_forall_not_mem.mpr fun a ha => ?_
  rcases (mem_getListenerChanges hinj).mp ha with ⟨name, l, hl, hno, -⟩ |
    ⟨name, name', l, l', hl, hl', heq, hchanged, -⟩ | ⟨name, l, hno, hl, -⟩
  · obtain ⟨l', hl', -⟩ := hdesired hl
    exact hno name (mem_of_lookup hl') rfl
  · obtain ⟨l'', hl'', rfl⟩ := hdesired hl
    obtain rfl := hinj name' (mem_of_lookup hl') name (mem_of_lookup hl'') heq
    obtain rfl := Option.some.inj (hl'.symm.trans hl'')
    exact not_hasListenerChanged_iff.mpr (hsame name' l' hl') hchanged
  · have hl' : actual.lookup name = some (read name l) := by rw [hactual, hl, map_some]
    exact hno name (mem_of_lookup hl') rfl

theorem getBackendSetChanges_eq_nil_iff {actual desired : GoMap BackendSetDetails}
    {read : String → BackendSetDetails → BackendSetDetails}
    (hactual : ∀ name, actual.lookup name = (desired.lookup name).map (read name)) :
    getBackendSetChanges o actual desired = [] ↔ ∀ name bs, desired.lookup name = some bs →
      BackendSetUnchanged (read name bs) bs := by
  have hread : ∀ {name bs}, desired.lookup name = some bs →
      actual.lookup name = some (read name bs) := by
    intro name bs hbs
    rw [hactual, hbs, map_some]
  constructor
  · intro hnil name bs hbs
    rw [← not_hasBackendSetChanged_iff]
    intro hchanged
    have hmem : BackendSetAction.ofUpdate name (read name bs) bs ∈
        getBackendSetChanges o actual desired :=
      mem_getBackendSetChanges.mpr (.inr (.inl ⟨name, _, bs, hread hbs, hbs, hchanged, rfl⟩))
    rw [hnil] at hmem
    cases hmem
  · intro hsame
    refine List.eq_nil_iff_forall_not_mem.mpr fun a ha => ?_
    rcases mem_getBackendSetChanges.mp ha with ⟨name, bs, hbs, hno, -⟩ |
      ⟨name, bs, bs', hbs, hbs', hchanged, -⟩ | ⟨name, bs, hno, hbs, -⟩
    · rw [hactual, map_eq_some_iff] at hbs
      obtain ⟨bs', hbs', -⟩ := hbs
      exact hno (mem_of_lookup hbs')
    · obtain rfl := Option.some.inj (hbs.symm.trans (hread hbs'))
      exact not_hasBackendSetChanged_iff.mpr (hsame name bs' hbs') hchanged
    · exact hno (mem_of_lookup (hread hbs))

end SameNames

/-! ## The entries of a specification -/

section Spec

variable {lib : Library RuleSet} {o o' : RangeOrder.{0}} {svc : Service} {nodes : List Node}
  {subnets : List String} {sslConfig : Option SSLConfig} {versions : IpVersions}
  {spec : LBSpec RuleSet}

theorem getHealthChecker_ok {hc : HealthChecker} (h : getHealthChecker svc = .ok hc) :
    hc.isForcePlainText =
      some (svc.annotations.lookup serviceAnnotationLoadBalancerTLSBackendSetSecret).isSome ∧
    hc.responseBodyRegex = none := by
  obtain ⟨retries, -, h⟩ := bind_ok h
  obtain ⟨interval, -, h⟩ := bind_ok h
  obtain ⟨timeout, -, h⟩ := bind_ok h
  cases h
  exact ⟨rfl, rfl⟩

theorem getPreserveSource_of_lb (htype : getLoadBalancerType svc = .lb) :
    getPreserveSource svc = .ok false := by
  unfold getPreserveSource
  rw [if_pos]
  intro hnlb
  have hnlb' : getLoadBalancerType svc = .nlb := by
    rw [getLoadBalancerType, hnlb]
    rfl
  cases htype.symm.trans hnlb'

theorem backendSetSSL_of_nlb (htype : getLoadBalancerType svc = .nlb) (port : Nat) :
    backendSetSSL lib svc sslConfig port = .ok none := by
  unfold backendSetSSL
  split
  · rw [if_neg]
    rintro ⟨-, hlb⟩
    cases htype.symm.trans hlb
  · rfl

theorem backends_map_unchanged (copy : Backend → Backend)
    (hcopy : ∀ b, (copy b).ipAddress = b.ipAddress ∧ (copy b).port = b.port)
    (backends : List Backend) : backendPortChange (backends.map copy) backends = [] ∧
      ∀ key, key ∈ (backends.map copy).map backendKey ↔ key ∈ backends.map backendKey := by
  constructor
  · cases backends with
    | nil => rfl
    | cons b backends => exact fieldChange_eq_nil.mpr (hcopy b).2
  · intro key
    have hkey : backendKey ∘ copy = backendKey := by
      funext b
      simp only [Function.comp_apply, backendKey, hcopy]
    rw [List.map_map, hkey]

section

variable (h : newLBSpec lib o o' svc nodes subnets sslConfig versions = .ok spec)

include h

theorem listenerUnchanged_readListener {name : String} {l : Listener}
    (hl : spec.listeners.lookup name = some l) :
    ListenerUnchanged (readListener spec.type name l) l spec.ruleSets := by
  obtain ⟨-, -, -, hlisteners, -, -, -, -, htype, -⟩ := newLBSpec_ok h
  cases hlb : spec.type with
  | lb =>
    rw [getListeners, ← htype, hlb] at hlisteners
    refine ⟨rfl, rfl, rfl, ?_, fun _ => rfl, .refl _, .refl _⟩
    rw [(unset_of_lookup_getListenersOciLoadBalancer hlisteners hl).2.2.2]
    rfl
  | nlb =>
    rw [getListeners, ← htype, hlb] at hlisteners
    obtain ⟨q, -, ⟨-, -, rfl⟩ | ⟨-, -, rfl⟩⟩ :=
      ((lookup_getListenersNetworkLoadBalancer hlisteners).2 name l).mp hl
    · exact ⟨rfl, rfl, rfl, rfl, fun _ => rfl, trivial, trivial⟩
    · exact ⟨rfl, rfl, rfl, rfl, fun _ => rfl, trivial, trivial⟩

/-- Every compared field of a backend set comes back, but for the health checks in plain text of
network load balancers. -/
theorem backendSetUnchanged_readBackendSet_iff {name : String} {bs : BackendSetDetails}
    (hbs : spec.backendSets.lookup name = some bs) :
    BackendSetUnchanged (readBackendSet spec.type name bs) bs ↔ (spec.type = .nlb →
      svc.annotations.lookup serviceAnnotationLoadBalancerTLSBackendSetSecret = none) := by
  obtain ⟨-, -, -, -, hpreserve, hbackendSets, -, -, htype, -⟩ := newLBSpec_ok h
  obtain ⟨policy, ssl, hc, q, v, hssl, hhc, -, -, rfl⟩ :=
    eq_of_lookup_getBackendSets hbackendSets hbs
  obtain ⟨hplain, hregex⟩ := getHealthChecker_ok hhc
  have hnoRegex : hc.responseBodyRegex.getD "" = "" := by rw [hregex]; rfl
  cases hlb : spec.type with
  | lb =>
    have hbackends := backends_map_unchanged ({ · with targetId := none, name := none })
      (fun _ => ⟨rfl, rfl⟩)
      (if v = .ipv6 then (getBackends lib nodes q.nodePort).2
        else (getBackends lib nodes q.nodePort).1)
    rw [getPreserveSource_of_lb (htype.symm.trans hlb)] at hpreserve
    refine iff_of_true ⟨?_, hbackends.1, rfl, Except.ok.inj hpreserve, .refl _, hbackends.2⟩
      fun h => nomatch h
    exact getHealthCheckerChanges_eq_nil.mpr ⟨_, rfl, rfl, fun hset => absurd hnoRegex hset, rfl,
      fun _ => rfl, rfl, rfl, rfl, rfl, rfl⟩
  | nlb =>
    have hbackends := backends_map_unchanged ({ · with
        name := none, backup := none, drain := none, offline := none, maxConnections := none })
      (fun _ => ⟨rfl, rfl⟩)
      (if v = .ipv6 then (getBackends lib nodes q.nodePort).2
        else (getBackends lib nodes q.nodePort).1)
    rw [backendSetSSL_of_nlb (htype.symm.trans hlb)] at hssl
    cases hssl
    have hhealth : getHealthCheckerChanges
        (some { hc with isForcePlainText := none, responseBodyRegex := none }) (some hc) = [] ↔
        svc.annotations.lookup serviceAnnotationLoadBalancerTLSBackendSetSecret = none := by
      have hunset : hc.isForcePlainText.getD false = false ↔
          svc.annotations.lookup serviceAnnotationLoadBalancerTLSBackendSetSecret = none := by
        rw [hplain, getD_some, isSome_eq_false_iff, isNone_iff_eq_none]
      rw [getHealthCheckerChanges_eq_nil, ← hunset]
      constructor
      · rintro ⟨_, heq, hsame⟩
        cases heq
        exact hsame.isForcePlainText.symm
      · intro hfalse
        exact ⟨_, rfl, rfl, fun hset => absurd hnoRegex hset, rfl, fun _ => rfl, rfl, rfl, rfl, rfl,
          hfalse.symm⟩
    constructor
    · exact fun hsame _ => hhealth.mp hsame.healthChecker
    · exact fun hunset => ⟨hhealth.mpr (hunset rfl), hbackends.1, rfl, rfl, trivial, hbackends.2⟩

end

end Spec

/-- Health checks in plain text are not asked for, or the product has them, or there is no
backend set. -/
def PlainTextSupported (spec : LBSpec RuleSet) : Prop :=
  spec.type = .nlb → ∀ name ∈ spec.backendSets,
    spec.service.annotations.lookup serviceAnnotationLoadBalancerTLSBackendSetSecret = none

/-- A load balancer that is compared with the specification from which it was created needs no
actions exactly if its product supports the health checks that are asked for. -/
theorem noActions_afterCreate_iff (lib : Library RuleSet) (orders : ChangeOrders)
    {o o' : RangeOrder.{0}} {svc : Service} {nodes : List Node} {subnets : List String}
    {sslConfig : Option SSLConfig} {versions : IpVersions} {spec : LBSpec RuleSet}
    (h : newLBSpec lib o o' svc nodes subnets sslConfig versions = .ok spec) :
    (getListenerChanges orders.listeners (readListeners spec.type spec.listeners) spec.listeners
        spec.ruleSets = [] ∧
      getBackendSetChanges orders.backendSets (readBackendSets spec.type spec.backendSets)
        spec.backendSets = []) ↔ PlainTextSupported spec := by
  have hlisteners : getListenerChanges orders.listeners
      (readListeners spec.type spec.listeners) spec.listeners spec.ruleSets = [] :=
    getListenerChanges_eq_nil (lookup_readListeners spec.type spec.listeners)
      (wellNamed_of_newLBSpec h).sanitized_inj fun _ _ => listenerUnchanged_readListener h
  rw [getBackendSetChanges_eq_nil_iff (lookup_readBackendSets spec.type spec.backendSets)]
  unfold PlainTextSupported
  rw [(newLBSpec_ok h).service]
  constructor
  · rintro ⟨-, hsame⟩ htype name hmem
    obtain ⟨bs, hbs⟩ := mem_iff_exists_lookup.mp hmem
    exact (backendSetUnchanged_readBackendSet_iff h hbs).mp (hsame name bs hbs) htype
  · intro hsupported
    refine ⟨hlisteners, fun name bs hbs => ?_⟩
    rw [backendSetUnchanged_readBackendSet_iff h hbs]
    exact fun htype => hsupported htype name (mem_of_lookup hbs)

def networkService (annotations : List (String × String)) : Service where
  annotations := .ofPairs ((serviceAnnotationLoadBalancerType, "nlb") :: annotations)
  ports := [⟨.tcp, 80, 30080⟩]

theorem noActions_networkService :
    ∃ spec, newLBSpec .simple .stored .stored (networkService []) [] [] none ipv4Only = .ok spec ∧
      getBackendSetChanges .stored (readBackendSets spec.type spec.backendSets)
        spec.backendSets = [] := by
  have h : newLBSpec .simple .stored .stored (networkService []) [] [] none ipv4Only = .ok _ := rfl
  exact ⟨_, h, ((noActions_afterCreate_iff .simple {} h).mpr fun _ _ _ => rfl).2⟩

/-- The annotation for the certificates of backend sets is of no use to a network load balancer,
but with it the backend sets are updated again and again. -/
theorem actions_afterCreate_networkService :
    ∃ spec, newLBSpec .simple .stored .stored (networkService
        [(serviceAnnotationLoadBalancerTLSBackendSetSecret, "secret")]) [] [] none ipv4Only =
          .ok spec ∧
      getBackendSetChanges .stored (readBackendSets spec.type spec.backendSets)
        spec.backendSets ≠ [] :=
  ⟨_, rfl, by decide +kernel⟩

end OciCcm.LoadBalancer
