import OciCcm.LoadBalancer.Changes

/-! # When nothing is reported

The comparisons collect a message for every field that differs. Each statement
here says for one of them which fields agree when there are no messages. A field
that the desired side leaves unset is in part not looked at.
-/

namespace OciCcm.LoadBalancer

open Go List

variable {RuleSet : Type}

@[simp] theorem fieldChange_eq_nil {α : Type} [DecidableEq α] [ToString α] {field : String}
    {actual desired : α} : fieldChange field actual desired = [] ↔ actual = desired := by
  unfold fieldChange
  split <;> simp_all

/-! ## SSL and connections -/

/-- Neither side has a configuration, or they agree. Without a desired cipher suite neither it
nor the protocols are compared. -/
def SslUnchanged : Option SslConfigurationDetails → Option SslConfigurationDetails → Prop
  | none, none => True
  | some actual, some desired =>
    actual.certificateName.getD "" = desired.certificateName.getD "" ∧
    actual.verifyDepth.getD 0 = desired.verifyDepth.getD 0 ∧
    actual.verifyPeerCertificate.getD false = desired.verifyPeerCertificate.getD false ∧
    (desired.cipherSuiteName.getD "" ≠ "" →
      actual.cipherSuiteName.getD "" = desired.cipherSuiteName.getD "" ∧
        actual.protocols = desired.protocols)
  | _, _ => False

theorem getSSLConfigurationChanges_eq_nil {actual desired : Option SslConfigurationDetails} :
    getSSLConfigurationChanges actual desired = [] ↔ SslUnchanged actual desired := by
  cases actual with
  | none => cases desired <;> simp [getSSLConfigurationChanges, SslUnchanged]
  | some actual =>
    cases desired with
    | none => simp [getSSLConfigurationChanges, SslUnchanged]
    | some desired =>
      by_cases hcipher : desired.cipherSuiteName.getD "" = ""
      · simp [getSSLConfigurationChanges, SslUnchanged, hcipher]
      · simp [getSSLConfigurationChanges, SslUnchanged, hcipher]

theorem SslUnchanged.refl (ssl : Option SslConfigurationDetails) : SslUnchanged ssl ssl := by
  cases ssl with
  | none => trivial
  | some ssl => exact ⟨rfl, rfl, rfl, fun _ => ⟨rfl, rfl⟩⟩

/-- The configurations agree, or none is desired. -/
def ConnectionUnchanged : Option ConnectionConfiguration → Option ConnectionConfiguration → Prop
  | _, none => True
  | none, some _ => False
  | some actual, some desired =>
    actual.idleTimeout.getD 0 = desired.idleTimeout.getD 0 ∧
    actual.backendTcpProxyProtocolVersion.getD 0 = desired.backendTcpProxyProtocolVersion.getD 0

theorem getConnectionConfigurationChanges_eq_nil
    {actual desired : Option ConnectionConfiguration} :
    getConnectionConfigurationChanges actual desired = [] ↔ ConnectionUnchanged actual desired := by
  cases desired with
  | none => simp [getConnectionConfigurationChanges, ConnectionUnchanged]
  | some desired =>
    cases actual <;> simp [getConnectionConfigurationChanges, ConnectionUnchanged]

theorem ConnectionUnchanged.refl (connection : Option ConnectionConfiguration) :
    ConnectionUnchanged connection connection := by
  cases connection with
  | none => trivial
  | some connection => exact ⟨rfl, rfl⟩

/-! ## Listeners -/

/-- No compared field of a listener differs. -/
structure ListenerUnchanged (actual desired : Listener) (ruleSets : Option (GoMap RuleSet)) :
    Prop where
  defaultBackendSetName : actual.defaultBackendSetName = desired.defaultBackendSetName
  port : actual.port = desired.port
  protocol : actual.protocol = desired.protocol
  isPpv2Enabled : actual.isPpv2Enabled.getD false = desired.isPpv2Enabled.getD false
  ruleSetNames : ruleSets.isSome → actual.namedRuleSets.toFinset = desired.namedRuleSets.toFinset
  sslConfiguration : SslUnchanged actual.sslConfiguration desired.sslConfiguration
  connectionConfiguration :
    ConnectionUnchanged actual.connectionConfiguration desired.connectionConfiguration

theorem not_hasListenerChanged_iff {actual desired : Listener}
    {ruleSets : Option (GoMap RuleSet)} :
    ¬hasListenerChanged actual desired ruleSets ↔ ListenerUnchanged actual desired ruleSets := by
  have hruleSets : (if ruleSets.isSome ∧
      actual.namedRuleSets.toFinset ≠ desired.namedRuleSets.toFinset then
      [changeMsg "Listener:RuleSetNames" ("[" ++ join actual.namedRuleSets " " ++ "]")
        ("[" ++ join desired.namedRuleSets " " ++ "]")] else []) = [] ↔
      (ruleSets.isSome → actual.namedRuleSets.toFinset = desired.namedRuleSets.toFinset) := by
    simp
  simp only [hasListenerChanged, ne_eq, decide_not, Bool.not_eq_true', decide_eq_false_iff_not,
    not_not, append_eq_nil_iff, fieldChange_eq_nil, hruleSets,
    getSSLConfigurationChanges_eq_nil, getConnectionConfigurationChanges_eq_nil]
  constructor
  · rintro ⟨⟨⟨⟨⟨⟨h₁, h₂⟩, h₃⟩, h₄⟩, h₅⟩, h₆⟩, h₇⟩
    exact ⟨h₁, h₂, h₃, h₄, h₅, h₆, h₇⟩
  · rintro ⟨h₁, h₂, h₃, h₄, h₅, h₆, h₇⟩
    exact ⟨⟨⟨⟨⟨⟨h₁, h₂⟩, h₃⟩, h₄⟩, h₅⟩, h₆⟩, h₇⟩

/-! ## Backend sets -/

/-- No compared field of a health checker differs. The regular expression and the return code
are compared where they are desired. -/
structure HealthCheckerUnchanged (actual desired : HealthChecker) : Prop where
  port : actual.port.getD 0 = desired.port.getD 0
  responseBodyRegex : desired.responseBodyRegex.getD "" ≠ "" →
    actual.responseBodyRegex.getD "" = desired.responseBodyRegex.getD ""
  retries : actual.retries.getD 0 = desired.retries.getD 0
  returnCode : desired.returnCode.getD 0 ≠ 0 →
    actual.returnCode.getD 0 = desired.returnCode.getD 0
  timeoutInMillis : actual.timeoutInMillis.getD 0 = desired.timeoutInMillis.getD 0
  intervalInMillis : actual.intervalInMillis.getD 0 = desired.intervalInMillis.getD 0
  urlPath : actual.urlPath.getD "" = desired.urlPath.getD ""
  protocol : actual.protocol = desired.protocol
  isForcePlainText : actual.isForcePlainText.getD false = desired.isForcePlainText.getD false

theorem getHealthCheckerChanges_eq_nil {actual : Option HealthChecker} {desired : HealthChecker} :
    getHealthCheckerChanges actual (some desired) = [] ↔
      ∃ hc, actual = some hc ∧ HealthCheckerUnchanged hc desired := by
  cases actual with
  | none => simp [getHealthCheckerChanges]
  | some actual =>
    have hite : ∀ {p : Prop} [Decidable p] {xs : List String},
        (if p then xs else []) = [] ↔ (p → xs = []) := by
      intro p _ xs
      split <;> simp_all
    simp only [getHealthCheckerChanges, append_eq_nil_iff, fieldChange_eq_nil, hite,
      Option.some.injEq, exists_eq_left']
    constructor
    · rintro ⟨⟨⟨⟨⟨⟨⟨⟨h₁, h₂⟩, h₃⟩, h₄⟩, h₅⟩, h₆⟩, h₇⟩, h₈⟩, h₉⟩
      exact ⟨h₁, h₂, h₃, h₄, h₅, h₆, h₇, h₈, h₉⟩
    · rintro ⟨h₁, h₂, h₃, h₄, h₅, h₆, h₇, h₈, h₉⟩
      exact ⟨⟨⟨⟨⟨⟨⟨⟨h₁, h₂⟩, h₃⟩, h₄⟩, h₅⟩, h₆⟩, h₇⟩, h₈⟩, h₉⟩

theorem backendChanges_eq_nil {actual desired : List Backend} :
    backendChanges actual desired = [] ↔
      ∀ key, key ∈ actual.map backendKey ↔ key ∈ desired.map backendKey := by
  simp only [backendChanges, append_eq_nil_iff, map_eq_nil_iff, filter_eq_nil_iff,
    decide_eq_true_eq, not_not]
  exact ⟨fun h key => ⟨h.1 key, h.2 key⟩, fun h => ⟨fun key => (h key).mp, fun key => (h key).mpr⟩⟩

/-- No compared field of a backend set differs. -/
structure BackendSetUnchanged (actual desired : BackendSetDetails) : Prop where
  healthChecker : getHealthCheckerChanges actual.healthChecker desired.healthChecker = []
  backendPort : backendPortChange actual.backends desired.backends = []
  policy : actual.policy.getD "" = desired.policy.getD ""
  isPreserveSource : actual.isPreserveSource.getD false = desired.isPreserveSource.getD false
  sslConfiguration : SslUnchanged actual.sslConfiguration desired.sslConfiguration
  backends : ∀ key, key ∈ actual.backends.map backendKey ↔ key ∈ desired.backends.map backendKey

theorem not_hasBackendSetChanged_iff {actual desired : BackendSetDetails} :
    ¬hasBackendSetChanged actual desired ↔ BackendSetUnchanged actual desired := by
  simp only [hasBackendSetChanged, ne_eq, decide_not, Bool.not_eq_true', decide_eq_false_iff_not,
    not_not, append_eq_nil_iff, fieldChange_eq_nil, getSSLConfigurationChanges_eq_nil,
    backendChanges_eq_nil]
  constructor
  · rintro ⟨⟨⟨⟨⟨h₁, h₂⟩, h₃⟩, h₄⟩, h₅⟩, h₆⟩
    exact ⟨h₁, h₂, h₃, h₄, h₅, h₆⟩
  · rintro ⟨h₁, h₂, h₃, h₄, h₅, h₆⟩
    exact ⟨⟨⟨⟨⟨h₁, h₂⟩, h₃⟩, h₄⟩, h₅⟩, h₆⟩

theorem backendKey_inj {b b' : Backend} (h : backendKey b = backendKey b') :
    b.ipAddress = b'.ipAddress ∧ b.port = b'.port := by
  have hrev : ∀ b : Backend, (backendKey b).toList.reverse =
      (toString b.port).toList.reverse ++ ':' :: b.ipAddress.toList.reverse := by
    simp [backendKey, String.toList_append]
  have hcolon : ∀ n : Nat, ':' ∉ (toString n).toList.reverse := fun n hmem =>
    absurd (isDigit_of_mem_toString (mem_reverse.mp hmem)) (by decide)
  have heq := hrev b
  rw [h, hrev b'] at heq
  have hport := congrArg (List.splitOn ':') heq
  rw [splitOn_append_cons_self_of_not_mem (hcolon _),
    splitOn_append_cons_self_of_not_mem (hcolon _)] at hport
  have hport := (List.cons.inj hport).1
  rw [hport, append_cancel_left_eq] at heq
  exact ⟨(String.toList_inj.mp (reverse_injective (List.cons.inj heq).2)).symm,
    (toString_injective (String.toList_inj.mp (reverse_injective hport))).symm⟩

end OciCcm.LoadBalancer
