import OciCcm.LoadBalancer.FullSpec

/-! # Certificates of load balancers

The secrets with the certificates of the listeners and of the backend sets are
named by annotations, each with a namespace or in that of the service. On the
load balancer a certificate has the name of its secret only.
-/

namespace OciCcm.LoadBalancer

open Go Kubernetes

variable {RuleSet : Type}

/-! ## Secrets -/

def serviceAnnotationLoadBalancerSSLPorts := "service.beta.kubernetes.io/oci-load-balancer-ssl-ports"
def serviceAnnotationLoadBalancerTLSSecret :=
  "service.beta.kubernetes.io/oci-load-balancer-tls-secret"

def sslCAFileName := "ca.crt"
def sslCertificateFileName := "tls.crt"
def sslPrivateKeyFileName := "tls.key"
def sslPassphrase := "passphrase"

/-- The data of a secret, as texts. -/
structure CertificateData where
  caCert : String
  publicCert : String
  privateKey : String
  passphrase : String
deriving DecidableEq, Repr

/-- Reads the secret with a namespace and a name. The result may be a nil pointer. -/
abbrev SslSecretReader := String → String → Except String (Option CertificateData)

def noopSSLSecretReader : SslSecretReader := fun _ _ => .ok none

/-- The reader of the cloud provider, over the secrets that the cluster answers with. -/
def readSSLSecret (getSecret : String → String → Except String (GoMap String)) : SslSecretReader :=
  fun ns name => do
    let data ← getSecret ns name
    match data.lookup sslCertificateFileName with
    | none => .error (sslCertificateFileName ++ " not found in secret " ++ ns ++ "/" ++ name)
    | some cert =>
      match data.lookup sslPrivateKeyFileName with
      | none => .error (sslPrivateKeyFileName ++ " not found in secret " ++ ns ++ "/" ++ name)
      | some key => .ok (some
        { caCert := (data.lookup sslCAFileName).getD ""
          publicCert := cert
          privateKey := key
          passphrase := (data.lookup sslPassphrase).getD "" })

/-- The SSL configuration with the fields that only the certificates need. -/
structure SecretConfig extends SSLConfig where
  listenerSSLSecretNamespace : String
  backendSetSSLSecretNamespace : String
  sslSecretReader : SslSecretReader

/-- The name and the namespace that an annotation gives. -/
def getSecretParts (secretString : String) (service : Service) : String × String :=
  if secretString = "" then ("", "")
  else if !contains secretString "/" then (secretString, service.ns)
  else match split secretString '/' with
    | ns :: name :: _ => (name, ns)
    -- there is a slash, so there are two parts
    | _ => ("", "")

def newSSLConfig (secretListenerString secretBackendSetString : String) (service : Service)
    (ports : List Int) (ssr : Option SslSecretReader) : SecretConfig where
  ports := ports.toFinset
  listenerSSLSecretName := (getSecretParts secretListenerString service).1
  listenerSSLSecretNamespace := (getSecretParts secretListenerString service).2
  backendSetSSLSecretName := (getSecretParts secretBackendSetString service).1
  backendSetSSLSecretNamespace := (getSecretParts secretBackendSetString service).2
  sslSecretReader := ssr.getD noopSSLSecretReader

def requiresCertificate (svc : Service) : Bool :=
  getLoadBalancerType svc ≠ .nlb && (svc.annotations.lookup serviceAnnotationLoadBalancerSSLPorts).isSome

/-- The error of `strconv.Atoi`. -/
def atoiError (s : String) : String :=
  let digits := match s.toList with
    | '-' :: cs | '+' :: cs => cs
    | cs => cs
  "strconv.Atoi: parsing " ++ s.quote ++ ": " ++
    if (parseDigits digits).isSome then "value out of range" else "invalid syntax"

def sslEnabledPort (s : String) : Except String Int :=
  match parseInt (trimSpace s) with
  | some port => .ok port
  | none => .error ("parse SSL port: " ++ atoiError (trimSpace s))

def getSSLEnabledPorts (svc : Service) : Except String (List Int) :=
  let value := svc.annotation serviceAnnotationLoadBalancerSSLPorts
  if value = "" then .ok [] else (split value ',').mapM sslEnabledPort

/-- The SSL configuration that `EnsureLoadBalancer` builds for a service. -/
def sslConfigOf (service : Service) (ssr : SslSecretReader) : Except String (Option SecretConfig) :=
  if requiresCertificate service then do
    let ports ← getSSLEnabledPorts service
    .ok (some (newSSLConfig (service.annotation serviceAnnotationLoadBalancerTLSSecret)
      (service.annotation serviceAnnotationLoadBalancerTLSBackendSetSecret) service ports (some ssr)))
  else .ok none

/-! ## Certificates -/

structure GenericCertificate where
  certificateName : String
  caCertificate : String
  publicCertificate : String
  privateKey : String
  passphrase : String
deriving DecidableEq, Repr

def genericCertificate (name : String) (cert : CertificateData) : GenericCertificate where
  certificateName := name
  caCertificate := cert.caCert
  publicCertificate := cert.publicCert
  privateKey := cert.privateKey
  passphrase := cert.passphrase

theorem genericCertificate_inj {name name' : String} {cert cert' : CertificateData}
    (h : genericCertificate name cert = genericCertificate name' cert') : cert = cert' := by
  obtain ⟨caCert, publicCert, privateKey, passphrase⟩ := cert
  obtain ⟨-, rfl, rfl, rfl, rfl⟩ := GenericCertificate.mk.inj h
  rfl

/-- The certificate of one of the two secrets, if it has a name. A secret that is nil is a panic. -/
def addCertificate (ssr : SslSecretReader) (message ns name : String)
    (certs : GoMap GenericCertificate) : Except String (GoMap GenericCertificate) :=
  if name = "" then .ok certs
  else match ssr ns name with
    | .error err => .error (wrap message err)
    | .ok none => .error "runtime error: invalid memory address or nil pointer dereference"
    | .ok (some cert) => .ok (certs.insert name (genericCertificate name cert))

/-- The method `Certificates` of a specification, which only reads its SSL configuration. -/
def certificates (sslConfig : Option SecretConfig) : Except String (GoMap GenericCertificate) :=
  match sslConfig with
  | none => .ok ∅
  | some cfg => do
    let certs ← addCertificate cfg.sslSecretReader "reading SSL Listener Secret"
      cfg.listenerSSLSecretNamespace cfg.listenerSSLSecretName ∅
    addCertificate cfg.sslSecretReader "reading SSL Backend Secret"
      cfg.backendSetSSLSecretNamespace cfg.backendSetSSLSecretName certs

variable {message ns name : String} {ssr : SslSecretReader}

theorem addCertificate_ok {certs certs' : GoMap GenericCertificate}
    (h : addCertificate ssr message ns name certs = .ok certs') :
    name = "" ∧ certs' = certs ∨ name ≠ "" ∧ ∃ cert, ssr ns name = .ok (some cert) ∧
      certs' = certs.insert name (genericCertificate name cert) := by
  unfold addCertificate at h
  split_ifs at h with hname
  · exact .inl ⟨hname, (Except.ok.inj h).symm⟩
  · right
    refine ⟨hname, ?_⟩
    split at h
    · cases h
    · cases h
    · next cert hcert => exact ⟨cert, hcert, (Except.ok.inj h).symm⟩

theorem addCertificate_eq {certs : GoMap GenericCertificate} {cert : CertificateData}
    (hname : name ≠ "") (h : ssr ns name = .ok (some cert)) :
    addCertificate ssr message ns name certs =
      .ok (certs.insert name (genericCertificate name cert)) := by
  rw [addCertificate, if_neg hname, h]

/-! ## The names of the certificates in a specification -/

/-- The certificate for a port, if its SSL is enabled. -/
def certificateFor (cfg : SSLConfig) (name : String) (port : Nat) : Option String :=
  if (port : Int) ∈ cfg.ports ∧ name ≠ "" then some name else none

/-- The certificate that an SSL configuration names. -/
def namedCertificate (ssl : Option SslConfigurationDetails) : Option String :=
  ssl.bind (·.certificateName)

section Names

variable {lib : Library RuleSet} {svc : Service} {cfg : SSLConfig} {name text : String} {port : Nat}
  {ssl : Option SslConfigurationDetails}

theorem namedCertificate_getSSLConfiguration
    (h : getSSLConfiguration lib (some cfg) name port text = .ok ssl) :
    namedCertificate ssl = certificateFor cfg name port := by
  unfold getSSLConfiguration at h
  dsimp only at h
  unfold certificateFor
  split_ifs at h with hnone
  · rw [← Except.ok.inj h, if_neg (fun hsome => hnone.elim (· hsome.1) hsome.2)]
    rfl
  · rw [not_or, not_not] at hnone
    rw [if_pos hnone]
    cases hjson : lib.unmarshalSslConfiguration text with
    | error err =>
      rw [hjson] at h
      cases h
    | ok suite =>
      rw [hjson] at h
      rw [← Except.ok.inj h]
      cases suite with
      | none => rfl
      | some suite => rfl
  · rw [not_or, not_not] at hnone
    rw [← Except.ok.inj h, if_pos hnone]
    rfl

theorem certificateFor_of_eq_empty (hname : name = "") : certificateFor cfg name port = none := by
  rw [certificateFor, if_neg (fun h => h.2 hname)]

theorem namedCertificate_listenerSSL (h : listenerSSL lib svc (some cfg) port = .ok ssl) :
    namedCertificate ssl = certificateFor cfg cfg.listenerSSLSecretName port := by
  unfold listenerSSL at h
  dsimp only at h
  split_ifs at h with hname
  · exact namedCertificate_getSSLConfiguration h
  · rw [← Except.ok.inj h, certificateFor_of_eq_empty (not_not.mp hname)]
    rfl

theorem namedCertificate_backendSetSSL (hlb : getLoadBalancerType svc = .lb)
    (h : backendSetSSL lib svc (some cfg) port = .ok ssl) :
    namedCertificate ssl = certificateFor cfg cfg.backendSetSSLSecretName port := by
  unfold backendSetSSL at h
  dsimp only at h
  split_ifs at h with hname
  · exact namedCertificate_getSSLConfiguration h
  · rw [← Except.ok.inj h, certificateFor_of_eq_empty (not_not.mp fun hne => hname ⟨hne, hlb⟩)]
    rfl

theorem namedCertificate_normalizeGrpc {protocol protocol' : String}
    {ssl' : Option SslConfigurationDetails}
    (h : normalizeGrpc protocol ssl = .ok (protocol', ssl')) :
    namedCertificate ssl' = namedCertificate ssl := by
  unfold normalizeGrpc at h
  split_ifs at h
  · cases ssl with
    | none => cases h
    | some ssl =>
      obtain ⟨-, rfl⟩ := Prod.mk.inj (Except.ok.inj h)
      rfl
  · obtain ⟨-, rfl⟩ := Prod.mk.inj (Except.ok.inj h)
    rfl

theorem namedCertificate_ociListener {idle proxy : Option Int} {rs : Option (List String)}
    {p : ServicePort} {l : Listener}
    (h : ociListener lib svc (some cfg) idle proxy rs p = .ok l) :
    namedCertificate l.sslConfiguration = certificateFor cfg cfg.listenerSSLSecretName p.port := by
  obtain ⟨protocol, -, h⟩ := bind_ok h
  obtain ⟨ssl, hssl, h⟩ := bind_ok h
  obtain ⟨⟨protocol', ssl'⟩, hgrpc, h⟩ := bind_ok h
  cases h
  exact (namedCertificate_normalizeGrpc hgrpc).trans (namedCertificate_listenerSSL hssl)

variable {ls : GoMap Listener}

theorem namedCertificate_of_lookup
    (h : getListenersOciLoadBalancer lib svc (some cfg) = .ok ls) {l : Listener}
    (hl : ls.lookup name = some l) :
    ∃ p ∈ svc.ports, name = dashed (listenerSpelling svc p.protocol) p.port ∧
      namedCertificate l.sslConfiguration =
        certificateFor cfg cfg.listenerSSLSecretName p.port := by
  obtain ⟨idle, -, h⟩ := bind_ok h
  obtain ⟨proxy, -, h⟩ := bind_ok h
  obtain ⟨p, hp, hf⟩ := exists_of_lookup_fill h hl
  obtain ⟨l', hoci, heq⟩ := map_ok hf
  obtain ⟨rfl, rfl⟩ := Prod.mk.inj (Option.some.inj heq)
  exact ⟨p, hp, (ociListener_ok hoci).2.1, namedCertificate_ociListener hoci⟩

theorem exists_listener_namedCertificate
    (h : getListenersOciLoadBalancer lib svc (some cfg) = .ok ls) {p : ServicePort}
    (hp : p ∈ svc.ports) : ∃ name l, ls.lookup name = some l ∧
      namedCertificate l.sslConfiguration =
        certificateFor cfg cfg.listenerSSLSecretName p.port := by
  obtain ⟨hdash, hmem⟩ := mem_getListenersOciLoadBalancer h hp
  obtain ⟨l, hl⟩ := GoMap.mem_iff_exists_lookup.mp hmem
  obtain ⟨q, hq, hname, hcertificate⟩ := namedCertificate_of_lookup h hl
  obtain ⟨hdash', -⟩ := mem_getListenersOciLoadBalancer h hq
  obtain ⟨-, hport⟩ := dashed_inj hdash hdash' hname
  exact ⟨_, l, hl, hport ▸ hcertificate⟩

end Names

/-! ## Secrets that are asked for -/

/-- A secret that an annotation asks for: one in a given namespace, or in that of the service. Names
and namespaces have no slashes. -/
structure SecretRef where
  ns : Option String
  name : String
  name_ne : name ≠ ""
  slash_notMem_name : '/' ∉ name.toList
  slash_notMem_ns : ∀ s ∈ ns, '/' ∉ s.toList

namespace SecretRef

def namespaceFor (ref : SecretRef) (svc : Service) : String := ref.ns.getD svc.ns

/-- The value of the annotation. -/
def text (ref : SecretRef) : String :=
  match ref.ns with
  | none => ref.name
  | some ns => ns ++ "/" ++ ref.name

theorem getSecretParts_text (ref : SecretRef) (svc : Service) :
    getSecretParts ref.text svc = (ref.name, ref.namespaceFor svc) := by
  obtain ⟨ns, name, hne, hname, hns⟩ := ref
  have hslash : "/".toList = ['/'] := rfl
  unfold getSecretParts text namespaceFor
  cases ns with
  | none =>
    dsimp only [Option.getD_none]
    have hnot : contains name "/" = false := by
      rw [Bool.eq_false_iff, ne_eq, contains_iff_mem hslash]
      exact hname
    rw [if_neg hne, hnot]
    rfl
  | some ns =>
    dsimp only [Option.getD_some]
    have hlist : (ns ++ "/" ++ name).toList = ns.toList ++ '/' :: name.toList := by
      rw [String.toList_append, String.toList_append, hslash, List.append_assoc]
      rfl
    have hmem : contains (ns ++ "/" ++ name) "/" = true := by
      rw [contains_iff_mem hslash, hlist]
      exact List.mem_append_right _ List.mem_cons_self
    have htext : ns ++ "/" ++ name ≠ "" := by
      intro hempty
      rw [hempty] at hmem
      exact absurd hmem (by decide)
    rw [if_neg htext, hmem, split_of_notMem hlist (hns ns rfl) hname]
    rfl

end SecretRef

/-- The value of an annotation that may be missing. -/
def secretText (ref : Option SecretRef) : String := ref.elim "" SecretRef.text

theorem getSecretParts_secretText (ref : Option SecretRef) (svc : Service) :
    getSecretParts (secretText ref) svc =
      ref.elim ("", "") fun ref => (ref.name, ref.namespaceFor svc) := by
  cases ref with
  | none => rfl
  | some ref => exact ref.getSecretParts_text svc

/-- A specification of a load balancer that has been built for a service whose annotations ask for
the two secrets. -/
structure SecretsAsked (lib : ProvisioningLibrary RuleSet) (cfg : SpecConfig)
    (existingLB : Option ExistingShape) (r : NetworkSecurityGroups.Request)
    (spec : FullSpec RuleSet) (ssr : SslSecretReader) (sslConfig : SecretConfig)
    (listener backendSet : Option SecretRef) : Prop where
  listener_text : r.service.annotation serviceAnnotationLoadBalancerTLSSecret = secretText listener
  backendSet_text : r.service.annotation serviceAnnotationLoadBalancerTLSBackendSetSecret =
    secretText backendSet
  sslConfig_ok : sslConfigOf r.service ssr = .ok (some sslConfig)
  sslConfig_eq : r.sslConfig = some sslConfig.toSSLConfig
  spec_ok : newFullSpec lib cfg existingLB r = .ok spec

/-- The entry holds the content of the secret. -/
def HoldsSecret (ssr : SslSecretReader) (svc : Service) (ref : SecretRef)
    (certs : GoMap GenericCertificate) (name : String) : Prop :=
  ∃ cert, ssr (ref.namespaceFor svc) ref.name = .ok (some cert) ∧
    certs.lookup name = some (genericCertificate name cert)

/-- The certificate that is named in an SSL configuration holds the content of the secret that is
asked for. -/
def NamesSecret (ssr : SslSecretReader) (svc : Service) (asked : Option SecretRef)
    (certs : GoMap GenericCertificate) (ssl : Option SslConfigurationDetails) : Prop :=
  ∀ name, namedCertificate ssl = some name → ∃ ref, asked = some ref ∧
    HoldsSecret ssr svc ref certs name

/-- Every listener and every backend set has the certificate that is asked for. -/
def CertificatesAsAsked (ssr : SslSecretReader) (sslConfig : SecretConfig) (spec : FullSpec RuleSet)
    (listener backendSet : Option SecretRef) : Prop :=
  ∀ certs, certificates (some sslConfig) = .ok certs →
    (∀ name l, spec.listeners.lookup name = some l →
      NamesSecret ssr spec.service listener certs l.sslConfiguration) ∧
    ∀ name bs, spec.backendSets.lookup name = some bs →
      NamesSecret ssr spec.service backendSet certs bs.sslConfiguration

/-- If the two secrets have the same name and a listener uses its own, they have the same
content. -/
def ContentsAgree (ssr : SslSecretReader) (svc : Service) (sslConfig : SecretConfig)
    (listener backendSet : Option SecretRef) : Prop :=
  ∀ ref ref' cert cert', listener = some ref → backendSet = some ref' → ref.name = ref'.name →
    ssr (ref.namespaceFor svc) ref.name = .ok (some cert) →
    ssr (ref'.namespaceFor svc) ref'.name = .ok (some cert') →
    (∃ p ∈ svc.ports, (p.port : Int) ∈ sslConfig.ports) → cert = cert'

section Asked

variable {lib : ProvisioningLibrary RuleSet} {cfg : SpecConfig} {existingLB : Option ExistingShape}
  {r : NetworkSecurityGroups.Request} {spec : FullSpec RuleSet} {ssr : SslSecretReader}
  {sslConfig : SecretConfig} {listener backendSet : Option SecretRef}
  {certs : GoMap GenericCertificate}

/-- The name and the namespace of a secret in the configuration are those that are asked for. -/
def Configured (svc : Service) (asked : Option SecretRef) (name ns : String) : Prop :=
  (name, ns) = asked.elim ("", "") fun ref => (ref.name, ref.namespaceFor svc)

theorem Configured.exists_ref {svc : Service} {asked : Option SecretRef} {name ns : String}
    (h : Configured svc asked name ns) (hname : name ≠ "") :
    ∃ ref, asked = some ref ∧ name = ref.name ∧ ns = ref.namespaceFor svc := by
  cases asked with
  | none => exact absurd (congrArg Prod.fst h) hname
  | some ref => exact ⟨ref, rfl, Prod.mk.inj h⟩

section

variable (h : SecretsAsked lib cfg existingLB r spec ssr sslConfig listener backendSet)

include h

theorem SecretsAsked.configured :
    getLoadBalancerType r.service = .lb ∧ sslConfig.sslSecretReader = ssr ∧
      Configured r.service listener sslConfig.listenerSSLSecretName
        sslConfig.listenerSSLSecretNamespace ∧
      Configured r.service backendSet sslConfig.backendSetSSLSecretName
        sslConfig.backendSetSSLSecretNamespace := by
  have hconfig := h.sslConfig_ok
  unfold sslConfigOf at hconfig
  split_ifs at hconfig with hrequires
  swap
  · cases hconfig
  obtain ⟨ports, -, hconfig⟩ := bind_ok hconfig
  obtain rfl := Option.some.inj (Except.ok.inj hconfig)
  refine ⟨?_, rfl, ?_, ?_⟩
  · have hne := of_decide_eq_true (Bool.and_eq_true_iff.mp hrequires).1
    cases htype : getLoadBalancerType r.service with
    | lb => rfl
    | nlb => exact absurd htype hne
  · rw [Configured, ← getSecretParts_secretText, ← h.listener_text]
    rfl
  · rw [Configured, ← getSecretParts_secretText, ← h.backendSet_text]
    rfl

theorem SecretsAsked.listeners :
    getListenersOciLoadBalancer lib.toLibrary r.service (some sslConfig.toSSLConfig) =
      .ok spec.listeners := by
  have hlisteners := (builtFrom_of_newFullSpec h.spec_ok).listeners
  rwa [getListeners, h.configured.1, h.sslConfig_eq] at hlisteners

theorem SecretsAsked.backendSets {name : String} {bs : BackendSetDetails}
    (hbs : spec.backendSets.lookup name = some bs) :
    ∃ port, namedCertificate bs.sslConfiguration =
      certificateFor sslConfig.toSSLConfig sslConfig.backendSetSSLSecretName port := by
  have hbackendSets := (builtFrom_of_newFullSpec h.spec_ok).backendSets
  rw [h.sslConfig_eq] at hbackendSets
  obtain ⟨_, ssl, _, q, _, hssl, -, -, -, rfl⟩ := eq_of_lookup_getBackendSets hbackendSets hbs
  exact ⟨q.port, namedCertificate_backendSetSSL h.configured.1 hssl⟩

end

theorem certificateFor_eq_some {cfg : SSLConfig} {name name' : String} {port : Nat}
    (h : certificateFor cfg name port = some name') :
    name' = name ∧ name ≠ "" ∧ (port : Int) ∈ cfg.ports := by
  unfold certificateFor at h
  split_ifs at h with hsome
  exact ⟨(Option.some.inj h).symm, hsome.2, hsome.1⟩

theorem SecretsAsked.holds_backendSet
    (h : SecretsAsked lib cfg existingLB r spec ssr sslConfig listener backendSet)
    (hcerts : certificates (some sslConfig) = .ok certs)
    (hname : sslConfig.backendSetSSLSecretName ≠ "") :
    ∃ ref, backendSet = some ref ∧
      HoldsSecret ssr r.service ref certs sslConfig.backendSetSSLSecretName := by
  obtain ⟨-, hreader, -, hbackendSet⟩ := h.configured
  obtain ⟨ref, href, hrefName, hrefNs⟩ := hbackendSet.exists_ref hname
  obtain ⟨certs₁, -, hadd⟩ := bind_ok hcerts
  rcases addCertificate_ok hadd with ⟨hempty, -⟩ | ⟨-, cert, hread, rfl⟩
  · exact absurd hempty hname
  · refine ⟨ref, href, cert, ?_, ?_⟩
    · rw [← hrefName, ← hrefNs, ← hreader]
      exact hread
    · rw [GoMap.lookup_insert_eq_ite, if_pos rfl]

/-- The certificate of the listeners may be written over. -/
theorem SecretsAsked.holds_listener
    (h : SecretsAsked lib cfg existingLB r spec ssr sslConfig listener backendSet)
    (hagree : ContentsAgree ssr r.service sslConfig listener backendSet)
    (hcerts : certificates (some sslConfig) = .ok certs)
    (hname : sslConfig.listenerSSLSecretName ≠ "")
    (hports : ∃ p ∈ r.service.ports, (p.port : Int) ∈ sslConfig.ports) :
    ∃ ref, listener = some ref ∧
      HoldsSecret ssr r.service ref certs sslConfig.listenerSSLSecretName := by
  obtain ⟨-, hreader, hlistener, hbackendSet⟩ := h.configured
  obtain ⟨ref, href, hrefName, hrefNs⟩ := hlistener.exists_ref hname
  obtain ⟨certs₁, hadd, hadd'⟩ := bind_ok hcerts
  rcases addCertificate_ok hadd with ⟨hempty, -⟩ | ⟨-, cert, hread, rfl⟩
  · exact absurd hempty hname
  rw [hreader, hrefNs, hrefName] at hread
  refine ⟨ref, href, cert, hread, ?_⟩
  rcases addCertificate_ok hadd' with ⟨-, rfl⟩ | ⟨hname', cert', hread', rfl⟩
  · rw [GoMap.lookup_insert_eq_ite, if_pos rfl]
  · obtain ⟨ref', href', hrefName', hrefNs'⟩ := hbackendSet.exists_ref hname'
    rw [GoMap.lookup_insert_eq_ite]
    split_ifs with hsame
    · rw [hreader, hrefNs', hrefName'] at hread'
      have hsame' : ref.name = ref'.name := by rw [← hrefName, ← hrefName', hsame]
      rw [hagree ref ref' cert cert' href href' hsame' hread hread' hports, hsame]
    · rw [GoMap.lookup_insert_eq_ite, if_pos rfl]

/-- Each certificate is the one that is asked for exactly if secrets of the same name have the same
content. -/
theorem certificatesAsAsked_iff
    (h : SecretsAsked lib cfg existingLB r spec ssr sslConfig listener backendSet) :
    CertificatesAsAsked ssr sslConfig spec listener backendSet ↔
      ContentsAgree ssr r.service sslConfig listener backendSet := by
  have hservice : spec.service = r.service := (builtFrom_of_newFullSpec h.spec_ok).service
  obtain ⟨-, hreader, hlistener, hbackendSet⟩ := h.configured
  unfold CertificatesAsAsked
  rw [hservice]
  constructor
  · rintro hasked ref ref' cert cert' rfl rfl hsame hread hread' ⟨p, hp, hport⟩
    obtain ⟨hname, hns⟩ := Prod.mk.inj hlistener
    obtain ⟨hname', hns'⟩ := Prod.mk.inj hbackendSet
    have hcerts : certificates (some sslConfig) =
        .ok ((AList.insert ref.name (genericCertificate ref.name cert) ∅).insert ref'.name
          (genericCertificate ref'.name cert')) := by
      unfold certificates
      dsimp only
      rw [hreader, hname, hns, hname', hns', addCertificate_eq ref.name_ne hread, ok_bind,
        addCertificate_eq ref'.name_ne hread']
    obtain ⟨name, l, hl, hcertificate⟩ := exists_listener_namedCertificate h.listeners hp
    rw [certificateFor, if_pos ⟨hport, hname ▸ ref.name_ne⟩, hname] at hcertificate
    obtain ⟨_, heq, cert₁, hread₁, hlookup⟩ := (hasked _ hcerts).1 name l hl ref.name hcertificate
    cases heq
    obtain rfl := Option.some.inj (Except.ok.inj (hread.symm.trans hread₁))
    rw [GoMap.lookup_insert_eq_ite, if_pos hsame] at hlookup
    exact (genericCertificate_inj (Option.some.inj hlookup)).symm
  · intro hagree certs hcerts
    constructor
    · intro name l hl named hnamed
      obtain ⟨p, hp, -, hcertificate⟩ := namedCertificate_of_lookup h.listeners hl
      obtain ⟨rfl, hname, hport⟩ := certificateFor_eq_some (hcertificate.symm.trans hnamed)
      exact h.holds_listener hagree hcerts hname ⟨p, hp, hport⟩
    · intro name bs hbs named hnamed
      obtain ⟨port, hcertificate⟩ := h.backendSets hbs
      obtain ⟨rfl, hname, -⟩ := certificateFor_eq_some (hcertificate.symm.trans hnamed)
      exact h.holds_backendSet hcerts hname

end Asked

/-- Every namespace has the secrets that are asked for, with a certificate of its own. -/
def tlsSecrets : SslSecretReader :=
  readSSLSecret fun ns _ => .ok (.ofPairs [(sslCertificateFileName, ns), (sslPrivateKeyFileName, ns)])

/-- A secret in a namespace. -/
def secretIn (ns name : String) (hname : name ≠ "" ∧ '/' ∉ name.toList) (hns : '/' ∉ ns.toList) :
    SecretRef :=
  ⟨some ns, name, hname.1, hname.2, fun _ hs => Option.some.inj hs ▸ hns⟩

def listenerSecret : SecretRef := secretIn "a" "tls" (by decide) (by decide)

/-- The secret of the backend sets, in another namespace. -/
def backendSecret (name : String) (hname : name ≠ "" ∧ '/' ∉ name.toList) : SecretRef :=
  secretIn "b" name hname (by decide)

def tlsService (backendSet : SecretRef) : Service where
  annotations := .ofPairs [(serviceAnnotationLoadBalancerSSLPorts, "443"),
    (serviceAnnotationLoadBalancerTLSSecret, listenerSecret.text),
    (serviceAnnotationLoadBalancerTLSBackendSetSecret, backendSet.text)]
  ports := [⟨.tcp, 443, 30443⟩]

def tlsConfig (backendSet : SecretRef) : SecretConfig :=
  newSSLConfig listenerSecret.text backendSet.text (tlsService backendSet) [443] (some tlsSecrets)

def tlsRequest (backendSet : SecretRef) : NetworkSecurityGroups.Request :=
  { ipv4Request (tlsService backendSet) with sslConfig := some (tlsConfig backendSet).toSSLConfig }

/-- Secrets with two names. -/
theorem certificatesAsAsked_other : ∃ spec, SecretsAsked .simple { compartmentID := "c" } none
    (tlsRequest (backendSecret "other" (by decide))) spec tlsSecrets
    (tlsConfig (backendSecret "other" (by decide))) (some listenerSecret)
    (some (backendSecret "other" (by decide))) ∧
    CertificatesAsAsked tlsSecrets (tlsConfig (backendSecret "other" (by decide))) spec
      (some listenerSecret) (some (backendSecret "other" (by decide))) := by
  have h : SecretsAsked .simple { compartmentID := "c" } none
      (tlsRequest (backendSecret "other" (by decide))) _ tlsSecrets
      (tlsConfig (backendSecret "other" (by decide))) (some listenerSecret)
      (some (backendSecret "other" (by decide))) := ⟨rfl, rfl, rfl, rfl, rfl⟩
  refine ⟨_, h, (certificatesAsAsked_iff h).mpr ?_⟩
  intro ref ref' cert cert' href href' hsame
  rw [← Option.some.inj href, ← Option.some.inj href'] at hsame
  exact absurd hsame (by decide)

/-- Secrets with the same name in two namespaces: the listener gets the certificate of the backend
sets. -/
theorem not_certificatesAsAsked_same : ∃ spec, SecretsAsked .simple { compartmentID := "c" } none
    (tlsRequest (backendSecret "tls" (by decide))) spec tlsSecrets
    (tlsConfig (backendSecret "tls" (by decide))) (some listenerSecret)
    (some (backendSecret "tls" (by decide))) ∧
    ¬CertificatesAsAsked tlsSecrets (tlsConfig (backendSecret "tls" (by decide))) spec
      (some listenerSecret) (some (backendSecret "tls" (by decide))) := by
  refine ⟨_, ⟨rfl, rfl, rfl, rfl, rfl⟩, fun hasked => ?_⟩
  obtain ⟨ref, href, cert, hread, hlookup⟩ := (hasked _ rfl).1 "TCP-443" _ rfl "tls" rfl
  cases href
  have hcert : CertificateData.mk "" "a" "a" "" = cert := Option.some.inj (Except.ok.inj hread)
  rw [← hcert] at hlookup
  exact absurd hlookup (by decide)

end OciCcm.LoadBalancer
