import OciCcm.Go.Locks
import OciCcm.Go.Runs
import OciCcm.NetworkSecurityGroups.Limit

/-! # One managed group for a service

Calls of `EnsureLoadBalancer` for one service follow each other, some fail and
are made again, and in between the groups of load balancers are changed by
others. A second managed group is created when the lookup before the create
call misses the first one: the error of the list call is lost, a load balancer
without a list of groups is not asked, the service has moved to another
compartment, or the group carries the tag of a backend group.
-/

namespace OciCcm.NetworkSecurityGroups

open Go Kubernetes Client LoadBalancer
open Program (Ensures Makes Along exec)

variable {RuleSet : Type} {svc svc' : Service}

/-! ## Runs -/

/-- A call of `EnsureLoadBalancer` with the replies it gets, where fewer replies than it needs
are a call that is still under way; or a change of the groups of a load balancer by others. -/
inductive Event where
  | ensure (r : Request) (replies : List Reply)
  | attach (lbID : String) (nsgIds : Option (List String))

/-- The groups of a load balancer are changed. -/
def Cloud.attach (s : Cloud) (lbID : String) (nsgIds : Option (List String)) : Cloud :=
  match s.loadBalancers.lookup lbID with
  | none => s
  | some lb => { s with
    loadBalancers := s.loadBalancers.insert lbID { lb with networkSecurityGroupIds := nsgIds } }

def happen (lib : Library RuleSet) (cfg : ProviderConfig) (s : Cloud) : Event → Cloud
  | .ensure r replies => (exec serve (ensureLoadBalancer lib cfg r) s replies).1
  | .attach lbID nsgIds => s.attach lbID nsgIds

/-- The same service, perhaps with other annotations and ports. -/
structure SameService (svc svc' : Service) : Prop where
  ns : svc'.ns = svc.ns
  name : svc'.name = svc.name
  uid : svc'.uid = svc.uid

/-- The events of a run for one service that keeps its rules in groups. -/
def MayHappen (lib : Library RuleSet) (cfg : ProviderConfig) (svc : Service) (s : Cloud) :
    Event → Prop
  | .ensure r replies => SameService svc r.service ∧ requiresNsgManagement r.service = true ∧
    Along serve Legal (ensureLoadBalancer lib cfg r) s replies
  | .attach _ _ => True

namespace Cloud

/-- The group carries the tag of the service. -/
abbrev HasUid (s : Cloud) (uid id : String) : Prop :=
  ∃ nsg ∈ s.group id, nsg.freeformTags.lookup "ServiceUid" = some uid

/-- The group carries the name and the tag of a managed group of the service. -/
abbrev IsManaged (s : Cloud) (svc : Service) (id : String) : Prop :=
  ∃ nsg ∈ s.group id, nsg.displayName = generateNsgName svc ∧
    nsg.freeformTags.lookup "ServiceUid" = some svc.uid

def AtMostOne (s : Cloud) (svc : Service) : Prop :=
  ∀ id id', s.IsManaged svc id → s.IsManaged svc id' → id = id'

/-- Nothing in the cloud concerns the service yet. -/
structure NewTo (s : Cloud) (svc : Service) : Prop where
  wellFormed : s.WellFormed
  group : ∀ id, ¬ s.HasUid svc.uid id
  token : s.retryTokens.lookup svc.uid = none
  rules : ∀ id, ∀ rule ∈ s.rules id, rule.description ≠ some (ruleUid svc)

end Cloud

/-! ## When the lookup can be trusted -/

/-- The backend groups that the annotation names. -/
def backendNsgs (svc : Service) : List String := (getManagedBackendNSG svc).toOption.getD []

/-- Lists of groups do not fail, and a new group is not named as a backend group. -/
def Orderly (svc : Service) : Call → Reply → Prop
  | .listNetworkSecurityGroups _ _, f => f.error = none
  | .createNetworkSecurityGroup _ _ _, f => ∀ id ∈ backendNsgs svc, f.ids.head? ≠ some id
  | _, _ => True

instance (svc : Service) (q : Call) (f : Reply) : Decidable (Orderly svc q f) := by
  induction q using Call.casesOn <;> unfold Orderly <;> infer_instance

/-- The service stays in the compartment `c`, the load balancer that is found has a list of
groups, no managed group is named as a backend group, and the replies are orderly. -/
structure CarefulCall (lib : Library RuleSet) (cfg : ProviderConfig) (c : String) (s : Cloud)
    (r : Request) (replies : List Reply) : Prop where
  compartment : getLoadBalancerCompartment r.service cfg.compartmentID = c
  asked : ∀ lb ∈ s.findByName c (getLoadBalancerName cfg.lbNamePrefix r.service),
    lb.2.networkSecurityGroupIds ≠ none
  backends : ∀ id ∈ backendNsgs r.service, ¬ s.HasUid r.service.uid id
  orderly : Along serve (fun _ => Orderly r.service) (ensureLoadBalancer lib cfg r) s replies

def Careful (lib : Library RuleSet) (cfg : ProviderConfig) (c : String) (s : Cloud) :
    Event → Prop
  | .ensure r replies => CarefulCall lib cfg c s r replies
  | .attach _ _ => True

/-! ## The invariant -/

/-- What holds of the cloud between the calls for a service in the compartment `c`: there is at
most one group with the tag of the service, it is recognised and found by its name, the retry
token leads to no other group, and outside of it the rules of the service are ingress rules. -/
structure Tidy (svc : Service) (c : String) (s : Cloud) : Prop where
  wellFormed : s.WellFormed
  one : ∀ id id', s.HasUid svc.uid id → s.HasUid svc.uid id' → id = id'
  own : ∀ id nsg, s.group id = some nsg → nsg.freeformTags.lookup "ServiceUid" = some svc.uid →
    id ≠ "" ∧ nsg.displayName = generateNsgName svc ∧ nsg.compartmentId = c ∧
      nsg.freeformTags.deepEqual (managedTags svc.uid) = true
  token : ∀ id, s.retryTokens.lookup svc.uid = some id → s.group id ≠ none → s.HasUid svc.uid id
  ingress : ∀ id, ¬ s.HasUid svc.uid id → ∀ rule ∈ s.rules id,
    rule.description = some (ruleUid svc) → rule.direction = .ingress

theorem SameService.generateNsgName_eq (h : SameService svc svc') :
    generateNsgName svc' = generateNsgName svc := by
  rw [generateNsgName, generateNsgName, h.ns, h.name, h.uid]

theorem SameService.ruleUid_eq (h : SameService svc svc') :
    ruleUid svc' = ruleUid svc := by
  rw [ruleUid, ruleUid, h.uid]

section Invariant

variable {svc : Service} {c : String} {s s' : Cloud} {uid id : String}

theorem Cloud.hasUid_iff : s.HasUid uid id ↔
    ∃ nsg, s.nsgs.lookup id = some nsg ∧ nsg.freeformTags.lookup "ServiceUid" = some uid := by
  simp [HasUid, group]

theorem Cloud.hasUid_congr (h : s'.group id = s.group id) : s'.HasUid uid id ↔ s.HasUid uid id := by
  rw [HasUid, HasUid, h]

theorem Cloud.IsManaged.hasUid (h : s.IsManaged svc id) : s.HasUid svc.uid id := by
  obtain ⟨nsg, hnsg, -, htag⟩ := h
  exact ⟨nsg, hnsg, htag⟩

theorem Cloud.Recognised.hasUid (h : s.Recognised uid id) : s.HasUid uid id := by
  obtain ⟨nsg, hnsg, htags⟩ := h
  refine hasUid_iff.mpr ⟨nsg, hnsg, ?_⟩
  rw [GoMap.deepEqual_iff.mp htags]
  simp [managedTags, GoMap.ofPairs]

namespace Tidy

theorem of_newTo (h : s.NewTo svc) : Tidy svc c s where
  wellFormed := h.wellFormed
  one id _ hid := absurd hid (h.group id)
  own id nsg hnsg htag := absurd ⟨nsg, hnsg, htag⟩ (h.group id)
  token id hid := by
    rw [h.token] at hid
    cases hid
  ingress id _ rule hrule hdesc := absurd hdesc (h.rules id rule hrule)

theorem atMostOne (h : Tidy svc c s) : s.AtMostOne svc := fun id id' hid hid' =>
  h.one id id' hid.hasUid hid'.hasUid

theorem not_noneNamed (h : Tidy svc c s) (hid : s.HasUid svc.uid id) :
    ¬ s.NoneNamed (generateNsgName svc) c svc.uid := by
  intro hnone
  obtain ⟨nsg, hnsg, htag⟩ := Cloud.hasUid_iff.mp hid
  have hgroup : s.group id = some { nsg with securityRules := [] } := by
    rw [Cloud.group, hnsg, Option.map_some]
  obtain ⟨hne, hname, hcompartment, htags⟩ := h.own id _ hgroup htag
  exact (hnone id nsg hnsg hname hcompartment).elim hne fun hnot => hnot ⟨nsg, hnsg, htags⟩

theorem loadBalancers (h : Tidy svc c s) (lbs : GoMap AttachedLoadBalancer) :
    Tidy svc c { s with loadBalancers := lbs } :=
  ⟨⟨h.wellFormed.nodup, h.wellFormed.issued⟩, h.one, h.own, h.token, h.ingress⟩

theorem changed (h : Tidy svc c s) {nsg : String} {adds : List SecurityRule}
    {removes : List String} (hchanged : Changed s nsg adds removes s')
    (hadds : s.HasUid svc.uid nsg ∨ ∀ rule ∈ adds, rule.direction = .ingress) :
    Tidy svc c s' := by
  have huid : ∀ id, s'.HasUid svc.uid id ↔ s.HasUid svc.uid id := fun id =>
    Cloud.hasUid_congr (hchanged.group id)
  refine ⟨hchanged.wellFormed h.wellFormed, fun id id' hid hid' => ?_, fun id g hg => ?_,
    fun id hid hne => ?_, fun id hid rule hrule hdesc => ?_⟩
  · exact h.one id id' ((huid id).mp hid) ((huid id').mp hid')
  · exact h.own id g (hchanged.group id ▸ hg)
  · exact (huid id).mpr (h.token id (hchanged.retryTokens ▸ hid) (hchanged.group id ▸ hne))
  · rw [huid] at hid
    by_cases heq : id = nsg
    · subst heq
      obtain ⟨ids, hlen, -, -, -, hrules⟩ := hchanged.rules
      rw [hrules, List.mem_append] at hrule
      rcases hrule with hrule | hrule
      · exact h.ingress id hid rule (List.mem_filter.mp hrule).1 hdesc
      · refine hadds.resolve_left hid rule.toSecurityRule ?_
        exact map_toSecurityRule_store hlen ▸ List.mem_map_of_mem hrule
    · rw [hchanged.rules_of_ne id heq] at hrule
      exact h.ingress id hid rule hrule hdesc

/-- A group of others is tagged as a backend group. -/
theorem tagged (h : Tidy svc c s) {nsg : NetworkSecurityGroup} (etag : String)
    (hnsg : s.nsgs.lookup id = some nsg) (hid : ¬ s.HasUid svc.uid id) :
    (∀ id', (s.tagged id nsg etag).HasUid svc.uid id' ↔ s.HasUid svc.uid id') ∧
    Tidy svc c (s.tagged id nsg etag) := by
  have hlookup : ∀ id', id' ≠ id → (s.tagged id nsg etag).group id' = s.group id' := by
    intro id' hne
    rw [Cloud.group, Cloud.group, Cloud.tagged, AList.lookup_insert_ne hne]
  have huid : ∀ id', (s.tagged id nsg etag).HasUid svc.uid id' ↔ s.HasUid svc.uid id' := by
    intro id'
    by_cases heq : id' = id
    · subst heq
      rw [Cloud.hasUid_iff, Cloud.hasUid_iff, hnsg, Cloud.tagged, AList.lookup_insert]
      simp only [Option.some.injEq, exists_eq_left']
      rw [AList.lookup_insert_ne (by decide)]
    · exact Cloud.hasUid_congr (hlookup id' heq)
  refine ⟨huid, Cloud.wellFormed_tagged hnsg h.wellFormed, fun id' id'' hid' hid'' => ?_,
    fun id' g hg htag => ?_, fun id' hid' hne => (huid id').mpr (h.token id' hid' ?_),
    fun id' hid' rule hrule => ?_⟩
  · exact h.one id' id'' ((huid id').mp hid') ((huid id'').mp hid'')
  · have hne : id' ≠ id := fun heq => hid (heq ▸ (huid id').mp ⟨g, hg, htag⟩)
    exact h.own id' g (hlookup id' hne ▸ hg) htag
  · by_cases heq : id' = id
    · subst heq
      simp [Cloud.group, hnsg]
    · exact hlookup id' heq ▸ hne
  · rw [Cloud.rules_tagged hnsg] at hrule
    exact h.ingress id' (fun h' => hid' ((huid id').mpr h')) rule hrule

/-- The managed group is created where there is none. -/
theorem created (h : Tidy svc c s) (hnone : ∀ id, ¬ s.HasUid svc.uid id) (hid : id ≠ "")
    (hnew : id ∉ s.nsgs) (etag : String) :
    let s' := { s with
      nsgs := s.nsgs.insert id {
        displayName := generateNsgName svc, compartmentId := c
        freeformTags := managedTags svc.uid, etag }
      retryTokens := s.retryTokens.insert svc.uid id }
    (∀ id', s'.HasUid svc.uid id' ↔ id' = id) ∧ Tidy svc c s' := by
  intro s'
  have hlookup : ∀ id', id' ≠ id → s'.nsgs.lookup id' = s.nsgs.lookup id' := fun id' hne =>
    AList.lookup_insert_ne hne
  have hrules : ∀ id', s'.rules id' = s.rules id' := by
    intro id'
    by_cases heq : id' = id
    · subst heq
      have : s.nsgs.lookup id' = none := AList.lookup_eq_none.mpr hnew
      simp [s', Cloud.rules, this]
    · rw [Cloud.rules, Cloud.rules, hlookup id' heq]
  have huid : ∀ id', s'.HasUid svc.uid id' ↔ id' = id := by
    intro id'
    by_cases heq : id' = id
    · subst heq
      simp [s', Cloud.hasUid_iff, managedTags, GoMap.ofPairs]
    · rw [Cloud.hasUid_iff, hlookup id' heq, ← Cloud.hasUid_iff]
      simp [heq, hnone]
  refine ⟨huid, ⟨fun id' => hrules id' ▸ h.wellFormed.nodup id',
    fun id' rule hrule => h.wellFormed.issued id' rule (hrules id' ▸ hrule)⟩,
    fun id' id'' hid' hid'' => ((huid id').mp hid').trans ((huid id'').mp hid'').symm,
    fun id' g hg htag => ?_, fun id' hid' _ => (huid id').mpr ?_, fun id' hid' rule hrule => ?_⟩
  · obtain rfl := (huid id').mp ⟨g, hg, htag⟩
    obtain rfl : g = { displayName := generateNsgName svc, compartmentId := c
                       freeformTags := managedTags svc.uid, etag, securityRules := [] } := by
      simpa [s', Cloud.group, eq_comm] using hg
    exact ⟨hid, rfl, rfl, GoMap.deepEqual_iff.mpr fun _ => rfl⟩
  · simpa [s', eq_comm] using hid'
  · exact h.ingress id' (hnone id') rule (hrules id' ▸ hrule)

end Tidy

end Invariant

/-! ## Calls keep the invariant -/

/-- The invariant, with backend groups that are not the managed group. -/
structure Ready (svc : Service) (c : String) (backends : List String) (s : Cloud) : Prop where
  tidy : Tidy svc c s
  backends : ∀ id ∈ backends, ¬ s.HasUid svc.uid id

section Calls

variable {svc : Service} {c : String} {backends : List String} {s s' : Cloud} {id : String}
  {May : Cloud → Call → Reply → Prop}

theorem Ready.changed (h : Ready svc c backends s) {nsg : String} {adds : List SecurityRule}
    {removes : List String} (hchanged : Changed s nsg adds removes s')
    (hadds : s.HasUid svc.uid nsg ∨ ∀ rule ∈ adds, rule.direction = .ingress) :
    Ready svc c backends s' where
  tidy := h.tidy.changed hchanged hadds
  backends id hid := by
    rw [Cloud.hasUid_congr (hchanged.group id)]
    exact h.backends id hid

theorem Ready.tagged (h : Ready svc c backends s) (hid : id ∈ backends)
    {nsg : NetworkSecurityGroup} (etag : String) (hnsg : s.nsgs.lookup id = some nsg) :
    (∀ id', (s.tagged id nsg etag).HasUid svc.uid id' ↔ s.HasUid svc.uid id') ∧
    Ready svc c backends (s.tagged id nsg etag) := by
  obtain ⟨huid, htidy⟩ := h.tidy.tagged etag hnsg (h.backends id hid)
  exact ⟨huid, htidy, fun id' hid' h' => h.backends id' hid' ((huid id').mp h')⟩

/-- A specification for the service in the compartment `c`. -/
structure SpecOf (svc : Service) (c : String) (backends : List String) (spec : NsgSpec RuleSet) :
    Prop where
  service : SameService svc spec.service
  compartment : spec.compartment = c
  backends : spec.backendNsgId = backends

theorem SpecOf.addFrontendNsgToSpec {spec : NsgSpec RuleSet} (h : SpecOf svc c backends spec)
    (id : String) : SpecOf svc c backends (addFrontendNsgToSpec spec id) := by
  unfold NetworkSecurityGroups.addFrontendNsgToSpec
  split
  · exact h
  · exact ⟨h.service, h.compartment, h.backends⟩

/-- Replies that are orderly for a service with the given backend groups. -/
def OrderlyMay (May : Cloud → Call → Reply → Prop) (backends : List String) : Prop :=
  ∀ s q f, May s q f → Legal s q f ∧ match q with
    | .listNetworkSecurityGroups _ _ => f.error = none
    | .createNetworkSecurityGroup _ _ _ => ∀ id ∈ backends, f.ids.head? ≠ some id
    | _ => True

variable {spec : NsgSpec RuleSet} {lb : Option AttachedLoadBalancer}

theorem ensures_ensureFrontendNsg (hMay : OrderlyMay May backends)
    (hspec : SpecOf svc c backends spec) (hs : Ready svc c backends s) (hlb : ¬ NotAsked lb) :
    Ensures serve May (fun _ _ => Ready svc c backends) (fun result s' => Ready svc c backends s' ∧
      match result with
      | .ok (id, spec') => s'.HasUid svc.uid id ∧ SpecOf svc c backends spec'
      | .error _ => True) (ensureFrontendNsg spec lb) s := by
  refine Ensures.bind (ensures_findFrontendNsg hspec.service.uid (fun _ _ => hs)
    (fun found hfound => ?_) (fun hnone => ?_) fun _ _ _ => ⟨hs, trivial⟩)
  · dsimp only
    rw [if_pos hfound.1]
    obtain ⟨-, nsg, hnsg, htags, -⟩ := hfound
    exact ⟨hs, Cloud.Recognised.hasUid ⟨nsg, hnsg, htags⟩, hspec.addFrontendNsgToSpec found.1⟩
  · -- nothing has been missed: no group carries the tag
    have hnone : ∀ id, ¬ s.HasUid svc.uid id := by
      intro id hid
      rcases hnone with hasked | ⟨f, hf, hne⟩ | hnone
      · exact hlb hasked
      · exact hne (hMay _ _ _ hf).2
      · rw [hspec.service.generateNsgName_eq, hspec.compartment] at hnone
        exact hs.tidy.not_noneNamed hid hnone
    dsimp only
    rw [if_neg (not_not.mpr rfl), hspec.service.generateNsgName_eq, hspec.compartment,
      hspec.service.uid]
    split
    · exact ⟨hs, trivial⟩
    · intro f hf
      obtain ⟨⟨id, hid, hne, hnew⟩, hbackend⟩ := hMay _ _ _ hf
      have hremembered : s.remembered f svc.uid = none := by
        unfold Cloud.remembered
        split
        · refine Option.filter_eq_none_iff.mpr fun id' hid' hmem => hnone id' ?_
          refine hs.tidy.token id' hid' ?_
          simpa [Cloud.group, AList.lookup_eq_none] using hmem
        · rfl
      simp only [serve, hremembered]
      cases he : f.error with
      | some e => exact ⟨hs, hs, trivial⟩
      | none =>
        have hhead : f.ids.headD "" = id := by
          rw [List.headD_eq_head?_getD, hid, Option.getD_some]
        obtain ⟨huid, htidy⟩ := hs.tidy.created hnone hne hnew f.etag
        have hready : Ready svc c backends _ := ⟨htidy, fun id' hid' h' => hbackend id' hid' (by
          rw [(huid id').mp h']
          exact hid)⟩
        dsimp only
        rw [hhead]
        exact ⟨hready, hready, (huid id).mpr rfl, hspec.addFrontendNsgToSpec id⟩

theorem ensures_manageNsgs {o : RangeOrder.{0}} (hMay : OrderlyMay May backends)
    (hspec : SpecOf svc c backends spec) (hs : Ready svc c backends s) (hlb : ¬ NotAsked lb) :
    Ensures serve May (fun _ _ => Ready svc c backends) (fun _ => Ready svc c backends)
      (manageNsgs o spec lb) s := by
  refine Ensures.bind ((ensures_ensureFrontendNsg hMay hspec hs hlb).mono (fun _ _ _ h => h) ?_)
  rintro (e | ⟨id, spec'⟩) s₁ ⟨h₁, hok⟩
  · exact h₁
  obtain ⟨hid, hspec'⟩ := hok
  have hfill : Ensures serve May (fun _ _ => Ready svc c backends)
      (fun _ => Ready svc c backends) (fillNsgs o spec' id) s₁ := by
    refine (ensures_fillNsgs (I := fun s' => Ready svc c backends s' ∧ s'.HasUid svc.uid id)
      (fun s q f h => (hMay s q f h).1) (fun _ h => h.1.tidy.wellFormed) ⟨h₁, hid⟩ ?_ ?_ ?_).mono
      (fun _ _ _ h => h.1) fun _ _ h => h.1.1
    · intro s₂ nsg g etag hnsg h₂ hg
      obtain ⟨huid, hready⟩ := h₂.1.tagged (hspec'.backends ▸ hnsg) etag hg
      exact ⟨hready, (huid id).mpr h₂.2⟩
    · intro s₂ adds removes s₃ h₂ _ hchanged
      exact ⟨h₂.1.changed hchanged (.inl h₂.2), (Cloud.hasUid_congr (hchanged.group id)).mpr h₂.2⟩
    · intro s₂ nsg adds removes s₃ _ h₂ hadds hchanged
      exact ⟨h₂.1.changed hchanged (.inr fun rule hrule => (hadds rule hrule).1),
        (Cloud.hasUid_congr (hchanged.group id)).mpr h₂.2⟩
  refine Ensures.bind (hfill.mono (fun _ _ _ h => h) ?_)
  rintro (e | _) s₂ h₂
  · exact h₂
  · exact h₂

theorem serve_of_attaches {q : Call} {ids : List String} (hq : q.Attaches ids) (f : Reply) :
    ∃ lbs, (serve s q f).1 = { s with loadBalancers := lbs } := by
  cases q with
  | createLoadBalancer _ _ _ =>
    rw [serve]
    split
    · exact ⟨_, rfl⟩
    · exact ⟨_, rfl⟩
  | updateNetworkSecurityGroups lbID _ =>
    rw [serve]
    cases s.loadBalancers.lookup lbID with
    | none => exact ⟨_, rfl⟩
    | some lb =>
      dsimp only
      split
      · exact ⟨_, rfl⟩
      · exact ⟨_, rfl⟩
  | other _ => exact ⟨_, rfl⟩
  | _ => cases hq

variable {lib : Library RuleSet} {cfg : ProviderConfig} {r : Request}

theorem ensures_ensureWith {lb : Option (String × AttachedLoadBalancer)}
    (hMay : OrderlyMay May (backendNsgs r.service)) (hsame : SameService svc r.service)
    (hnsg : requiresNsgManagement r.service = true)
    (hcompartment : getLoadBalancerCompartment r.service cfg.compartmentID = c)
    (hs : Ready svc c (backendNsgs r.service) s) (hlb : ¬ NotAsked (lb.map Prod.snd)) :
    Ensures serve May (fun _ _ => Ready svc c (backendNsgs r.service))
      (fun _ => Ready svc c (backendNsgs r.service)) (ensureWith lib cfg r lb) s := by
  refine Ensures.bind (ensures_perform hs (fun _ => ?_) fun _ _ => hs)
  cases hspec : newNsgSpec lib cfg r with
  | error e => exact hs
  | ok spec =>
    dsimp only
    rw [Program.done_ok_bind, manageNsgsIfRequired, if_pos hnsg]
    obtain ⟨hservice, -, hspecCompartment, hbackends⟩ := newNsgSpec_ok hspec
    have hspecOf : SpecOf svc c (backendNsgs r.service) spec := by
      refine ⟨hservice ▸ hsame, hspecCompartment.trans hcompartment, ?_⟩
      rw [backendNsgs, hbackends hnsg]
      rfl
    refine Ensures.bind ((ensures_manageNsgs hMay hspecOf hs hlb).mono (fun _ _ _ h => h) ?_)
    rintro (e | spec') s₁ h₁
    · exact h₁
    · refine (makes_createOrUpdateLoadBalancer cfg spec' lb).ensures h₁ fun s₂ q f hq h₂ _ => ?_
      obtain ⟨lbs, hserve⟩ := serve_of_attaches (s := s₂) hq f
      have h₃ : Ready svc c (backendNsgs r.service) { s₂ with loadBalancers := lbs } :=
        ⟨h₂.tidy.loadBalancers lbs, h₂.backends⟩
      rw [hserve]
      exact ⟨h₃, h₃⟩

theorem ensures_ensureLoadBalancer
    (hMay : OrderlyMay May (backendNsgs r.service)) (hsame : SameService svc r.service)
    (hnsg : requiresNsgManagement r.service = true)
    (hcompartment : getLoadBalancerCompartment r.service cfg.compartmentID = c)
    (hs : Ready svc c (backendNsgs r.service) s)
    (hasked : ∀ lb ∈ s.findByName c (getLoadBalancerName cfg.lbNamePrefix r.service),
      lb.2.networkSecurityGroupIds ≠ none) :
    Ensures serve May (fun _ _ => Ready svc c (backendNsgs r.service))
      (fun _ => Ready svc c (backendNsgs r.service)) (ensureLoadBalancer lib cfg r) s := by
  refine Ensures.bind (ensures_perform hs (fun _ => ?_) fun _ _ => hs)
  refine fun f _ => ⟨hs, ?_⟩
  change Ensures serve May _ _ (ensureLookedUp lib cfg r (f.answer _)) s
  rw [hcompartment, Reply.answer]
  have hgone : ∀ e, Ensures serve May (fun _ _ => Ready svc c (backendNsgs r.service))
      (fun _ => Ready svc c (backendNsgs r.service)) (ensureLookedUp lib cfg r (.error e)) s := by
    intro e
    unfold ensureLookedUp
    dsimp only
    split
    · exact ensures_ensureWith hMay hsame hnsg hcompartment hs (by rintro ⟨_, h, -⟩; cases h)
    · exact hs
  cases f.error with
  | some e => exact hgone e
  | none =>
    cases hfind : s.findByName c (getLoadBalancerName cfg.lbNamePrefix r.service) with
    | none => exact hgone notFound
    | some lb =>
      refine Ensures.bind (ensures_perform hs (fun _ => ?_) fun _ _ => hs)
      refine ensures_ensureWith hMay hsame hnsg hcompartment hs ?_
      rintro ⟨lb', hlb', hnone⟩
      cases hlb'
      exact hasked lb hfind hnone

end Calls

/-! ## Whole runs -/

section Events

variable {lib : Library RuleSet} {cfg : ProviderConfig} {svc : Service} {c : String} {s : Cloud}

/-- An event keeps the invariant. -/
theorem Tidy.happen {e : Event} (h : Tidy svc c s) (hmay : MayHappen lib cfg svc s e)
    (hcareful : Careful lib cfg c s e) : Tidy svc c (happen lib cfg s e) := by
  cases e with
  | ensure r replies =>
    obtain ⟨hsame, hnsg, halong⟩ := hmay
    have hready : Ready svc c (backendNsgs r.service) s :=
      ⟨h, fun id hid => hsame.uid ▸ hcareful.backends id hid⟩
    have hMay : OrderlyMay (fun s q f => Legal s q f ∧ Orderly r.service q f)
        (backendNsgs r.service) := by
      rintro s q f ⟨hlegal, horderly⟩
      refine ⟨hlegal, ?_⟩
      cases q <;> exact horderly
    exact ((ensures_ensureLoadBalancer hMay hsame hnsg hcareful.compartment hready
      hcareful.asked).inv_exec hready (halong.and hcareful.orderly)).tidy
  | attach lbID nsgIds =>
    change Tidy svc c (s.attach lbID nsgIds)
    unfold Cloud.attach
    split
    · exact h
    · exact h.loadBalancers _

/-- In a run of careful calls the service has at most one managed group at any time. -/
theorem atMostOne_run (lib : Library RuleSet) (cfg : ProviderConfig) (svc : Service) (c : String)
    (s : Cloud) (events : List Event) (hnew : s.NewTo svc)
    (hrun : Runs.Along (happen lib cfg) (MayHappen lib cfg svc) s events)
    (hcareful : Runs.Along (happen lib cfg) (Careful lib cfg c) s events) :
    (events.foldl (happen lib cfg) s).AtMostOne svc := by
  have hinv : Tidy svc c (events.foldl (happen lib cfg) s) :=
    Runs.invariant_foldl (fun _ _ h hmay => h.happen hmay.1 hmay.2) (.of_newTo hnew)
      (hrun.and hcareful)
  exact hinv.atMostOne

theorem newTo_emptyGroups (ids : List String) (svc : Service) : (emptyGroups ids).NewTo svc where
  wellFormed := wellFormed_emptyGroups ids
  group id hid := by
    obtain ⟨nsg, hnsg, htag⟩ := Cloud.hasUid_iff.mp hid
    rw [lookup_emptyGroups] at hnsg
    split at hnsg
    · cases hnsg
      cases htag
    · cases hnsg
  token := rfl
  rules id rule hrule := by
    rw [rules_emptyGroups] at hrule
    cases hrule

def oneCompartment : ProviderConfig := { compartmentID := "compartment" }

/-- A first call, in which the managed group and its rule are created but creating the load
balancer fails. -/
def failedCall : Event :=
  .ensure (nsgRequest "" "") [.ok, .ok, .ok, .ok, { ids := ["nsg1"] }, .ok, .ok, .ok,
    { ids := ["rule1"] }, .ok, { error := some (.other "timeout"), ids := ["lb1"] }]

/-- The second call finds the group; then the group is detached. -/
def retriedCall : List Event :=
  [failedCall,
    .ensure (nsgRequest "" "")
      [.ok, .ok, .ok, .ok, .ok, .ok, .ok, .ok, .ok, { ids := ["lb1"] }, .ok],
    .attach "lb1" (some [])]

theorem atMostOne_retriedCall :
    (emptyGroups []).NewTo (nsgService "" "") ∧
    (retriedCall.foldl (happen .simple oneCompartment) (emptyGroups [])).AtMostOne
      (nsgService "" "") := by
  refine ⟨newTo_emptyGroups [] _, atMostOne_run _ _ _ "compartment" _ _ (newTo_emptyGroups [] _)
    ⟨⟨⟨rfl, rfl, rfl⟩, ?_, ?_⟩, ⟨⟨rfl, rfl, rfl⟩, ?_, ?_⟩, trivial, trivial⟩
    ⟨⟨?_, ?_, ?_, ?_⟩, ⟨?_, ?_, ?_, ?_⟩, trivial, trivial⟩⟩
  all_goals decide +kernel

/-- The list of groups fails in the second call, which creates a second group. -/
def duplicatingCall : List Event :=
  [failedCall,
    .ensure (nsgRequest "" "")
      [.ok, .ok, .ok, { error := some (.other "timeout") }, { ids := ["nsg2"] }]]

theorem twoManaged_duplicatingCall :
    (emptyGroups []).NewTo (nsgService "" "") ∧
    Runs.Along (happen .simple oneCompartment)
      (MayHappen .simple oneCompartment (nsgService "" "")) (emptyGroups []) duplicatingCall ∧
    ¬ (duplicatingCall.foldl (happen .simple oneCompartment) (emptyGroups [])).AtMostOne
      (nsgService "" "") := by
  refine ⟨newTo_emptyGroups [] _, ⟨⟨⟨rfl, rfl, rfl⟩, ?_, ?_⟩, ⟨⟨rfl, rfl, rfl⟩, ?_, ?_⟩, trivial⟩,
    fun h => absurd (h "nsg1" "nsg2" ?_ ?_) (by decide)⟩
  all_goals decide +kernel

end Events

/-! ## Calls that overlap -/

section Overlap

variable {ι : Type} [DecidableEq ι]

/-- The key of the lock of a service. -/
def loadBalancerService (svc : Service) : String := svc.ns ++ "/" ++ svc.name

/-- The moves of calls of `EnsureLoadBalancer` under the locks of their services. -/
def ensureStep (lib : Library RuleSet) (cfg : ProviderConfig) (r : ι → Request) :=
  Locks.step serve (fun i => loadBalancerService (r i).service) fun i =>
    ensureLoadBalancer lib cfg (r i)

/-- A call takes its lock when the load balancer that it will find has a list of groups and no
managed group is named as a backend group, and its replies are orderly. -/
abbrev EnsureMay (cfg : ProviderConfig) (c : String) (r : ι → Request) :
    Locks.Config ι String Cloud Call Answer String PUnit → ι × Reply → Prop :=
  Locks.May (fun i => loadBalancerService (r i).service)
    (fun i s => (∀ lb ∈ s.findByName c (getLoadBalancerName cfg.lbNamePrefix (r i).service),
      lb.2.networkSecurityGroupIds ≠ none) ∧
      ∀ id ∈ backendNsgs (r i).service, ¬ s.HasUid (r i).service.uid id)
    (fun i s q f => Legal s q f ∧ Orderly (r i).service q f)

/-- However the calls for a service overlap, it has at most one managed group at any time, and no
two of them are under way. -/
theorem atMostOne_overlap (lib : Library RuleSet) (cfg : ProviderConfig) (svc : Service)
    (c : String) (s : Cloud) (r : ι → Request) (hnew : s.NewTo svc)
    (hsame : ∀ i, SameService svc (r i).service)
    (hnsg : ∀ i, requiresNsgManagement (r i).service = true)
    (hcompartment : ∀ i, getLoadBalancerCompartment (r i).service cfg.compartmentID = c)
    (moves : List (ι × Reply))
    (hmay : Interleaving.Along (ensureStep lib cfg r) (EnsureMay cfg c r)
      (Locks.start fun _ => s) moves) :
    let run := Interleaving.run (ensureStep lib cfg r) (Locks.start fun _ => s) moves
    (run.shared.state (loadBalancerService svc)).AtMostOne svc ∧
      ∀ i j p p', run.locals i = .running p → run.locals j = .running p' → i = j := by
  intro run
  have hinv := Locks.inv_run (I := fun _ => Tidy svc c) (J := fun _ _ => Tidy svc c) ?_
    (fun _ => s) (fun _ => .of_newTo hnew) (fun _ => .of_newTo hnew) hmay
  · refine ⟨(hinv.always _).atMostOne, fun i j p p' hi hj => hinv.alone i j p p' hi hj ?_⟩
    simp only [loadBalancerService, (hsame _).ns, (hsame _).name]
  · rintro i results s ⟨hasked, hbackends⟩ h
    have hready : Ready svc c (backendNsgs (r i).service) s :=
      ⟨h, fun id hid => (hsame i).uid ▸ hbackends id hid⟩
    have hMay : OrderlyMay (fun s q f => Legal s q f ∧ Orderly (r i).service q f)
        (backendNsgs (r i).service) := by
      rintro s q f ⟨hlegal, horderly⟩
      refine ⟨hlegal, ?_⟩
      cases q <;> exact horderly
    exact (ensures_ensureLoadBalancer hMay (hsame i) (hnsg i) (hcompartment i) hready
      hasked).mono (fun _ _ _ h => h.tidy) fun _ _ h => h.tidy

end Overlap

/-- The first call creates the managed group while the second one is refused. -/
def overlappingCalls : List (Bool × Reply) :=
  [(true, .ok), (true, .ok), (true, .ok), (false, .ok), (true, .ok), (true, .ok),
    (true, { ids := ["nsg1"] })]

theorem atMostOne_overlappingCalls :
    (emptyGroups []).NewTo (nsgService "" "") ∧
    ((Interleaving.run (ensureStep .simple oneCompartment fun _ : Bool => nsgRequest "" "")
      (Locks.start fun _ => emptyGroups []) overlappingCalls).shared.state
        (loadBalancerService (nsgService "" ""))).AtMostOne (nsgService "" "") :=
  ⟨newTo_emptyGroups [] _, (atMostOne_overlap .simple oneCompartment (nsgService "" "")
    "compartment" _ (fun _ : Bool => nsgRequest "" "") (newTo_emptyGroups [] _)
    (fun _ => ⟨rfl, rfl, rfl⟩) (by decide +kernel) (by decide +kernel) overlappingCalls
    (by decide +kernel)).1⟩

end OciCcm.NetworkSecurityGroups
