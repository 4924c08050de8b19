import OciCcm.NetworkSecurityGroups.Convergence
import OciCcm.NetworkSecurityGroups.Service

/-! # How many groups a load balancer gets

The annotation may list five groups and a load balancer may have five. The room
for the managed group is checked only before the group is created, so a managed
group that exists already is added to five listed ones.
-/

namespace OciCcm.NetworkSecurityGroups

open Go Kubernetes Client LoadBalancer List
open Program (Ensures Makes Along Reaches exec calls)

variable {RuleSet : Type}

/-- The list of groups in a call that creates a load balancer or updates its groups has no
duplicates and keeps to the limit. -/
def Call.GroupsFit : Call → Prop
  | createLoadBalancer _ _ ids | updateNetworkSecurityGroups _ ids =>
    ids.Nodup ∧ ids.length ≤ maxNsgPerVnic
  | _ => True

instance : DecidablePred Call.GroupsFit := fun q => by
  induction q using Call.casesOn <;> unfold Call.GroupsFit <;> infer_instance

/-- Where `managed` is the managed group of the service, every run for it keeps to the limit. -/
def WithinLimit (lib : Library RuleSet) (cfg : ProviderConfig) (r : Request)
    (managed : Option String) : Prop :=
  ∀ s : Cloud, (∀ id, s.Recognised r.service.uid id ↔ id ∈ managed) →
    ∀ fs, Along serve Legal (ensureLoadBalancer lib cfg r) s fs →
      ∀ q ∈ calls serve (ensureLoadBalancer lib cfg r) s fs, q.GroupsFit

/-! ## Runs that keep to the limit -/

section Fits

variable {May : Cloud → Call → Reply → Prop} {s : Cloud} {α : Type}

/-- The calls of a program keep to the limit. -/
abbrev Fits (May : Cloud → Call → Reply → Prop) (post : Except String α → Cloud → Prop)
    (p : Program α) (s : Cloud) : Prop :=
  Ensures serve May (fun _ q _ => q.GroupsFit) post p s

theorem Call.groupsFit_of_isGroupCall {q : Call} (h : q.IsGroupCall) : q.GroupsFit := by
  cases q <;> trivial

theorem Call.groupsFit_of_attaches {q : Call} {ids : List String} (h : q.Attaches ids)
    (hids : ids.Nodup ∧ ids.length ≤ maxNsgPerVnic) : q.GroupsFit := by
  cases q with
  | createLoadBalancer _ _ ids' => exact (h : ids' = ids) ▸ hids
  | updateNetworkSecurityGroups _ ids' => exact (h : ids' = ids) ▸ hids
  | other _ => trivial
  | _ => cases h

theorem fits_of_makes {C : Call → Prop} {p : Program α} (h : Makes C p)
    (hC : ∀ q, C q → q.GroupsFit) : Fits May (fun _ _ => True) p s :=
  h.ensures trivial fun _ q _ hq _ _ => ⟨trivial, hC q hq⟩

theorem addFrontendNsgToSpec_fits {spec : NsgSpec RuleSet} {id : String}
    (hnodup : spec.networkSecurityGroupIds.Nodup)
    (hlength : spec.networkSecurityGroupIds.length ≤ maxNsgPerVnic)
    (hroom : spec.networkSecurityGroupIds.length < maxNsgPerVnic ∨
      id ∈ spec.networkSecurityGroupIds) :
    (addFrontendNsgToSpec spec id).networkSecurityGroupIds.Nodup ∧
    (addFrontendNsgToSpec spec id).networkSecurityGroupIds.length ≤ maxNsgPerVnic := by
  unfold addFrontendNsgToSpec
  split
  · exact ⟨hnodup, hlength⟩
  · next hid =>
    refine ⟨?_, ?_⟩
    · exact nodup_append.mpr ⟨hnodup, nodup_singleton _, fun a ha b hb heq =>
        hid (mem_singleton.mp hb ▸ heq ▸ ha)⟩
    · rw [length_append]
      exact hroom.resolve_right hid

variable {spec : NsgSpec RuleSet}

theorem fits_manageNsgs {o : RangeOrder.{0}} {lb : Option AttachedLoadBalancer}
    (hnodup : spec.networkSecurityGroupIds.Nodup)
    (hlength : spec.networkSecurityGroupIds.length ≤ maxNsgPerVnic)
    (hroom : ∀ id, s.Recognised spec.service.uid id →
      spec.networkSecurityGroupIds.length < maxNsgPerVnic ∨ id ∈ spec.networkSecurityGroupIds) :
    Fits May (fun r _ => ∀ spec', r = .ok spec' → spec'.networkSecurityGroupIds.Nodup ∧
      spec'.networkSecurityGroupIds.length ≤ maxNsgPerVnic) (manageNsgs o spec lb) s := by
  -- what follows the managed group makes no call about load balancers
  have hfill : ∀ id s', (spec.networkSecurityGroupIds.length < maxNsgPerVnic ∨
      id ∈ spec.networkSecurityGroupIds) → Fits May (fun r _ => ∀ spec', r = .ok spec' →
        spec'.networkSecurityGroupIds.Nodup ∧
        spec'.networkSecurityGroupIds.length ≤ maxNsgPerVnic)
        (fillNsgs o (addFrontendNsgToSpec spec id) id >>= fun _ =>
          pure (addFrontendNsgToSpec spec id)) s' := by
    intro id s' h
    refine Ensures.bind ((fits_of_makes (makes_fillNsgs _ _ _) fun _ =>
      Call.groupsFit_of_isGroupCall).mono (fun _ _ _ h => h) ?_)
    rintro (e | _) s₁ -
    · rintro _ ⟨⟩
    · rintro _ ⟨⟩
      exact addFrontendNsgToSpec_fits hnodup hlength h
  refine Ensures.bind (Ensures.bind (ensures_findFrontendNsg rfl (fun q hq => ?_)
    (fun found hfound => ?_) (fun _ => ?_) fun _ _ _ _ h => nomatch h))
  · cases q <;> trivial
  · dsimp only
    rw [if_pos hfound.1]
    obtain ⟨-, nsg, hnsg, htags, -⟩ := hfound
    exact hfill found.1 s (hroom _ ⟨nsg, hnsg, htags⟩)
  · dsimp only
    rw [if_neg (not_not.mpr rfl)]
    split
    · rintro _ ⟨⟩
    · next hlt =>
      refine fun f _ => ⟨trivial, ?_⟩
      cases (serve s (.createNetworkSecurityGroup spec.compartment (generateNsgName spec.service)
        spec.service.uid) f).2 with
      | error e => rintro _ ⟨⟩
      | ok id => exact hfill id _ (.inl (Nat.lt_of_not_le hlt))

variable {lib : Library RuleSet} {cfg : ProviderConfig} {r : Request}

theorem fits_ensureWith {lb : Option (String × AttachedLoadBalancer)}
    (hnsg : requiresNsgManagement r.service = true)
    (hroom : ∀ spec, newNsgSpec lib cfg r = .ok spec → ∀ id, s.Recognised r.service.uid id →
      spec.networkSecurityGroupIds.length < maxNsgPerVnic ∨ id ∈ spec.networkSecurityGroupIds) :
    Fits May (fun _ _ => True) (ensureWith lib cfg r lb) s := by
  refine Ensures.bind (ensures_perform trivial (fun _ => ?_) fun _ _ => trivial)
  cases hspec : newNsgSpec lib cfg r with
  | error e => trivial
  | ok spec =>
    dsimp only
    rw [Program.done_ok_bind, manageNsgsIfRequired, if_pos hnsg]
    obtain ⟨hservice, hids, -, -⟩ := newNsgSpec_ok hspec
    obtain ⟨hnodup, -, hlength⟩ := nsgIdsOf_ok hids
    refine Ensures.bind ((fits_manageNsgs hnodup (hlength _ rfl) fun id hid =>
      hroom spec hspec id (hservice ▸ hid)).mono (fun _ _ _ h => h) ?_)
    rintro (e | spec') s' hfits
    · trivial
    · exact fits_of_makes (makes_createOrUpdateLoadBalancer cfg spec' lb) fun _ h =>
        Call.groupsFit_of_attaches h (hfits spec' rfl)

theorem fits_ensureLoadBalancer (hnsg : requiresNsgManagement r.service = true)
    (hroom : ∀ spec, newNsgSpec lib cfg r = .ok spec → ∀ id, s.Recognised r.service.uid id →
      spec.networkSecurityGroupIds.length < maxNsgPerVnic ∨ id ∈ spec.networkSecurityGroupIds) :
    Fits May (fun _ _ => True) (ensureLoadBalancer lib cfg r) s := by
  refine Ensures.bind (ensures_perform trivial (fun _ => ?_) fun _ _ => trivial)
  refine fun f _ => ⟨trivial, ?_⟩
  change Fits May _ (ensureLookedUp lib cfg r _) s
  unfold ensureLookedUp
  split
  · split
    · exact fits_ensureWith hnsg hroom
    · trivial
  · exact Ensures.bind (ensures_perform trivial (fun _ => fits_ensureWith hnsg hroom) fun _ _ =>
      trivial)

end Fits

/-! ## A run that exceeds the limit -/

section Exceeds

variable {lib : Library RuleSet} {cfg : ProviderConfig} {r : Request} {spec : NsgSpec RuleSet}
  {id : String} {backends : List String} {svc : Service}

/-- The backend groups of a service and its managed group; there is no load balancer. -/
def managedGroup (cfg : ProviderConfig) (svc : Service) (backends : List String) (id : String) :
    Cloud :=
  { emptyGroups backends with
    nsgs := (emptyGroups backends).nsgs.insert id {
      displayName := generateNsgName svc
      compartmentId := getLoadBalancerCompartment svc cfg.compartmentID
      freeformTags := managedTags svc.uid
      etag := "" } }

theorem lookup_managedGroup (id' : String) :
    (managedGroup cfg svc backends id).nsgs.lookup id' =
      if id' = id then some {
        displayName := generateNsgName svc
        compartmentId := getLoadBalancerCompartment svc cfg.compartmentID
        freeformTags := managedTags svc.uid
        etag := "" }
      else if id' ∈ backends then some ⟨"", "", ∅, "", []⟩ else none := by
  rw [managedGroup, GoMap.lookup_insert_eq_ite, lookup_emptyGroups]

theorem recognised_managedGroup {id' : String} :
    (managedGroup cfg svc backends id).Recognised svc.uid id' ↔ id' = id := by
  rw [Cloud.Recognised, lookup_managedGroup]
  by_cases h : id' = id
  · simp [h, GoMap.deepEqual_iff]
  · simp only [h, if_false, iff_false]
    rintro ⟨nsg, hnsg, htags⟩
    split at hnsg
    · cases hnsg
      have := GoMap.deepEqual_iff.mp htags "CreatedBy"
      exact absurd this (by simp [managedTags, GoMap.ofPairs])
    · cases hnsg

theorem rules_managedGroup (id' : String) :
    (managedGroup cfg svc backends id).rules id' = [] := by
  rw [Cloud.rules, lookup_managedGroup]
  split
  · rfl
  · split <;> rfl

theorem wellFormed_managedGroup :
    (managedGroup cfg svc backends id).WellFormed where
  nodup id' := by
    rw [rules_managedGroup]
    exact nodup_nil
  issued id' := by
    rw [rules_managedGroup]
    simp

abbrev NoErrors (s : Cloud) (q : Call) (f : Reply) : Prop := Legal s q f ∧ f.error = none

theorem not_mayFail_noErrors {s : Cloud} {q : Call} : ¬ MayFail NoErrors s q := fun ⟨_, hf, he⟩ =>
  he hf.2

/-- Without errors, the groups that exist are brought up to date. -/
theorem ensures_fillNsgs_noErrors {s : Cloud} {o : RangeOrder.{0}} {frontendNsgId : String}
    (hs : s.WellFormed)
    (hgroups : ∀ id ∈ frontendNsgId :: spec.backendNsgId, id ≠ "" ∧ s.group id ≠ none) :
    Ensures serve NoErrors (fun _ _ _ => True) (fun r _ => r = .ok ⟨⟩)
      (fillNsgs o spec frontendNsgId) s := by
  let I : Cloud → Prop := fun s' => s'.WellFormed ∧ ∀ id, s.group id ≠ none → s'.group id ≠ none
  have hchanged : ∀ s₁ nsg adds removes s₂, I s₁ → Changed s₁ nsg adds removes s₂ → I s₂ :=
    fun s₁ nsg adds removes s₂ h₁ h => ⟨h.wellFormed h₁.1, fun id hid => h.group id ▸ h₁.2 id hid⟩
  refine (ensures_fillNsgs (I := I) (fun _ _ _ h => h.1) (fun _ h => h.1) ⟨hs, fun _ h => h⟩ ?_
    (fun s₁ adds removes s₂ h₁ _ => hchanged s₁ _ adds removes s₂ h₁)
    fun s₁ nsg adds removes s₂ _ h₁ _ => hchanged s₁ nsg adds removes s₂ h₁).mono
      (fun _ _ _ _ => trivial) ?_
  · intro s₁ nsg g etag _ h₁ hg
    refine ⟨Cloud.wellFormed_tagged hg h₁.1, fun id hid => ?_⟩
    have hid' := h₁.2 id hid
    rw [Cloud.group, ne_eq, Option.map_eq_none_iff] at hid' ⊢
    rw [Cloud.tagged, GoMap.lookup_insert_eq_ite]
    split
    · simp
    · exact hid'
  · rintro (e | _) s' ⟨-, h⟩
    · obtain ⟨nsg, hnsg, hempty | ⟨s₁, h₁, hnone | ⟨s₂, q, f, hf, hne⟩⟩⟩ := h
      · exact absurd hempty (hgroups nsg hnsg).1
      · exact absurd hnone (h₁.2 nsg (hgroups nsg hnsg).2)
      · exact absurd hf.2 hne
    · rfl

/-- Without errors and without a load balancer, the groups are managed with the managed group
that exists. -/
theorem ensures_manageNsgs_noErrors {o : RangeOrder.{0}} (hservice : spec.service = r.service)
    (hcompartment : spec.compartment = getLoadBalancerCompartment r.service cfg.compartmentID)
    (hempty : "" ∉ spec.backendNsgId) (hid : id ≠ "") :
    Ensures serve NoErrors (fun _ _ _ => True)
      (fun result _ => result = .ok (addFrontendNsgToSpec spec id)) (manageNsgs o spec none)
      (managedGroup cfg r.service spec.backendNsgId id) := by
  have hbackends : (addFrontendNsgToSpec spec id).backendNsgId = spec.backendNsgId := by
    unfold addFrontendNsgToSpec
    split <;> rfl
  refine Ensures.bind (Ensures.bind (ensures_findFrontendNsg (congrArg Service.uid hservice)
    (fun _ _ => trivial) (fun found hfound => ?_) (fun hnone => ?_)
    fun _ h => absurd h not_mayFail_noErrors))
  · obtain ⟨hne, nsg, hlookup, htags, -⟩ := hfound
    obtain rfl := recognised_managedGroup.mp ⟨nsg, hlookup, htags⟩
    dsimp only
    rw [if_pos hne]
    refine Ensures.bind ((ensures_fillNsgs_noErrors wellFormed_managedGroup ?_).mono
      (fun _ _ _ h => h) ?_)
    · rw [hbackends]
      intro id' hid'
      rw [Cloud.group, lookup_managedGroup]
      rcases mem_cons.mp hid' with rfl | hid'
      · simpa using hid
      · refine ⟨fun h => hempty (h ▸ hid'), ?_⟩
        simp only [hid', if_true]
        split <;> simp
    · rintro _ s' rfl
      rfl
  · -- the managed group has the name and the compartment of the service
    rcases hnone with ⟨_, h, -⟩ | hfail | hnone
    · cases h
    · exact absurd hfail not_mayFail_noErrors
    · rcases hnone id _ ((lookup_managedGroup id).trans (if_pos rfl))
        (congrArg generateNsgName hservice).symm hcompartment.symm with hid' | hnot
      · exact absurd hid' hid
      · exact absurd (recognised_managedGroup.mpr rfl) hnot

theorem reaches_createLoadBalancer (hnsg : requiresNsgManagement r.service = true)
    (hspec : newNsgSpec lib cfg r = .ok spec) (hid : id ≠ "") :
    Reaches serve NoErrors (· = .createLoadBalancer (addFrontendNsgToSpec spec id).compartment
        (addFrontendNsgToSpec spec id).name (addFrontendNsgToSpec spec id).networkSecurityGroupIds)
      (ensureLoadBalancer lib cfg r) (managedGroup cfg r.service spec.backendNsgId id) := by
  obtain ⟨hservice, -, hcompartment, hbackends⟩ := newNsgSpec_ok hspec
  obtain ⟨-, hempty, -⟩ := nsgIdsOf_ok (hbackends hnsg)
  refine Reaches.bind exists_legal (ensures_perform trivial (fun b => ⟨b, rfl, ?_⟩) fun h =>
    absurd h not_mayFail_noErrors)
  refine @Reaches.next _ _ _ _ _ _ _ _ _ _ _ _ Reply.ok ⟨trivial, rfl⟩ ?_
  change Reaches serve NoErrors _ (ensureWith lib cfg r none)
    (managedGroup cfg r.service spec.backendNsgId id)
  refine Reaches.bind exists_legal (ensures_perform trivial (fun b => ⟨b, rfl, ?_⟩) fun h =>
    absurd h not_mayFail_noErrors)
  rw [hspec, Program.done_ok_bind, Option.map_none, manageNsgsIfRequired, if_pos hnsg]
  refine Reaches.bind exists_legal ((ensures_manageNsgs_noErrors hservice hcompartment hempty
    hid).mono (fun _ _ _ h => h) ?_)
  rintro _ s' rfl
  refine ⟨_, rfl, ?_⟩
  obtain ⟨f, hf⟩ := exists_legal s' (.createLoadBalancer (addFrontendNsgToSpec spec id).compartment
    (addFrontendNsgToSpec spec id).name (addFrontendNsgToSpec spec id).networkSecurityGroupIds)
  exact @Reaches.next _ _ _ _ _ _ _ _ _ _ _ _ Reply.ok ⟨trivial, rfl⟩ (Reaches.call hf rfl)

end Exceeds

/-! ## The limit -/

/-- Runs keep to the limit exactly if fewer groups are listed than a load balancer may have or
the managed group is one of them, whenever the specification can be built. -/
theorem withinLimit_iff (lib : Library RuleSet) (cfg : ProviderConfig) (r : Request)
    (managed : Option String) (hnsg : requiresNsgManagement r.service = true)
    (hmanaged : managed ≠ some "") :
    WithinLimit lib cfg r managed ↔
      ((∃ spec, newNsgSpec lib cfg r = .ok spec) →
        ∀ ids, getNetworkSecurityGroupIds r.service = .ok ids →
          ∀ id ∈ managed, ids.length < maxNsgPerVnic ∨ id ∈ ids) := by
  constructor
  · rintro h ⟨spec, hspec⟩ ids hids id rfl
    obtain ⟨-, hids', -, -⟩ := newNsgSpec_ok hspec
    obtain rfl := Except.ok.inj (hids.symm.trans hids')
    have hid : id ≠ "" := fun h => hmanaged (h ▸ rfl)
    obtain ⟨fs, halong, q, hq, rfl⟩ := reaches_createLoadBalancer hnsg hspec hid
    have hfits := h (managedGroup cfg r.service spec.backendNsgId id)
      (fun id' => recognised_managedGroup.trans (by rw [Option.mem_some, eq_comm]))
      fs (halong.mono fun _ _ _ h => h.1) _ hq
    by_contra hnot
    rw [not_or] at hnot
    have hadd : (addFrontendNsgToSpec spec id).networkSecurityGroupIds =
        spec.networkSecurityGroupIds ++ [id] := by
      rw [addFrontendNsgToSpec, if_neg hnot.2]
    have hlength := hfits.2
    rw [hadd, length_append] at hlength
    exact hnot.1 hlength
  · intro h s hs fs halong q hq
    refine (fits_ensureLoadBalancer hnsg ?_).of_mem_calls halong hq
    intro spec hspec id hid
    obtain ⟨-, hids, -, -⟩ := newNsgSpec_ok hspec
    exact h ⟨spec, hspec⟩ _ hids id ((hs id).mp hid)

/-- A service that lists the given groups and has its rules in groups. -/
def nsgService (groups backends : String) : Service where
  name := "web"
  uid := "uid"
  ports := [⟨.tcp, 80, 30080⟩]
  annotations := GoMap.ofPairs [
    (serviceAnnotationLoadBalancerSecurityRuleManagementMode, "NSG"),
    (serviceAnnotationLoadBalancerNetworkSecurityGroups, groups),
    (serviceAnnotationBackendSecurityRuleManagement, backends)]

def nsgRequest (groups backends : String) : Request where
  service := nsgService groups backends
  ipVersions := {
    ipFamilies := [.ipv4]
    ipFamilyPolicy := .singleStack
    lbEndpointIpVersion := .ipv4
    listenerBackendIpVersion := [.ipv4] }

/-- With one listed group there is room for the managed one. -/
theorem withinLimit_oneListed : requiresNsgManagement (nsgRequest "nsg1" "").service = true ∧
    WithinLimit .simple { compartmentID := "compartment" } (nsgRequest "nsg1" "") (some "managed") := by
  refine ⟨by decide +kernel, (withinLimit_iff _ _ _ _ (by decide +kernel) (by decide)).mpr ?_⟩
  rintro - ids hids id -
  have hone : getNetworkSecurityGroupIds (nsgRequest "nsg1" "").service = .ok ["nsg1"] := by
    decide +kernel
  obtain rfl := Except.ok.inj (hids.symm.trans hone)
  exact .inl (by decide)

/-- Five groups are listed and the managed group is left from an earlier call: the load
balancer is to be created with six groups. -/
theorem exceedsLimit_fiveListed : ¬ WithinLimit .simple { compartmentID := "compartment" }
    (nsgRequest "nsg1,nsg2,nsg3,nsg4,nsg5" "") (some "managed") := by
  intro h
  have hrun := h (managedGroup { compartmentID := "compartment" }
      (nsgService "nsg1,nsg2,nsg3,nsg4,nsg5" "") [] "managed")
    (fun id => recognised_managedGroup.trans (by rw [Option.mem_some, eq_comm]))
    [.ok, .ok, .ok, .ok, .ok, .ok, .ok, .ok, { ids := ["rule"] }, .ok, { ids := ["lb"] }]
    (by decide +kernel)
  exact absurd hrun (by decide +kernel)

end OciCcm.NetworkSecurityGroups
