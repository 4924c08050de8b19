import OciCcm.NetworkSecurityGroups.Managed

/-! # Deleting the load balancer of a service

`EnsureLoadBalancerDeleted` returns nil and leaves something behind when the
load balancer is gone already and the backend groups still hold rules, when the
managed group is no longer attached or its lookup fails, and when the list of
groups fails. Otherwise nothing of the service is left.
-/

namespace OciCcm.NetworkSecurityGroups

open Go Kubernetes Client LoadBalancer List
open Program (Ensures Makes Along exec)

variable {RuleSet : Type}

/-- No group carries the tag of the service, and no rule of the service is left in the given
backend groups. -/
structure Cloud.Clean (s : Cloud) (svc : Service) (backends : List String) : Prop where
  group : ∀ id, ¬ s.HasUid svc.uid id
  rules : ∀ id ∈ backends, ∀ rule ∈ s.rules id, rule.description ≠ some (ruleUid svc)

/-! ## When nothing is left behind -/

/-- Lists of groups do not fail, an existing load balancer is not reported missing, and the
managed group can be read. -/
def Reliable (uid : String) (s : Cloud) : Call → Reply → Prop
  | .listNetworkSecurityGroups _ _, f => f.error = none
  | .getLoadBalancerByName compartmentId name, f =>
    s.findByName compartmentId name ≠ none → ∀ e ∈ f.error, isNotFound e = false
  | .getNetworkSecurityGroup id, f => s.HasUid uid id → f.error = none
  | _, _ => True

instance (uid : String) (s : Cloud) (q : Call) (f : Reply) : Decidable (Reliable uid s q f) := by
  induction q using Call.casesOn <;> unfold Reliable <;> infer_instance

/-- The service is in the compartment `c`, no managed group is named as a backend group, the
managed group is attached to the load balancer if there is one, and if there is none the
backend groups hold no rule of the service; and the replies are reliable. -/
structure CarefulDeletion (lib : Library RuleSet) (cfg : ProviderConfig) (c : String) (s : Cloud)
    (r : Request) (replies : List Reply) : Prop where
  compartment : getLoadBalancerCompartment r.service cfg.compartmentID = c
  backends : ∀ id ∈ backendNsgs r.service, ¬ s.HasUid r.service.uid id
  attached : ∀ lb ∈ s.findByName c (getLoadBalancerName cfg.lbNamePrefix r.service),
    ∀ id ∈ s.nsgs.keys, s.HasUid r.service.uid id → id ∈ lb.2.networkSecurityGroupIds.getD []
  gone : s.findByName c (getLoadBalancerName cfg.lbNamePrefix r.service) = none →
    ∀ id ∈ backendNsgs r.service, ∀ rule ∈ s.rules id, rule.description ≠ some (ruleUid r.service)
  reliable : Along serve (Reliable r.service.uid) (ensureLoadBalancerDeleted lib cfg r) s replies

/-! ## The steps of a deletion -/

section Steps

variable {svc : Service} {c uid : String} {backends : List String} {s s' : Cloud}
  {found : String × Option String} {May : Cloud → Call → Reply → Prop}

/-- The group that is going to be deleted is the only one with the tag of the service. -/
def Target (uid : String) (found : String × Option String) (s : Cloud) : Prop :=
  ∀ id, s.HasUid uid id → found.1 = id ∧ id ≠ "" ∧ found.2 ≠ none

theorem Target.congr (h : Target uid found s) (hgroup : ∀ id, s'.group id = s.group id) :
    Target uid found s' := fun id hid => h id ((Cloud.hasUid_congr (hgroup id)).mp hid)

theorem Tidy.target_of_found (h : Tidy svc c s) (hfound : s.Found svc.uid found) :
    Target svc.uid found s := by
  obtain ⟨hne, nsg, hnsg, htags, hetag⟩ := hfound
  intro id hid
  have heq := h.one _ id (Cloud.Recognised.hasUid ⟨nsg, hnsg, htags⟩) hid
  exact ⟨heq, heq ▸ hne, by simp [hetag]⟩

theorem Tidy.recognised {id : String} (h : Tidy svc c s) (hid : s.HasUid svc.uid id) :
    id ≠ "" ∧ s.Recognised svc.uid id := by
  obtain ⟨nsg, hnsg, htag⟩ := Cloud.hasUid_iff.mp hid
  have hgroup : s.group id = some { nsg with securityRules := [] } := by
    rw [Cloud.group, hnsg, Option.map_some]
  obtain ⟨hne, -, -, htags⟩ := h.own id _ hgroup htag
  exact ⟨hne, nsg, hnsg, htags⟩

/-- The groups are as before, and the backend groups have no rule of the service. -/
abbrev RulesRemoved (svc : Service) (c : String) (backends : List String) (s s' : Cloud) : Prop :=
  Tidy svc c s' ∧ (∀ id, s'.group id = s.group id) ∧
    ∀ id ∈ backends, ∀ rule ∈ s'.rules id, rule.description ≠ some (ruleUid svc)

/-- If the program returns nil, nothing of the service is left. -/
abbrev Cleans (May : Cloud → Call → Reply → Prop) (svc : Service) (backends : List String) :
    Program PUnit → Cloud → Prop :=
  Ensures serve May (fun _ _ _ => True) fun result s' => result = .ok ⟨⟩ → s'.Clean svc backends

/-- The rules of the service are removed from the backend groups. -/
theorem ensures_removeBackendSecurityGroupRules {components : SecurityRuleComponents}
    (hMay : ∀ s q f, May s q f → Legal s q f) (huid : components.serviceUid = ruleUid svc)
    (hs : Ready svc c components.backendNsgOcids s) :
    Ensures serve May (fun _ _ _ => True) (fun result s' => result = .ok ⟨⟩ →
      RulesRemoved svc c components.backendNsgOcids s s')
      (removeBackendSecurityGroupRules components) s := by
  rw [removeBackendSecurityGroupRules_eq]
  -- the groups that the loop has gone through are clean
  refine @Ensures.forM _ _ _ _ _ serve May _ s _ _ _ _ (RulesRemoved svc c · s)
    ⟨hs.tidy, fun _ => rfl, by simp⟩ ?_ fun _ h _ => h
  rintro passed nsg after s₁ hsplit ⟨h₁, hgroup, hclean⟩
  have hnsg : ¬ s₁.HasUid svc.uid nsg := by
    rw [Cloud.hasUid_congr (hgroup nsg)]
    exact hs.backends nsg (hsplit ▸ mem_append_right _ mem_cons_self)
  have hplans := plans_cleanup components.serviceUid (s₁.rules nsg)
  refine ensures_cleanupPass hMay h₁.wellFormed ⟨fun _ _ => trivial, fun _ _ _ _ _ => trivial,
    fun s₂ _ hchanged => ?_, fun _ _ _ _ _ _ _ h => nomatch h⟩
  refine ⟨h₁.changed hchanged (.inr (by simp)), fun id => (hchanged.group id).trans (hgroup id), ?_⟩
  obtain ⟨ids, -, -, -, -, hrules⟩ := hchanged.rules
  intro id hid rule hrule hdesc
  by_cases heq : id = nsg
  · subst heq
    rw [hrules, store, zipWith_nil_left, append_nil] at hrule
    obtain ⟨hmem, hid⟩ := mem_filter.mp hrule
    have hdirection := h₁.ingress id hnsg rule hmem hdesc
    refine of_decide_eq_true hid ((hplans.remove_iff _).mpr ?_)
    exact ⟨rule, hmem, rfl, huid ▸ hdesc, hdirection, rfl⟩
  · rw [hchanged.rules_of_ne id heq] at hrule
    refine hclean id ?_ rule hrule hdesc
    exact (mem_append.mp hid).resolve_right fun h => heq (mem_singleton.mp h)

/-- When the deletion of the managed group returns nil, nothing is left. -/
theorem ensures_deleteFrontendNsg (htarget : Target svc.uid found s)
    (hrules : ∀ id ∈ backends, ∀ rule ∈ s.rules id, rule.description ≠ some (ruleUid svc)) :
    Cleans May svc backends (deleteFrontendNsg found) s := by
  obtain ⟨id, etag⟩ := found
  have hnone : (id = "" ∨ etag = none) → s.Clean svc backends := fun h =>
    ⟨fun id' hid' => by
      obtain ⟨rfl, hne, hetag⟩ := htarget id' hid'
      exact h.elim hne hetag, hrules⟩
  cases etag with
  | none => exact fun _ => hnone (.inr rfl)
  | some etag =>
    rw [deleteFrontendNsg]
    split
    · refine fun f _ => ⟨trivial, ?_⟩
      cases hnsg : s.nsgs.lookup id with
      | none =>
        simp only [serve, hnsg, Reply.answer]
        cases f.error <;> rintro ⟨⟩
      | some nsg =>
        by_cases hetag : nsg.etag = etag
        · cases he : f.error with
          | some e =>
            simp only [serve, hnsg, hetag, if_true, Reply.answer, he]
            rintro ⟨⟩
          | none =>
            simp only [serve, hnsg, hetag, if_true, Reply.answer, he, Reply.Writes, true_or]
            intro _
            refine ⟨fun id' hid' => ?_, fun id' hid' rule hrule => ?_⟩
            · rw [Cloud.hasUid_iff] at hid'
              obtain ⟨g, hg, htag⟩ := hid'
              rw [GoMap.lookup_erase_eq_ite] at hg
              split at hg
              · cases hg
              · next hne =>
                exact hne (htarget id' (Cloud.hasUid_iff.mpr ⟨g, hg, htag⟩)).1.symm
            · refine hrules id' hid' rule ?_
              rw [Cloud.rules, GoMap.lookup_erase_eq_ite] at hrule
              split at hrule
              · cases hrule
              · exact hrule
        · simp only [serve, hnsg, hetag, if_false, Reply.answer]
          cases f.error <;> rintro ⟨⟩
    · next hid => exact fun _ => hnone (.inl (not_not.mp hid))

variable {lib : Library RuleSet} {cfg : ProviderConfig} {r : Request}

theorem ensures_cleanupSecurityRules (hMay : ∀ s q f, May s q f → Legal s q f)
    (hsame : SameService svc r.service) (hs : Ready svc c (backendNsgs r.service) s) (id : String) :
    Ensures serve May (fun _ _ _ => True) (fun result s' => result = .ok ⟨⟩ →
      RulesRemoved svc c (backendNsgs r.service) s s')
      (cleanupSecurityRulesForLoadBalancerDelete lib r id) s := by
  refine Ensures.bind (ensures_perform trivial (fun _ => ?_) fun _ _ h => nomatch h)
  refine Ensures.done_bind (fun ids hids => Ensures.done_bind (fun isPreserveSource _ =>
    Ensures.done_bind (fun ports _ => ?_) ?_) ?_) ?_
  · have hbackends : backendNsgs r.service = ids := by
      rw [backendNsgs, mapError_ok.mp hids]
      rfl
    rw [hbackends] at hs ⊢
    have hend : ∀ s', RulesRemoved svc c ids s s' → Ensures serve May (fun _ _ _ => True)
        (fun result s' => result = .ok ⟨⟩ → RulesRemoved svc c ids s s')
        (perform .cleanupSecurityRules >>= fun _ => pure PUnit.unit) s' := fun s' h' =>
      Ensures.bind (ensures_perform trivial (fun _ _ => h') fun _ _ h => nomatch h)
    refine Ensures.bind (ensures_ifAny (fun _ => ?_) fun hnil => ?_)
    · refine (ensures_removeBackendSecurityGroupRules hMay hsame.ruleUid_eq hs).mono
        (fun _ _ _ h => h) ?_
      rintro (e | _) s₁ h₁
      · exact fun h => nomatch h
      · exact hend s₁ (h₁ rfl)
    · exact hend s ⟨hs.tidy, fun _ => rfl, by simp [hnil]⟩
  all_goals exact fun _ _ h => nomatch h

/-- Replies that are reliable for the service. -/
def ReliableMay (May : Cloud → Call → Reply → Prop) (uid : String) : Prop :=
  ∀ s q f, May s q f → Legal s q f ∧ Reliable uid s q f

theorem ensures_deleteLeftover (hMay : ReliableMay May svc.uid) (hs : Tidy svc c s)
    (hrules : ∀ id ∈ backends, ∀ rule ∈ s.rules id, rule.description ≠ some (ruleUid svc)) :
    Cleans May svc backends (deleteLeftover (generateNsgName svc) c svc.uid) s := by
  refine Ensures.bind (Ensures.attempt (ensures_getFrontendNsgByName (fun _ _ => trivial)
    (fun found hfound => ?_) (fun hnone => ?_) fun _ _ _ h => nomatch h))
  · exact ensures_deleteFrontendNsg (hs.target_of_found hfound) hrules
  · refine ensures_deleteFrontendNsg (fun id hid => ?_) hrules
    rcases hnone with ⟨f, hf, hne⟩ | hnone
    · exact absurd (hMay _ _ _ hf).2 hne
    · exact absurd hnone (hs.not_noneNamed hid)

theorem ensures_deleteExisting {name id : String} {lb : AttachedLoadBalancer}
    (hMay : ReliableMay May svc.uid) (hsame : SameService svc r.service)
    (hs : Ready svc c (backendNsgs r.service) s)
    (hattached : ∀ id, s.HasUid svc.uid id → id ∈ lb.networkSecurityGroupIds.getD []) :
    Cleans May svc (backendNsgs r.service) (deleteExisting lib r name id lb) s := by
  have hlegal : ∀ s q f, May s q f → Legal s q f := fun s q f h => (hMay s q f h).1
  -- what follows the lookup, for a group that is the only one with the tag
  have hrest : ∀ found, Target svc.uid found s → Cleans May svc (backendNsgs r.service) (do
        cleanupSecurityRulesForLoadBalancerDelete lib r found.1
        deleteThen name id (deleteFrontendNsg found)) s := by
    intro found htarget
    refine Ensures.bind ((ensures_cleanupSecurityRules hlegal hsame hs found.1).mono
      (fun _ _ _ h => h) ?_)
    rintro (e | _) s₁ h₁
    · rintro ⟨⟩
    obtain ⟨-, hgroup, hclean⟩ := h₁ rfl
    refine fun f _ => ⟨trivial, ?_⟩
    -- deleting the load balancer leaves the groups as they are
    obtain ⟨lbs, hserve⟩ : ∃ lbs, (serve s₁ (.deleteLoadBalancer id) f).1 =
        { s₁ with loadBalancers := lbs } := by
      rw [serve]
      split
      · exact ⟨_, rfl⟩
      · exact ⟨_, rfl⟩
    rw [hserve]
    cases (serve s₁ (.deleteLoadBalancer id) f).2 with
    | error e => rintro ⟨⟩
    | ok _ =>
      refine fun f' _ => ⟨trivial, ?_⟩
      cases (serve { s₁ with loadBalancers := lbs } (.other .awaitWorkRequest) f').2 with
      | error e => rintro ⟨⟩
      | ok _ =>
        exact ensures_deleteFrontendNsg (s := { s₁ with loadBalancers := lbs })
          (htarget.congr hgroup) hclean
  refine Ensures.bind (ensures_firstFrontendNsg
    (fun id _ => ensures_getAttachedNsg id fun _ _ => trivial)
    (fun found _ hfound => ?_) (fun hmissing => hrest ("", none) fun id hid => ?_)
    fun _ _ h => h.elim)
  · rw [hsame.uid] at hfound
    exact hrest found (hs.tidy.target_of_found hfound)
  · obtain ⟨hne, hrecognised⟩ := hs.tidy.recognised hid
    rw [hsame.uid] at hmissing
    rcases hmissing id (hattached id hid) with (h | h) | ⟨f, hf, herror⟩
    · exact absurd h hne
    · exact absurd hrecognised h
    · exact absurd ((hMay _ _ _ hf).2 hid) herror

theorem ensures_ensureLoadBalancerDeleted (hMay : ReliableMay May svc.uid)
    (hsame : SameService svc r.service) (hnsg : requiresNsgManagement r.service = true)
    (hs : Ready svc c (backendNsgs r.service) s)
    (hcompartment : getLoadBalancerCompartment r.service cfg.compartmentID = c)
    (hattached : ∀ lb ∈ s.findByName c (getLoadBalancerName cfg.lbNamePrefix r.service),
      ∀ id, s.HasUid svc.uid id → id ∈ lb.2.networkSecurityGroupIds.getD [])
    (hgone : s.findByName c (getLoadBalancerName cfg.lbNamePrefix r.service) = none →
      ∀ id ∈ backendNsgs r.service, ∀ rule ∈ s.rules id, rule.description ≠ some (ruleUid svc)) :
    Cleans May svc (backendNsgs r.service) (ensureLoadBalancerDeleted lib cfg r) s := by
  refine Ensures.bind (ensures_perform trivial (fun _ => ?_) fun _ _ h => nomatch h)
  rw [getRuleManagementMode_of_requires hnsg]
  refine fun f hf => ⟨trivial, ?_⟩
  have hreliable := (hMay _ _ _ hf).2
  rw [hcompartment] at hreliable ⊢
  change Ensures serve May _ _ (deleteLookedUp lib cfg r .nsg _ (f.answer _)) s
  rw [Reply.answer]
  have hleftover : s.findByName c (getLoadBalancerName cfg.lbNamePrefix r.service) = none →
      ∀ e, Cleans May svc (backendNsgs r.service) (deleteLookedUp lib cfg r .nsg
        (getLoadBalancerName cfg.lbNamePrefix r.service) (.error e)) s := by
    intro hnone e
    rw [deleteLookedUp, if_pos rfl]
    split
    · rw [hsame.generateNsgName_eq, hcompartment, hsame.uid]
      exact ensures_deleteLeftover hMay hs.tidy (hgone hnone)
    · rintro ⟨⟩
  cases hfind : s.findByName c (getLoadBalancerName cfg.lbNamePrefix r.service) with
  | none =>
    cases f.error with
    | some e => exact hleftover hfind e
    | none => exact hleftover hfind notFound
  | some lb =>
    cases he : f.error with
    | some e =>
      have hfound : isNotFound e = false := hreliable (by simp [hfind]) e he
      rw [deleteLookedUp, hfound]
      rintro ⟨⟩
    | none => exact ensures_deleteExisting hMay hsame hs (hattached lb hfind)

end Steps

/-! ## Whole runs -/

section Runs

/-- After a run of careful calls and a careful deletion that returns nil, nothing of the
service is left. -/
theorem clean_of_deleted (lib : Library RuleSet) (cfg : ProviderConfig) (svc : Service)
    (c : String) (s : Cloud) (events : List Event) (r : Request) (replies : List Reply)
    (s' : Cloud) (hnew : s.NewTo svc)
    (hrun : Runs.Along (happen lib cfg) (MayHappen lib cfg svc) s events)
    (hcareful : Runs.Along (happen lib cfg) (Careful lib cfg c) s events)
    (hsame : SameService svc r.service) (hnsg : requiresNsgManagement r.service = true)
    (hlegal : Along serve Legal (ensureLoadBalancerDeleted lib cfg r)
      (events.foldl (happen lib cfg) s) replies)
    (hdeletion : CarefulDeletion lib cfg c (events.foldl (happen lib cfg) s) r replies)
    (hdeleted : exec serve (ensureLoadBalancerDeleted lib cfg r)
      (events.foldl (happen lib cfg) s) replies = (s', .done (.ok ⟨⟩))) :
    s'.Clean svc (backendNsgs r.service) := by
  have htidy : Tidy svc c (events.foldl (happen lib cfg) s) :=
    Runs.invariant_foldl (fun _ _ h hmay => h.happen hmay.1 hmay.2) (.of_newTo hnew)
      (hrun.and hcareful)
  have huid := hsame.uid
  have hready : Ready svc c (backendNsgs r.service) (events.foldl (happen lib cfg) s) :=
    ⟨htidy, fun id hid => huid ▸ hdeletion.backends id hid⟩
  have hMay : ReliableMay (fun s q f => Legal s q f ∧ Reliable r.service.uid s q f) svc.uid :=
    fun s q f h => ⟨h.1, huid ▸ h.2⟩
  have hattached : ∀ lb ∈ (events.foldl (happen lib cfg) s).findByName c
      (getLoadBalancerName cfg.lbNamePrefix r.service),
      ∀ id, (events.foldl (happen lib cfg) s).HasUid svc.uid id →
        id ∈ lb.2.networkSecurityGroupIds.getD [] := by
    intro lb hlb id hid
    obtain ⟨nsg, hnsg, -⟩ := Cloud.hasUid_iff.mp hid
    exact hdeletion.attached lb hlb id (AList.mem_keys.mpr (GoMap.mem_of_lookup hnsg)) (huid ▸ hid)
  exact (ensures_ensureLoadBalancerDeleted hMay hsame hnsg hready hdeletion.compartment hattached
    (hsame.ruleUid_eq ▸ hdeletion.gone)).of_exec (hlegal.and hdeletion.reliable) hdeleted rfl

/-- A call for a service with a backend group; `last` is the reply to the create call. -/
def backendCall (last : Reply) : Event :=
  .ensure (nsgRequest "" "backend1") [.ok, .ok, .ok, .ok, { ids := ["nsg1"] }, .ok, .ok, .ok, .ok,
    .ok, { ids := ["rule1", "rule2", "rule3"] }, .ok, .ok, { ids := ["rule4", "rule5"] }, .ok,
    last, .ok]

/-- Nothing is left of a load balancer that has been created. -/
theorem clean_of_createdCall : ∃ s',
    exec serve (ensureLoadBalancerDeleted .simple oneCompartment (nsgRequest "" "backend1"))
      ([backendCall { ids := ["lb1"] }].foldl (happen .simple oneCompartment)
        (emptyGroups ["backend1"])) (List.replicate 11 .ok) = (s', .done (.ok ⟨⟩)) ∧
    s'.Clean (nsgService "" "backend1") ["backend1"] := by
  refine ⟨_, rfl, clean_of_deleted .simple oneCompartment (nsgService "" "backend1") "compartment"
    (emptyGroups ["backend1"]) [backendCall { ids := ["lb1"] }] (nsgRequest "" "backend1")
    (List.replicate 11 .ok) _ (newTo_emptyGroups _ _) ⟨⟨⟨rfl, rfl, rfl⟩, ?_, ?_⟩, trivial⟩
    ⟨⟨?_, ?_, ?_, ?_⟩, trivial⟩ ⟨rfl, rfl, rfl⟩ ?_ ?_ ⟨?_, ?_, ?_, ?_, ?_⟩ rfl⟩
  all_goals decide +kernel

/-- The load balancer could not be created after the rules were written. The deletion meets no
error and returns nil, and the rules in the backend group are left. -/
theorem leftover_failedCall : ∃ s',
    (emptyGroups ["backend1"]).NewTo (nsgService "" "backend1") ∧
    Runs.Along (happen .simple oneCompartment)
      (MayHappen .simple oneCompartment (nsgService "" "backend1")) (emptyGroups ["backend1"])
      [backendCall { error := some (.other "timeout"), ids := ["lb1"] }] ∧
    Along serve Legal
      (ensureLoadBalancerDeleted .simple oneCompartment (nsgRequest "" "backend1"))
      ([backendCall { error := some (.other "timeout"), ids := ["lb1"] }].foldl
        (happen .simple oneCompartment) (emptyGroups ["backend1"])) (List.replicate 5 .ok) ∧
    exec serve (ensureLoadBalancerDeleted .simple oneCompartment (nsgRequest "" "backend1"))
      ([backendCall { error := some (.other "timeout"), ids := ["lb1"] }].foldl
        (happen .simple oneCompartment) (emptyGroups ["backend1"])) (List.replicate 5 .ok) =
        (s', .done (.ok ⟨⟩)) ∧
    ¬ s'.Clean (nsgService "" "backend1") ["backend1"] := by
  refine ⟨_, newTo_emptyGroups _ _, ⟨⟨⟨rfl, rfl, rfl⟩, ?_, ?_⟩, trivial⟩, ?_, rfl,
    fun h => absurd h.rules ?_⟩
  all_goals decide +kernel

end Runs

end OciCcm.NetworkSecurityGroups
