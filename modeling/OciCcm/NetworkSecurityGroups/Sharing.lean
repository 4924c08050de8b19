import OciCcm.Go.Separation
import OciCcm.NetworkSecurityGroups.Reconcile

/-! # Services that share a group

Services bring their groups up to date and clean them up at the same time, their
calls in any order. A service only looks at and only changes the rules described
with it, so to each service the groups are as if it were alone with them.
-/

namespace OciCcm.NetworkSecurityGroups

open Go List
open Program (Ensures Respects)
open Interleaving (Config)
open Separation (Separates Apart MayMove repliesTo)

/-- A run for a service. -/
inductive Job where
  | reconcile (o : RangeOrder) (c : SecurityRuleComponents)
  | removeBackend (c : SecurityRuleComponents)

namespace Job

def components : Job → SecurityRuleComponents
  | reconcile _ c | removeBackend c => c

def program : Job → Program PUnit
  | reconcile o c => reconcileSecurityGroup o c
  | removeBackend c => removeBackendSecurityGroupRules c

end Job

/-- The runs for a service one after another, whatever their results. -/
def runJobs : List Job → Program PUnit
  | [] => pure ⟨⟩
  | job :: jobs => job.program.attempt >>= fun _ => runJobs jobs

/-! ## What a service sees and does -/

/-- To a service `s` is like `t`: the groups and the rules of the service are the same, and
no rule id is new in `s` that is not new in `t`. -/
structure Alike (uid : String) (s t : Cloud) : Prop where
  group : ∀ id, s.group id = t.group id
  loadBalancers : s.loadBalancers = t.loadBalancers
  rules : ∀ id, filterSecurityRulesForService (s.rules id) uid =
    filterSecurityRulesForService (t.rules id) uid
  issued : ∀ id ∈ t.issued, id ∈ s.issued
  wellFormed : s.WellFormed
  wellFormed_alone : t.WellFormed

/-- Answers that a service does not tell apart: of a list it looks at its own rules, and of a
group at nothing. -/
def SameAnswer (uid : String) : (q : Call) → Answer q → Answer q → Prop
  | .listNetworkSecurityGroupSecurityRules _ _, a, b =>
    a.map (filterSecurityRulesForService · uid) = b.map (filterSecurityRulesForService · uid)
  | .getNetworkSecurityGroup _, a, b => a.map (fun _ => ()) = b.map (fun _ => ())
  | _, a, b => a = b

/-- The calls of a service: it adds rules described with it and removes its rules. -/
def OwnCall (uid : String) (s : Cloud) : Call → Prop
  | .getNetworkSecurityGroup _ | .listNetworkSecurityGroupSecurityRules _ _ => True
  | .addNetworkSecurityGroupSecurityRules _ rules => ∀ rule ∈ rules, rule.description = some uid
  | .removeNetworkSecurityGroupSecurityRules nsg ids =>
    ∀ id ∈ ids, ∃ r ∈ s.rules nsg, r.id = id ∧ r.description = some uid
  | _ => False

section Calls

variable {uid : String} {s t : Cloud} {q : Call} {f : Reply} {nsg : String}
  {g : NetworkSecurityGroup} {adds : List SecurityRule} {removes : List String} {d : Option String}

theorem lookup_cases {id : String} (h : s.group id = t.group id) :
    (s.nsgs.lookup id = none ∧ t.nsgs.lookup id = none) ∨
    ∃ g g', s.nsgs.lookup id = some g ∧ t.nsgs.lookup id = some g' := by
  unfold Cloud.group at h
  cases hs : s.nsgs.lookup id with
  | none =>
    rw [hs] at h
    exact .inl ⟨rfl, Option.map_eq_none_iff.mp h.symm⟩
  | some g =>
    rw [hs] at h
    obtain ⟨g', ht, -⟩ := Option.map_eq_some_iff.mp h.symm
    exact .inr ⟨g, g', rfl, ht⟩

theorem legal_alone (h : Alike uid s t) (hlegal : Legal s q f) : Legal t q f := by
  cases q with
  | createNetworkSecurityGroup _ _ _ =>
    obtain ⟨id, hid, hne, hnew⟩ := hlegal
    refine ⟨id, hid, hne, ?_⟩
    rw [← AList.lookup_eq_none] at hnew ⊢
    rcases lookup_cases (h.group id) with ⟨-, ht⟩ | ⟨g, _, hs, -⟩
    · exact ht
    · rw [hs] at hnew
      cases hnew
  | createLoadBalancer _ _ _ =>
    rw [Legal, h.loadBalancers] at hlegal
    exact hlegal
  | addNetworkSecurityGroupSecurityRules _ _ =>
    exact ⟨hlegal.1, hlegal.2.1, fun id hid hmem => hlegal.2.2 id hid (h.issued id hmem)⟩
  | _ => trivial

theorem changed_setRules_add (hg : s.nsgs.lookup nsg = some g) {rules : List SecurityRule}
    (hlegal : Legal s (.addNetworkSecurityGroupSecurityRules nsg rules) f) :
    Changed s nsg rules [] (s.setRules nsg g (g.securityRules ++ store rules f.ids)
      (s.issued ++ f.ids)) where
  group := Cloud.group_setRules hg
  loadBalancers := rfl
  retryTokens := rfl
  rules_of_ne _ := Cloud.rules_setRules_of_ne
  rules := ⟨f.ids, hlegal.1, hlegal.2.1, hlegal.2.2, rfl, by simp [Cloud.rules_of_lookup hg]⟩

theorem changed_setRules_remove (hg : s.nsgs.lookup nsg = some g) (ids : List String) :
    Changed s nsg [] ids (s.setRules nsg g (g.securityRules.filter (·.id ∉ ids)) s.issued) where
  group := Cloud.group_setRules hg
  loadBalancers := rfl
  retryTokens := rfl
  rules_of_ne _ := Cloud.rules_setRules_of_ne
  rules := ⟨[], rfl, .nil, by simp, (append_nil _).symm, by
    simp [store, Cloud.rules_of_lookup hg]⟩

theorem Alike.changed (h : Alike uid s t) {s' t' : Cloud} (hs : Changed s nsg adds removes s')
    (ht : Changed t nsg adds removes t')
    (hrules : filterSecurityRulesForService (s'.rules nsg) uid =
      filterSecurityRulesForService (t'.rules nsg) uid) (hissued : ∀ id ∈ t'.issued, id ∈ s'.issued) :
    Alike uid s' t' where
  group id := by rw [hs.group, ht.group, h.group]
  loadBalancers := by rw [hs.loadBalancers, ht.loadBalancers, h.loadBalancers]
  rules id := by
    by_cases hid : id = nsg
    · rw [hid]
      exact hrules
    · rw [hs.rules_of_ne id hid, ht.rules_of_ne id hid, h.rules]
  issued := hissued
  wellFormed := hs.wellFormed h.wellFormed
  wellFormed_alone := ht.wellFormed h.wellFormed_alone

theorem Alike.editRules (h : Alike uid s t) {edit edit' : NetworkSecurityGroup → Cloud}
    (hedit : ∀ g g', s.nsgs.lookup nsg = some g → t.nsgs.lookup nsg = some g' →
      Alike uid (edit g) (edit' g')) :
    Alike uid (s.editRules f nsg edit).1 (t.editRules f nsg edit').1 ∧
      (s.editRules f nsg edit).2 = (t.editRules f nsg edit').2 := by
  unfold Cloud.editRules
  rcases lookup_cases (h.group nsg) with ⟨hs, ht⟩ | ⟨g, g', hs, ht⟩
  · rw [hs, ht]
    exact ⟨h, rfl⟩
  · rw [hs, ht]
    refine ⟨?_, rfl⟩
    dsimp only
    split
    · exact hedit g g' hs ht
    · exact h

theorem filterSecurityRulesForService_filter (rules : List StoredRule) (p : StoredRule → Bool) :
    filterSecurityRulesForService (rules.filter p) uid =
      (filterSecurityRulesForService rules uid).filter p := by
  simp only [filterSecurityRulesForService, filter_filter, Bool.and_comm]

/-- A call of the service acts alike on states that are alike to it. -/
theorem Alike.serve (h : Alike uid s t) (hown : OwnCall uid t q) (hlegal : Legal s q f) :
    Alike uid (serve s q f).1 (serve t q f).1 ∧
      SameAnswer uid q (serve s q f).2 (serve t q f).2 := by
  cases q with
  | getNetworkSecurityGroup id =>
    refine ⟨h, ?_⟩
    simp only [NetworkSecurityGroups.serve, SameAnswer, Reply.answer]
    rcases lookup_cases (h.group id) with ⟨hs, ht⟩ | ⟨g, g', hs, ht⟩ <;> cases f.error <;>
      simp [hs, ht, Except.map]
  | listNetworkSecurityGroupSecurityRules id direction =>
    refine ⟨h, ?_⟩
    simp only [NetworkSecurityGroups.serve, SameAnswer, Reply.answer]
    rcases lookup_cases (h.group id) with ⟨hs, ht⟩ | ⟨g, g', hs, ht⟩
    · rw [hs, ht]
    · have hrules := h.rules id
      rw [Cloud.rules_of_lookup hs, Cloud.rules_of_lookup ht] at hrules
      cases f.error with
      | some e => rfl
      | none => simp only [hs, ht, Except.map, filterSecurityRulesForService_filter, hrules]
  | addNetworkSecurityGroupSecurityRules nsg rules =>
    refine h.editRules fun g g' hs ht => h.changed (changed_setRules_add hs hlegal)
      (changed_setRules_add ht (legal_alone h hlegal)) ?_ fun id hid => ?_
    · have hrules := h.rules nsg
      rw [Cloud.rules_of_lookup hs, Cloud.rules_of_lookup ht] at hrules
      simp only [Cloud.rules_setRules_self, filterSecurityRulesForService, filter_append]
      exact congrArg (· ++ _) hrules
    · rcases mem_append.mp hid with hid | hid
      · exact mem_append_left _ (h.issued id hid)
      · exact mem_append_right _ hid
  | removeNetworkSecurityGroupSecurityRules nsg ids =>
    refine h.editRules fun g g' hs ht => h.changed (changed_setRules_remove hs ids)
      (changed_setRules_remove ht ids) ?_ h.issued
    have hrules := h.rules nsg
    rw [Cloud.rules_of_lookup hs, Cloud.rules_of_lookup ht] at hrules
    simp only [Cloud.rules_setRules_self, filterSecurityRulesForService_filter, hrules]
  | _ => cases hown

/-- What a call of a service does: nothing, or a change to one group that concerns no rule
described otherwise. -/
theorem changed_of_ownCall (h : Alike uid s t) (hown : OwnCall uid t q) (hlegal : Legal s q f) :
    ∃ nsg adds removes, Changed s nsg adds removes (serve s q f).1 ∧
      (∀ rule ∈ adds, rule.description = some uid) ∧
      ∀ r ∈ s.rules nsg, r.id ∈ removes → r.description = some uid := by
  have hnothing : ∃ nsg adds removes, Changed s nsg adds removes s ∧
      (∀ rule ∈ adds, rule.description = some uid) ∧
      ∀ r ∈ s.rules nsg, r.id ∈ removes → r.description = some uid :=
    ⟨"", [], [], .refl s "", by simp, by simp⟩
  cases q with
  | getNetworkSecurityGroup _ => exact hnothing
  | listNetworkSecurityGroupSecurityRules _ _ => exact hnothing
  | addNetworkSecurityGroupSecurityRules nsg rules =>
    rcases (Changed.refl s nsg).add hlegal with ⟨e, he⟩ | hchanged
    · rw [he]
      exact hnothing
    · exact ⟨nsg, rules, [], hchanged, hown, by simp⟩
  | removeNetworkSecurityGroupSecurityRules nsg ids =>
    -- the ids are those of rules of the service, and ids are unique
    have hids : ∀ r ∈ s.rules nsg, r.id ∈ ids → r.description = some uid := by
      intro r hr hid
      obtain ⟨r', hr', hid', huid⟩ := hown r.id hid
      have hmem : r' ∈ filterSecurityRulesForService (s.rules nsg) uid := by
        rw [h.rules]
        exact mem_filterSecurityRulesForService.mpr ⟨hr', huid⟩
      have hr' := (mem_filterSecurityRulesForService.mp hmem).1
      obtain rfl := inj_on_of_nodup_map (h.wellFormed.nodup nsg) hr' hr hid'
      exact huid
    rcases Cloud.editRules_cases s f nsg _ with ⟨e, he⟩ | ⟨g, hg, hserve⟩
    · rw [NetworkSecurityGroups.serve, he]
      exact hnothing
    · rw [NetworkSecurityGroups.serve, hserve]
      exact ⟨nsg, [], ids, changed_setRules_remove hg ids, by simp, hids⟩
  | _ => cases hown

theorem filter_description_of_changed {s' : Cloud} (h : Changed s nsg adds removes s')
    (hadds : ∀ rule ∈ adds, rule.description = some uid)
    (hremoves : ∀ r ∈ s.rules nsg, r.id ∈ removes → r.description = some uid) (hd : d ≠ some uid)
    (id : String) :
    (s'.rules id).filter (·.description = d) = (s.rules id).filter (·.description = d) := by
  by_cases hid : id = nsg
  · subst hid
    obtain ⟨ids, hlen, -, -, -, hrules⟩ := h.rules
    have hadded : (store adds ids).filter (·.description = d) = [] := by
      refine filter_eq_nil_iff.mpr fun r hr heq => hd ?_
      have hadd : r.toSecurityRule ∈ adds :=
        map_toSecurityRule_store hlen ▸ mem_map_of_mem hr
      exact (of_decide_eq_true heq).symm.trans (hadds _ hadd)
    rw [hrules, filter_append, hadded, append_nil, filter_filter]
    refine filter_congr fun r hr => ?_
    by_cases heq : r.description = d
    · have hkept : r.id ∉ removes := fun hmem => hd (heq.symm.trans (hremoves r hr hmem))
      simp [heq, hkept]
    · simp [heq]
  · rw [h.rules_of_ne id hid]

theorem filter_description_serve (h : Alike uid s t) (hown : OwnCall uid t q) (hlegal : Legal s q f)
    (hd : d ≠ some uid) (id : String) :
    ((serve s q f).1.rules id).filter (·.description = d) =
      (s.rules id).filter (·.description = d) := by
  obtain ⟨nsg, adds, removes, hchanged, hadds, hremoves⟩ := changed_of_ownCall h hown hlegal
  exact filter_description_of_changed hchanged hadds hremoves hd id

end Calls

theorem separates {ι : Type} {uid : ι → String} (huid : ∀ i j, uid i = uid j → i = j) :
    Separates serve Legal (fun i => Alike (uid i)) (fun i => SameAnswer (uid i))
      (fun i => OwnCall (uid i)) where
  may := legal_alone
  own := Alike.serve
  other {i j s t u q f} hne hi hj hown hlegal := by
    obtain ⟨nsg, adds, removes, hchanged, hadds, hremoves⟩ := changed_of_ownCall hj hown hlegal
    have hd : some (uid i) ≠ some (uid j) := fun h => hne (huid i j (Option.some.inj h))
    obtain ⟨ids, -, -, -, hissued, -⟩ := hchanged.rules
    refine ⟨fun id => (hchanged.group id).trans (hi.group id),
      hchanged.loadBalancers.trans hi.loadBalancers, fun id => ?_, fun id hid => ?_,
      hchanged.wellFormed hi.wellFormed, hi.wellFormed_alone⟩
    · exact (filter_description_of_changed hchanged hadds hremoves hd id).trans (hi.rules id)
    · rw [hissued]
      exact mem_append_left _ (hi.issued id hid)

/-! ## The runs of a service -/

section Respects

variable {uid id : String}

theorem respects_orWrap {α : Type} (message : String) (a : Except Client.ClientError α) :
    (orWrap message a).Respects (SameAnswer uid) := by
  cases a <;> trivial

theorem respects_getNsg_bind {p : Program PUnit} (hp : p.Respects (SameAnswer uid)) :
    (getNsg id >>= fun _ => p).Respects (SameAnswer uid) := by
  unfold getNsg
  split
  · trivial
  · refine ⟨fun a b h => ?_, fun a => ?_⟩
    · rcases a with e | _ <;> rcases b with e' | _ <;> cases h <;> rfl
    · rcases a with e | _
      · trivial
      · exact hp

theorem respects_listNsgRules_bind {direction : Direction} {k : List StoredRule → Program PUnit}
    (hsame : ∀ a b, filterSecurityRulesForService a uid = filterSecurityRulesForService b uid →
      k a = k b) (hk : ∀ a, (k a).Respects (SameAnswer uid)) :
    (listNsgRules id direction >>= k).Respects (SameAnswer uid) := by
  unfold listNsgRules
  split
  · trivial
  · refine ⟨fun a b h => ?_, fun a => ?_⟩
    · rcases a with e | a <;> rcases b with e' | b
      · cases h
        rfl
      · cases h
      · cases h
      · exact hsame a b (Except.ok.inj h)
    · rcases a with e | a
      · trivial
      · exact hk a

theorem respects_changeRules (nsg : String) (addRules : List SecurityRule)
    (removeRules : List String) :
    (changeRules nsg addRules removeRules).Respects (SameAnswer uid) := by
  have hadd : ∀ rules, (addNetworkSecurityGroupSecurityRules nsg rules).Respects
      (SameAnswer uid) := fun rules =>
    .forM fun batch _ => ⟨fun a b h => congrArg _ h, fun a => respects_orWrap _ a⟩
  have hremove : ∀ ids, (removeNetworkSecurityGroupSecurityRules nsg ids).Respects
      (SameAnswer uid) := fun ids =>
    .forM fun batch _ => ⟨fun a b h => congrArg _ h, fun a => respects_orWrap _ a⟩
  have hany : ∀ {α : Type} (xs : List α) (action : List α → Program PUnit),
      (action xs).Respects (SameAnswer uid) → (ifAny xs action).Respects (SameAnswer uid) := by
    intro α xs action h
    unfold ifAny
    split
    · exact h
    · trivial
  exact .bind (hany _ _ (hadd _)) fun _ => hany _ _ (hremove _)

end Respects

theorem Job.respects (job : Job) :
    job.program.Respects (SameAnswer job.components.serviceUid) := by
  cases job with
  | reconcile o c =>
    refine .bind (respects_getNsg_bind (respects_listNsgRules_bind (fun a a' ha => ?_) fun a =>
      respects_listNsgRules_bind (fun b b' hb => ?_) fun b => respects_changeRules _ _ _)) fun _ =>
      .forM fun e _ => respects_getNsg_bind (respects_listNsgRules_bind (fun a a' ha => ?_) fun a =>
        respects_changeRules _ _ _)
    · simp only [frontendChanges, show filterSecurityRulesForService a c.serviceUid =
        filterSecurityRulesForService a' c.serviceUid from ha]
    · simp only [frontendChanges, show filterSecurityRulesForService b c.serviceUid =
        filterSecurityRulesForService b' c.serviceUid from hb]
    · simp only [backendChanges, show filterSecurityRulesForService a c.serviceUid =
        filterSecurityRulesForService a' c.serviceUid from ha]
  | removeBackend c =>
    change (removeBackendSecurityGroupRules c).Respects _
    rw [removeBackendSecurityGroupRules_eq]
    refine .forM fun nsg _ => respects_getNsg_bind (respects_listNsgRules_bind (fun a a' ha => ?_)
      fun a => respects_changeRules _ _ _)
    simp only [filterSecurityRulesIdsForService, show filterSecurityRulesForService a c.serviceUid =
      filterSecurityRulesForService a' c.serviceUid from ha]

section Own

variable {uid nsg : String} {Managed : Direction → Prop} {generated : List SecurityRule}
  {s : Cloud} {changes : List SecurityRule × List String}

theorem ownCall_of_writeStep (h : Plans uid Managed generated (s.rules nsg) changes)
    (hs : s.WellFormed) (hdesc : ∀ g ∈ generated, g.description = some uid) {s₁ s₂ : Cloud}
    {q : Call} (hwrite : WriteStep s nsg changes.1 changes.2 s₁ q s₂) : OwnCall uid s₁ q := by
  cases hwrite with
  | add hpart h₁ h₂ =>
    intro rule hrule
    exact hdesc _ ((h.add_iff rule).mp (hpart.subset (mem_append_right _ hrule))).1
  | @remove removes batch _ _ hpart h₁ h₂ =>
    -- the rule is still there: its id is in none of the batches before
    intro id hid
    obtain ⟨r, hr, rfl, huid, -⟩ := (h.remove_iff id).mp
      (hpart.subset (mem_append_right _ hid))
    obtain ⟨ids, -, -, -, -, hrules⟩ := h₁.rules
    have hnodup := (h.nodup (hs.nodup nsg)).sublist hpart.sublist
    have hnot : r.id ∉ removes := fun hmem =>
      (nodup_append.mp hnodup).2.2 _ hmem _ hid rfl
    refine ⟨r, ?_, rfl, huid⟩
    rw [hrules]
    exact mem_append_left _ (mem_filter.mpr ⟨hr, decide_eq_true hnot⟩)

theorem passMeets_own (h : Plans uid Managed generated (s.rules nsg) changes) (hs : s.WellFormed)
    (hdesc : ∀ g ∈ generated, g.description = some uid) :
    PassMeets Legal (fun t q _ => OwnCall uid t q) (fun _ s' => s'.WellFormed) s nsg changes where
  read q hq := by
    cases q with
    | getNetworkSecurityGroup _ => trivial
    | listNetworkSecurityGroupSecurityRules _ _ => trivial
    | _ => cases hq
  write _ _ _ _ hwrite := ownCall_of_writeStep h hs hdesc hwrite
  ok _ _ hchanged := hchanged.wellFormed hs
  fails _ _ _ _ _ _ hchanged := hchanged.wellFormed hs

theorem Job.ensures_own (job : Job) (hs : s.WellFormed) :
    Ensures serve Legal (fun t q _ => OwnCall job.components.serviceUid t q)
      (fun _ s' => s'.WellFormed) job.program s := by
  cases job with
  | reconcile o c =>
    refine Ensures.bind ((ensures_frontendPass (fun _ _ _ => id) hs (passMeets_own
      (plans_frontendPlan o c s) hs fun _ =>
        SecurityRuleComponents.description_of_mem_frontendRules)).mono (fun _ _ _ h => h) ?_)
    rintro (e | _) s₁ hs₁
    · exact hs₁
    refine @Ensures.forM _ _ _ _ _ serve Legal _ s₁ _ _ _ _ (fun _ => Cloud.WellFormed) hs₁ ?_
      (fun _ h => h)
    rintro before ⟨nsg, i⟩ after s₂ - hs₂
    refine (ensures_backendPass (fun _ _ _ => id) hs₂ (passMeets_own (plans_backendPlan o c nsg i s₂)
      hs₂ fun _ h => (SecurityRuleComponents.of_mem_backendIngressRules h).2)).mono
      (fun _ _ _ h => h) ?_
    rintro (e | _) s₃ hs₃ <;> exact hs₃
  | removeBackend c =>
    change Ensures serve Legal _ _ (removeBackendSecurityGroupRules c) s
    rw [removeBackendSecurityGroupRules_eq]
    refine @Ensures.forM _ _ _ _ _ serve Legal _ s _ _ _ _ (fun _ => Cloud.WellFormed) hs ?_
      (fun _ h => h)
    intro before nsg after s₂ _ hs₂
    refine (ensures_cleanupPass (fun _ _ _ => id) hs₂ (passMeets_own (plans_cleanup _ _) hs₂
      (by simp))).mono (fun _ _ _ h => h) ?_
    rintro (e | _) s₃ hs₃ <;> exact hs₃

theorem respects_runJobs {jobs : List Job} (h : ∀ job ∈ jobs, job.components.serviceUid = uid) :
    (runJobs jobs).Respects (SameAnswer uid) := by
  induction jobs with
  | nil => trivial
  | cons job jobs ih =>
    have hjob := job.respects
    rw [h job mem_cons_self] at hjob
    exact hjob.attempt.bind fun _ => ih fun j hj => h j (mem_cons_of_mem _ hj)

theorem ensures_runJobs {jobs : List Job} (h : ∀ job ∈ jobs, job.components.serviceUid = uid)
    (hs : s.WellFormed) : Ensures serve Legal (fun t q _ => OwnCall uid t q) (fun _ _ => True)
      (runJobs jobs) s := by
  induction jobs generalizing s with
  | nil => trivial
  | cons job jobs ih =>
    have hjob := job.ensures_own hs
    rw [h job mem_cons_self] at hjob
    exact (hjob.mono (fun _ _ _ h => h) fun r s' hs' =>
      ih (fun j hj => h j (mem_cons_of_mem _ hj)) hs').attempt.bind

end Own

/-- In every interleaving of the runs of services with different descriptions, the rules of
each service are at every moment those that it would have alone with the groups and the
replies that it gets, and rules of none of them stay as they are. -/
theorem rules_run_eq_alone {ι : Type} [DecidableEq ι] (uid : ι → String)
    (huid : ∀ i j, uid i = uid j → i = j) (jobs : ι → List Job)
    (hjobs : ∀ i, ∀ job ∈ jobs i, job.components.serviceUid = uid i) (s : Cloud)
    (hs : s.WellFormed) (moves : List (ι × Reply))
    (hmay : Interleaving.Along (Separation.step serve) (MayMove Legal)
      ⟨s, fun i => runJobs (jobs i)⟩ moves) :
    let final := Interleaving.run (Separation.step serve) ⟨s, fun i => runJobs (jobs i)⟩ moves
    (∀ i, let alone := (runJobs (jobs i)).exec serve s (repliesTo i moves)
      (runJobs (jobs i)).Along serve Legal s (repliesTo i moves) ∧ alone.2 = final.locals i ∧
      ∀ nsg, filterSecurityRulesForService (final.shared.rules nsg) (uid i) =
        filterSecurityRulesForService (alone.1.rules nsg) (uid i)) ∧
    ∀ d : Option String, (∀ i, d ≠ some (uid i)) → ∀ nsg,
      (final.shared.rules nsg).filter (·.description = d) =
        (s.rules nsg).filter (·.description = d) := by
  have hapart : Apart serve Legal (fun i => Alike (uid i)) (fun i => SameAnswer (uid i))
      (fun i => OwnCall (uid i)) ⟨s, fun i => runJobs (jobs i)⟩ (fun _ => s) :=
    ⟨fun i => ⟨fun _ => rfl, rfl, fun _ => rfl, fun _ h => h, hs, hs⟩,
      fun i => respects_runJobs (hjobs i), fun i => ensures_runJobs (hjobs i) hs⟩
  refine ⟨fun i => ?_, fun d hd nsg => ?_⟩
  · obtain ⟨halong, hlocals, halike⟩ := hapart.exec (separates huid) hmay i
    exact ⟨halong, hlocals, halike.rules⟩
  · exact hapart.keeps (separates huid) (K := fun s => (s.rules nsg).filter (·.description = d))
      (fun i s t q f hlike hown hlegal => filter_description_serve hlike hown hlegal (hd i) nsg) hmay

/-- A backend group with a rule of another service. -/
def sharedBackend : Cloud where
  nsgs := GoMap.ofPairs [("frontend", ⟨"", "", ∅, "", []⟩), ("backend", ⟨"", "", ∅, "",
    [⟨makeNsgSecurityRule .ingress "other" "service-uid-2" 30443 .networkSecurityGroup, "1"⟩]⟩)]
  loadBalancers := ∅
  issued := ["1"]
  retryTokens := ∅

/-- The description of the two services: one comes up while the other is cleaned up. -/
def twoUids (comesUp : Bool) : String := if comesUp then "service-uid-1" else "service-uid-2"

def twoJobs (comesUp : Bool) : List Job :=
  let c : SecurityRuleComponents := {
    frontendNsgOcid := "frontend"
    backendNsgOcids := ["backend"]
    ports := GoMap.ofPairs [("TCP-80", ⟨80, 30080, 10256⟩)]
    sourceCIDRs := ["0.0.0.0/0"]
    isPreserveSource := false
    serviceUid := twoUids comesUp }
  if comesUp then [.reconcile .stored c] else [.removeBackend c]

/-- Both list the rules of the backend group before either changes them. -/
def twoMoves : List (Bool × Reply) :=
  [(true, .ok), (true, .ok), (true, .ok), (true, { ids := ["2", "3", "4"] }), (false, .ok),
    (true, .ok), (true, .ok), (false, .ok), (true, { ids := ["5", "6"] }), (false, .ok)]

theorem rules_run_twoJobs :
    filterSecurityRulesForService ((Interleaving.run (Separation.step serve)
      ⟨sharedBackend, fun i => runJobs (twoJobs i)⟩ twoMoves).shared.rules "backend")
      "service-uid-1" =
    filterSecurityRulesForService (((runJobs (twoJobs true)).exec serve sharedBackend
      (repliesTo true twoMoves)).1.rules "backend") "service-uid-1" :=
  ((rules_run_eq_alone twoUids (by decide) twoJobs (by intro i; cases i <;> simp [twoJobs, Job.components])
    sharedBackend (by decide +kernel) twoMoves (by decide +kernel)).1 true).2.2 "backend"

end OciCcm.NetworkSecurityGroups
