import OciCcm.NetworkSecurityGroups.Cloud

/-! # Bringing the groups of a service up to date

`reconcileSecurityGroup` makes a pass over the frontend group and one over every
backend group. A pass lists the rules, compares those of the service with the
generated ones, adds what is missing and then removes what is left over.
-/

namespace OciCcm.NetworkSecurityGroups

open Go Client List
open Program (Ensures)

/-- A program of the controller. Its errors are their texts. -/
abbrev Program := Go.Program Call Answer String

/-- The value of an answer, or its error behind a message. -/
def orWrap {α : Type} (message : String) : Except ClientError α → Program α
  | .ok a => pure a
  | .error e => .done (.error (wrap message e.error))

def getNsg (id : String) : Program NetworkSecurityGroup :=
  if id = "" then .done (.error "invalid; empty nsg id provided")
  else .call (.getNetworkSecurityGroup id) fun r => do
    let (nsg, _) ← orWrap ("failed to get nsg with id " ++ id) r
    pure nsg

def listNsgRules (id : String) (direction : Direction) : Program (List StoredRule) :=
  if id = "" then .done (.error "invalid; empty nsg id provided")
  else .call (.listNetworkSecurityGroupSecurityRules id direction) fun r =>
    orWrap ("failed to list Security Rules for nsg: " ++ id) r

def addNetworkSecurityGroupSecurityRules (nsgId : String) (rules : List SecurityRule) :
    Program PUnit :=
  (splitRulesIntoBatches rules).forM fun batch =>
    .call (.addNetworkSecurityGroupSecurityRules nsgId batch) fun r =>
      orWrap ("failed to add security rules for nsg: " ++ nsgId) r

def removeNetworkSecurityGroupSecurityRules (nsgId : String) (ids : List String) :
    Program PUnit :=
  (splitRuleIdsIntoBatches ids).forM fun batch =>
    .call (.removeNetworkSecurityGroupSecurityRules nsgId batch) fun r =>
      orWrap ("failed to remove security rules for nsg: " ++ nsgId) r

/-- Do something with a list unless it is empty. -/
def ifAny {α : Type} (xs : List α) (action : List α → Program PUnit) : Program PUnit :=
  if xs ≠ [] then action xs else pure ()

/-- The end of a pass: add, then remove. -/
def changeRules (nsgId : String) (addRules : List SecurityRule) (removeRules : List String) :
    Program PUnit := do
  ifAny addRules (addNetworkSecurityGroupSecurityRules nsgId)
  ifAny removeRules (removeNetworkSecurityGroupSecurityRules nsgId)

namespace SecurityRuleComponents

/-- The rules generated in one call. Its loops over the ports are numbered in the order in
which they run: the two for the frontend group, then two for every backend group. -/
def lbIngressRules (c : SecurityRuleComponents) (o : RangeOrder) : List SecurityRule :=
  generateNsgLoadBalancerIngressRules o 0 c.sourceCIDRs c.ports c.serviceUid

@[inherit_doc lbIngressRules]
def lbEgressRules (c : SecurityRuleComponents) (o : RangeOrder) : List SecurityRule :=
  generateNsgLoadBalancerEgressRules o 1 c.ports c.backendNsgOcids c.serviceUid

@[inherit_doc lbIngressRules]
def backendIngressRules (c : SecurityRuleComponents) (o : RangeOrder) (i : Nat) :
    List SecurityRule :=
  generateNsgBackendIngressRules o (2 + 2 * i) c.ports c.sourceCIDRs c.isPreserveSource
    c.frontendNsgOcid c.serviceUid

end SecurityRuleComponents

/-- The changes to the frontend group, whose rules of both directions are given. -/
def frontendChanges (o : RangeOrder) (c : SecurityRuleComponents)
    (existingIngress existingEgress : List StoredRule) : List SecurityRule × List String :=
  let ingress := reconcileSecurityRules (c.lbIngressRules o)
    (filterSecurityRulesForService existingIngress c.serviceUid)
  let egress := reconcileSecurityRules (c.lbEgressRules o)
    (filterSecurityRulesForService existingEgress c.serviceUid)
  (ingress.1 ++ egress.1, ingress.2 ++ egress.2)

/-- The changes to the backend group at position `i`, whose ingress rules are given. -/
def backendChanges (o : RangeOrder) (c : SecurityRuleComponents) (i : Nat)
    (existingIngress : List StoredRule) : List SecurityRule × List String :=
  reconcileSecurityRules (c.backendIngressRules o i)
    (filterSecurityRulesForService existingIngress c.serviceUid)

/-- The part of `reconcileSecurityGroup` before the loop. -/
def frontendPass (o : RangeOrder) (c : SecurityRuleComponents) : Program PUnit := do
  let _ ← getNsg c.frontendNsgOcid
  let existingIngress ← listNsgRules c.frontendNsgOcid .ingress
  let existingEgress ← listNsgRules c.frontendNsgOcid .egress
  let changes := frontendChanges o c existingIngress existingEgress
  changeRules c.frontendNsgOcid changes.1 changes.2

/-- The body of the loop of `reconcileSecurityGroup`. -/
def backendPass (o : RangeOrder) (c : SecurityRuleComponents) (nsg : String) (i : Nat) :
    Program PUnit := do
  let _ ← getNsg nsg
  let existingIngress ← listNsgRules nsg .ingress
  let changes := backendChanges o c i existingIngress
  changeRules nsg changes.1 changes.2

/-- The lock on the rules is left out: runs that overlap are the subject of `Sharing`. -/
def reconcileSecurityGroup (o : RangeOrder) (c : SecurityRuleComponents) : Program PUnit := do
  frontendPass o c
  c.backendNsgOcids.zipIdx.forM fun (nsg, i) => backendPass o c nsg i

def removeBackendSecurityGroupRules (c : SecurityRuleComponents) : Program PUnit :=
  c.backendNsgOcids.forM fun backendNsg => do
    let _ ← getNsg backendNsg
    let existingIngress ← listNsgRules backendNsg .ingress
    ifAny (filterSecurityRulesIdsForService existingIngress c.serviceUid)
      (removeNetworkSecurityGroupSecurityRules backendNsg)

/-! ## What the steps of a pass ensure -/

/-- Calls that read. -/
def Call.IsRead : Call → Prop
  | getNetworkSecurityGroup _ | listNetworkSecurityGroupSecurityRules _ _ => True
  | _ => False

instance : DecidablePred Call.IsRead := fun q => by
  unfold Call.IsRead
  split <;> infer_instance

theorem serve_fst_of_isRead {q : Call} (h : q.IsRead) (s : Cloud) (f : Reply) :
    (serve s q f).1 = s := by
  cases q with
  | getNetworkSecurityGroup _ => rfl
  | listNetworkSecurityGroupSecurityRules _ _ => rfl
  | _ => cases h

section Steps

variable {May : Cloud → Call → Reply → Prop} {Inv : Cloud → Call → Cloud → Prop} {s : Cloud}
  {id : String} {post : Except String PUnit → Cloud → Prop}

/-- Why a call about a group can fail: there is no such group, or the server says so. -/
def Trouble (May : Cloud → Call → Reply → Prop) (s : Cloud) (nsg : String) : Prop :=
  s.group nsg = none ∨ ∃ s' q f, May s' q f ∧ f.error ≠ none

theorem ensures_getNsg {post : Except String NetworkSecurityGroup → Cloud → Prop}
    (hinv : Inv s (.getNetworkSecurityGroup id) s)
    (hok : ∀ nsg, id ≠ "" → post (.ok nsg) s)
    (herr : id = "" ∨ Trouble May s id → ∀ e, post (.error e) s) :
    Ensures serve May Inv post (getNsg id) s := by
  unfold getNsg
  split
  · next hid => exact herr (.inl hid) _
  · next hid =>
    intro f hf
    refine ⟨hinv, ?_⟩
    simp only [serve, Reply.answer]
    cases he : f.error with
    | some e => exact herr (.inr (.inr ⟨s, _, f, hf, by simp [he]⟩)) _
    | none =>
      cases hnsg : s.nsgs.lookup id with
      | none => exact herr (.inr (.inl (by simp [Cloud.group, hnsg]))) _
      | some nsg => exact hok nsg hid

theorem ensures_listNsgRules {post : Except String (List StoredRule) → Cloud → Prop}
    {direction : Direction}
    (hinv : Inv s (.listNetworkSecurityGroupSecurityRules id direction) s)
    (hok : post (.ok ((s.rules id).filter (·.direction = direction))) s)
    (herr : id = "" ∨ Trouble May s id → ∀ e, post (.error e) s) :
    Ensures serve May Inv post (listNsgRules id direction) s := by
  unfold listNsgRules
  split
  · next hid => exact herr (.inl hid) _
  · next hid =>
    intro f hf
    refine ⟨hinv, ?_⟩
    simp only [serve, Reply.answer]
    cases he : f.error with
    | some e => exact herr (.inr (.inr ⟨s, _, f, hf, by simp [he]⟩)) _
    | none =>
      cases hnsg : s.nsgs.lookup id with
      | none => exact herr (.inr (.inl (by simp [Cloud.group, hnsg]))) _
      | some nsg =>
        rw [Cloud.rules_of_lookup hnsg] at hok
        exact hok

theorem ensures_ifAny {α : Type} {xs : List α} {action : List α → Program PUnit}
    (hne : xs ≠ [] → Ensures serve May Inv post (action xs) s) (hnil : xs = [] → post (.ok ⟨⟩) s) :
    Ensures serve May Inv post (ifAny xs action) s := by
  unfold ifAny
  split
  · next h => exact hne h
  · next h => exact hnil (not_not.mp h)

/-- A loop over batches. `C` says what has been done when the batches so far hold the given
elements; a call that fails, for the reason `T`, may have been carried out. -/
theorem ensures_batches {α : Type} {xs : List α} {batches : List (List α)}
    {body : List α → Program PUnit} {C : List α → Cloud → Prop} {T : Prop}
    (hflat : batches.flatten = xs) (h₀ : C [] s)
    (hbody : ∀ done batch s', done ++ batch <+: xs → C done s' →
      Ensures serve May Inv (fun r s'' => match r with
        | .ok _ => C (done ++ batch) s''
        | .error _ => T ∧ (C done s'' ∨ C (done ++ batch) s'')) (body batch) s')
    (hok : ∀ s', C xs s' → post (.ok ⟨⟩) s')
    (herr : T → ∀ e done s', done <+: xs → C done s' → post (.error e) s') :
    Ensures serve May Inv post (batches.forM body) s := by
  refine @Ensures.forM _ _ _ _ _ serve May Inv s _ batches body post
    (fun before => C before.flatten) h₀ ?_ (fun s' h => hok s' (hflat ▸ h))
  intro before batch after s' hbatches hC
  have hsplit : before.flatten ++ batch ++ after.flatten = xs := by
    rw [← hflat, hbatches, flatten_append, flatten_cons, append_assoc]
  have hnext : before.flatten ++ batch <+: xs := ⟨_, hsplit⟩
  have hdone : before.flatten <+: xs := (prefix_append _ _).trans hnext
  refine (hbody _ batch s' hnext hC).mono (fun _ _ _ h => h) ?_
  rintro (e | _) s'' h
  · exact h.2.elim (herr h.1 e _ s'' hdone) (herr h.1 e _ s'' hnext)
  · rw [flatten_append, flatten_singleton]
    exact h

variable {nsg : String} {addRules : List SecurityRule} {removeRules : List String}

theorem ensures_edit {s' : Cloud} {q : Call} {f : Reply} {edit : NetworkSecurityGroup → Cloud}
    {message : String} {C C' : Cloud → Prop} (hgroup : s'.group nsg = s.group nsg)
    (hf : May s' q f) (hC : C s')
    (h : (∃ e, s'.editRules f nsg edit = (s', .error e)) ∨ C' (s'.editRules f nsg edit).1)
    (hinv : ∀ s'', C s'' ∨ C' s'' → Inv s' q s'') :
    Inv s' q (s'.editRules f nsg edit).1 ∧
    Ensures serve May Inv (fun r s'' => match r with
      | .ok _ => C' s''
      | .error _ => Trouble May s nsg ∧ (C s'' ∨ C' s''))
      (orWrap message (s'.editRules f nsg edit).2) (s'.editRules f nsg edit).1 := by
  have hcause : ∀ e, (s'.editRules f nsg edit).2 = .error e → Trouble May s nsg := by
    intro e he
    rcases Cloud.editRules_error he with hf' | hnone
    · exact .inr ⟨s', q, f, hf, hf'⟩
    · exact .inl (hgroup ▸ hnone)
  have hafter : C (s'.editRules f nsg edit).1 ∨ C' (s'.editRules f nsg edit).1 := by
    rcases h with ⟨e, he⟩ | h
    · exact .inl (he ▸ hC)
    · exact .inr h
  refine ⟨hinv _ hafter, ?_⟩
  cases he : (s'.editRules f nsg edit).2 with
  | error e => exact ⟨hcause e he, hafter⟩
  | ok _ =>
    rcases h with ⟨e, he'⟩ | h
    · rw [he'] at he
      cases he
    · exact h

/-- A write of a pass over the group `nsg` that began in `s`: the states before and after it. -/
inductive WriteStep (s : Cloud) (nsg : String) (addRules : List SecurityRule)
    (removeRules : List String) : Cloud → Call → Cloud → Prop where
  | add {adds batch : List SecurityRule} {s₁ s₂ : Cloud} (hpart : adds ++ batch <+: addRules)
      (h₁ : Changed s nsg adds [] s₁)
      (h₂ : Changed s nsg adds [] s₂ ∨ Changed s nsg (adds ++ batch) [] s₂) :
      WriteStep s nsg addRules removeRules s₁ (.addNetworkSecurityGroupSecurityRules nsg batch) s₂
  | remove {removes batch : List String} {s₁ s₂ : Cloud} (hpart : removes ++ batch <+: removeRules)
      (h₁ : Changed s nsg addRules removes s₁)
      (h₂ : Changed s nsg addRules removes s₂ ∨ Changed s nsg addRules (removes ++ batch) s₂) :
      WriteStep s nsg addRules removeRules s₁
        (.removeNetworkSecurityGroupSecurityRules nsg batch) s₂

/-- How far a pass has come: it adds before it removes. -/
def Phase (addRules : List SecurityRule) (removeRules : List String) (adds : List SecurityRule)
    (removes : List String) : Prop :=
  (adds <+: addRules ∧ removes = []) ∨ (adds = addRules ∧ removes <+: removeRules)

theorem WriteStep.exists_phase {s₁ s₂ : Cloud} {q : Call}
    (h : WriteStep s nsg addRules removeRules s₁ q s₂) :
    ∃ adds removes, Phase addRules removeRules adds removes ∧ Changed s nsg adds removes s₂ := by
  cases h with
  | add hpart _ h₂ =>
    rcases h₂ with h₂ | h₂
    · exact ⟨_, [], .inl ⟨(prefix_append _ _).trans hpart, rfl⟩, h₂⟩
    · exact ⟨_, [], .inl ⟨hpart, rfl⟩, h₂⟩
  | remove hpart _ h₂ =>
    rcases h₂ with h₂ | h₂
    · exact ⟨_, _, .inr ⟨rfl, (prefix_append _ _).trans hpart⟩, h₂⟩
    · exact ⟨_, _, .inr ⟨rfl, hpart⟩, h₂⟩

theorem ensures_add (hMay : ∀ s q f, May s q f → Legal s q f)
    (hinv : ∀ s₁ q s₂, WriteStep s nsg addRules removeRules s₁ q s₂ → Inv s₁ q s₂)
    (hok : ∀ s', Changed s nsg addRules [] s' → post (.ok ⟨⟩) s')
    (herr : Trouble May s nsg → ∀ e adds s', adds <+: addRules → Changed s nsg adds [] s' →
      post (.error e) s') :
    Ensures serve May Inv post (addNetworkSecurityGroupSecurityRules nsg addRules) s := by
  refine ensures_batches (C := fun adds => Changed s nsg adds [])
    (areBatches_cutBatches le_rfl).flatten_eq (.refl s nsg) ?_ hok herr
  intro adds batch s' hpart hC f hf
  exact ensures_edit (hC.group nsg) hf hC (hC.add (hMay _ _ _ hf)) fun s'' h =>
    hinv _ _ _ (.add hpart hC h)

theorem ensures_remove {s₁ : Cloud} (h₁ : Changed s nsg addRules [] s₁)
    (hold : ∀ id ∈ removeRules, id ∈ s.issued)
    (hinv : ∀ s₁ q s₂, WriteStep s nsg addRules removeRules s₁ q s₂ → Inv s₁ q s₂)
    (hok : ∀ s', Changed s nsg addRules removeRules s' → post (.ok ⟨⟩) s')
    (herr : Trouble May s nsg → ∀ e removes s', removes <+: removeRules →
      Changed s nsg addRules removes s' → post (.error e) s') :
    Ensures serve May Inv post (removeNetworkSecurityGroupSecurityRules nsg removeRules) s₁ := by
  refine ensures_batches (C := fun removes => Changed s nsg addRules removes)
    (areBatches_cutBatches le_rfl).flatten_eq h₁ ?_ hok herr
  intro removes batch s' hpart hC f hf
  have hbatch : ∀ id ∈ batch, id ∈ s.issued := fun id hid =>
    hold id (hpart.subset (mem_append_right _ hid))
  exact ensures_edit (hC.group nsg) hf hC (hC.remove hbatch) fun s'' h =>
    hinv _ _ _ (.remove hpart hC h)

theorem ensures_changeRules (hMay : ∀ s q f, May s q f → Legal s q f)
    (hold : ∀ id ∈ removeRules, id ∈ s.issued)
    (hinv : ∀ s₁ q s₂, addRules ≠ [] ∨ removeRules ≠ [] →
      WriteStep s nsg addRules removeRules s₁ q s₂ → Inv s₁ q s₂)
    (hok : ∀ s', Changed s nsg addRules removeRules s' → post (.ok ⟨⟩) s')
    (herr : Trouble May s nsg → ∀ e adds removes s', Phase addRules removeRules adds removes →
      Changed s nsg adds removes s' → post (.error e) s') :
    Ensures serve May Inv post (changeRules nsg addRules removeRules) s := by
  have hremove : ∀ s₁, Changed s nsg addRules [] s₁ → Ensures serve May Inv post
      (ifAny removeRules (removeNetworkSecurityGroupSecurityRules nsg)) s₁ := by
    intro s₁ h₁
    refine ensures_ifAny (fun hne => ?_) fun hnil => hok s₁ (hnil ▸ h₁)
    exact ensures_remove h₁ hold (fun s₁ q s₂ => hinv s₁ q s₂ (.inr hne)) hok
      (fun ht e r s' hr => herr ht e _ r s' (.inr ⟨rfl, hr⟩))
  refine Ensures.bind (ensures_ifAny (fun hne => ?_) fun hnil => ?_)
  · exact ensures_add hMay (fun s₁ q s₂ => hinv s₁ q s₂ (.inl hne)) hremove
      (fun ht e a s' ha => herr ht e a [] s' (.inl ⟨ha, rfl⟩))
  · exact hremove s (hnil ▸ .refl s nsg)

end Steps

/-! ## The changes of a pass -/

/-- The changes that make the rules of a service in a group those generated for it: `adds`
are the generated rules that no rule of the service matches, and `removes` the ids of the rules
of the service that match no generated rule. Only rules of the managed directions are removed. -/
structure Plans (uid : String) (Managed : Direction → Prop) (generated : List SecurityRule)
    (rules : List StoredRule) (changes : List SecurityRule × List String) : Prop where
  add_iff : ∀ rule, rule ∈ changes.1 ↔ rule ∈ generated ∧
    ∀ r ∈ rules, r.description = some uid → ruleKey r.toSecurityRule ≠ ruleKey rule
  remove_iff : ∀ id, id ∈ changes.2 ↔ ∃ r ∈ rules, r.id = id ∧ r.description = some uid ∧
    Managed r.direction ∧ findSecurityRule generated r.toSecurityRule = false
  nodup : (rules.map (·.id)).Nodup → changes.2.Nodup

theorem direction_eq_of_ruleKey {r r' : SecurityRule} (h : ruleKey r = ruleKey r') :
    r.direction = r'.direction :=
  congrArg (fun key => key.2.2.2.2) h

variable {generated : List SecurityRule} {uid : String} {rule : SecurityRule}

theorem plans_reconcileSecurityRules {direction : Direction}
    (hgenerated : ∀ g ∈ generated, g.direction = direction) (rules : List StoredRule) :
    Plans uid (· = direction) generated rules (reconcileSecurityRules generated
      (filterSecurityRulesForService (rules.filter (·.direction = direction)) uid)) := by
  constructor
  · intro rule
    simp only [mem_reconcileSecurityRules_add, mem_filterSecurityRulesForService, mem_filter,
      decide_eq_true_eq]
    refine and_congr_right fun hrule => ⟨fun h r hr huid hkey => ?_, fun h r hr => h r hr.1.1 hr.2⟩
    have hdirection := (direction_eq_of_ruleKey hkey).trans (hgenerated rule hrule)
    exact h r ⟨⟨hr, hdirection⟩, huid⟩ hkey
  · intro id
    simp only [mem_reconcileSecurityRules_remove, mem_filterSecurityRulesForService,
      mem_filter, decide_eq_true_eq]
    constructor
    · rintro ⟨r, ⟨⟨hr, hdirection⟩, huid⟩, hid, hfind⟩
      exact ⟨r, hr, hid, huid, hdirection, hfind⟩
    · rintro ⟨r, hr, hid, huid, hdirection, hfind⟩
      exact ⟨r, ⟨⟨hr, hdirection⟩, huid⟩, hid, hfind⟩
  · intro hnodup
    exact hnodup.sublist ((filter_sublist.trans (filter_sublist.trans
      filter_sublist)).map _)

theorem findSecurityRule_append {rules rules' : List SecurityRule} :
    findSecurityRule (rules ++ rules') rule =
      (findSecurityRule rules rule || findSecurityRule rules' rule) :=
  any_append

theorem findSecurityRule_of_direction_ne {rules : List SecurityRule}
    (h : ∀ r ∈ rules, r.direction ≠ rule.direction) : findSecurityRule rules rule = false := by
  rw [← Bool.not_eq_true, findSecurityRule_iff]
  rintro ⟨r, hr, hkey⟩
  exact h r hr (direction_eq_of_ruleKey hkey)

/-- The changes for both directions together. -/
theorem Plans.both {ingress egress : List SecurityRule} {rules : List StoredRule}
    {changes changes' : List SecurityRule × List String}
    (hingress : ∀ g ∈ ingress, g.direction = .ingress)
    (hegress : ∀ g ∈ egress, g.direction = .egress)
    (h : Plans uid (· = .ingress) ingress rules changes)
    (h' : Plans uid (· = .egress) egress rules changes') :
    Plans uid (fun _ => True) (ingress ++ egress) rules
      (changes.1 ++ changes'.1, changes.2 ++ changes'.2) := by
  constructor
  · intro rule
    simp only [mem_append, h.add_iff, h'.add_iff, or_and_right]
  · intro id
    simp only [mem_append, h.remove_iff, h'.remove_iff, ← exists_or, ← and_or_left,
      findSecurityRule_append, Bool.or_eq_false_iff, true_and]
    refine exists_congr fun r => and_congr_right fun _ => and_congr_right fun _ =>
      and_congr_right fun _ => ?_
    cases hd : r.direction with
    | ingress =>
      have : findSecurityRule egress r.toSecurityRule = false :=
        findSecurityRule_of_direction_ne fun g hg => by simp [hegress g hg, hd]
      simp [this]
    | egress =>
      have : findSecurityRule ingress r.toSecurityRule = false :=
        findSecurityRule_of_direction_ne fun g hg => by simp [hingress g hg, hd]
      simp [this]
  · intro hnodup
    refine nodup_append.mpr ⟨h.nodup hnodup, h'.nodup hnodup, fun id hid id' hid' heq => ?_⟩
    obtain ⟨r, hr, rfl, -, hd, -⟩ := (h.remove_iff id).mp hid
    obtain ⟨r', hr', rfl, -, hd', -⟩ := (h'.remove_iff id').mp hid'
    obtain rfl := inj_on_of_nodup_map hnodup hr hr' heq
    rw [hd] at hd'
    cases hd'

namespace SecurityRuleComponents

variable {c : SecurityRuleComponents} {o : RangeOrder} {rule : SecurityRule}

theorem mem_lbIngressRules : rule ∈ c.lbIngressRules o ↔
    ∃ name port, c.ports.lookup name = some port ∧ port.listenerPort ≠ 0 ∧
      ∃ cidr ∈ c.sourceCIDRs, makeNsgSecurityRule .ingress cidr c.serviceUid port.listenerPort
        .cidrBlock = rule := by
  simp only [lbIngressRules, generateNsgLoadBalancerIngressRules, mem_flatMap, Prod.exists,
    RangeOrder.mem_range]
  refine exists_congr fun name => exists_congr fun port => and_congr_right fun _ => ?_
  by_cases hport : port.listenerPort = 0 <;> simp [hport]

theorem mem_lbEgressRules : rule ∈ c.lbEgressRules o ↔
    ∃ port ∈ openPorts false (o.range 1 c.ports), ∃ nsg ∈ c.backendNsgOcids,
      makeNsgSecurityRule .egress nsg c.serviceUid port .networkSecurityGroup = rule := by
  simp [lbEgressRules, generateNsgLoadBalancerEgressRules]

theorem mem_backendIngressRules {i : Nat} : rule ∈ c.backendIngressRules o i ↔
    (c.isPreserveSource = true ∧ ∃ name port, c.ports.lookup name = some port ∧
      port.backendPort ≠ 0 ∧ ∃ cidr ∈ c.sourceCIDRs,
        makeNsgSecurityRule .ingress cidr c.serviceUid port.backendPort .cidrBlock = rule) ∨
    ∃ port ∈ openPorts false (o.range (2 + 2 * i + 1) c.ports),
      makeNsgSecurityRule .ingress c.frontendNsgOcid c.serviceUid port .networkSecurityGroup =
        rule := by
  simp only [backendIngressRules, generateNsgBackendIngressRules, mem_append, mem_map]
  refine or_congr ?_ .rfl
  cases c.isPreserveSource with
  | false => simp
  | true =>
    simp only [if_true, mem_flatMap, Prod.exists, RangeOrder.mem_range, true_and]
    refine exists_congr fun name => exists_congr fun port => and_congr_right fun _ => ?_
    by_cases hport : port.backendPort = 0 <;> simp [hport]

/-- The rules generated for the frontend group. -/
def frontendRules (c : SecurityRuleComponents) (o : RangeOrder) : List SecurityRule :=
  c.lbIngressRules o ++ c.lbEgressRules o

theorem of_mem_lbIngressRules (h : rule ∈ c.lbIngressRules o) :
    rule.direction = .ingress ∧ rule.description = some c.serviceUid := by
  obtain ⟨_, _, -, -, _, -, rfl⟩ := mem_lbIngressRules.mp h
  simp

theorem of_mem_lbEgressRules (h : rule ∈ c.lbEgressRules o) :
    rule.direction = .egress ∧ rule.description = some c.serviceUid := by
  obtain ⟨_, -, _, -, rfl⟩ := mem_lbEgressRules.mp h
  simp

theorem of_mem_backendIngressRules {i : Nat} (h : rule ∈ c.backendIngressRules o i) :
    rule.direction = .ingress ∧ rule.description = some c.serviceUid := by
  rcases mem_backendIngressRules.mp h with ⟨-, _, _, -, -, _, -, rfl⟩ | ⟨_, -, rfl⟩ <;> simp

theorem description_of_mem_frontendRules (h : rule ∈ c.frontendRules o) :
    rule.description = some c.serviceUid :=
  (mem_append.mp h).elim (fun h => (of_mem_lbIngressRules h).2) fun h =>
    (of_mem_lbEgressRules h).2

end SecurityRuleComponents

/-- The changes that a pass over the frontend group computes in this state. -/
def frontendPlan (o : RangeOrder) (c : SecurityRuleComponents) (s : Cloud) :
    List SecurityRule × List String :=
  frontendChanges o c ((s.rules c.frontendNsgOcid).filter (·.direction = .ingress))
    ((s.rules c.frontendNsgOcid).filter (·.direction = .egress))

/-- The changes that a pass over a backend group computes in this state. -/
def backendPlan (o : RangeOrder) (c : SecurityRuleComponents) (nsg : String) (i : Nat)
    (s : Cloud) : List SecurityRule × List String :=
  backendChanges o c i ((s.rules nsg).filter (·.direction = .ingress))

theorem plans_frontendPlan (o : RangeOrder) (c : SecurityRuleComponents) (s : Cloud) :
    Plans c.serviceUid (fun _ => True) (c.frontendRules o) (s.rules c.frontendNsgOcid)
      (frontendPlan o c s) :=
  have hingress : ∀ g ∈ c.lbIngressRules o, g.direction = .ingress := fun _ h =>
    (SecurityRuleComponents.of_mem_lbIngressRules h).1
  have hegress : ∀ g ∈ c.lbEgressRules o, g.direction = .egress := fun _ h =>
    (SecurityRuleComponents.of_mem_lbEgressRules h).1
  .both hingress hegress (plans_reconcileSecurityRules hingress _)
    (plans_reconcileSecurityRules hegress _)

theorem plans_backendPlan (o : RangeOrder) (c : SecurityRuleComponents) (nsg : String) (i : Nat)
    (s : Cloud) : Plans c.serviceUid (· = .ingress) (c.backendIngressRules o i) (s.rules nsg)
      (backendPlan o c nsg i s) :=
  plans_reconcileSecurityRules
    (fun _ h => (SecurityRuleComponents.of_mem_backendIngressRules h).1) _

theorem Plans.issued {Managed : Direction → Prop} {nsg : String} {s : Cloud}
    {changes : List SecurityRule × List String}
    (h : Plans uid Managed generated (s.rules nsg) changes) (hs : s.WellFormed) :
    ∀ id ∈ changes.2, id ∈ s.issued := by
  intro id hid
  obtain ⟨r, hr, rfl, -⟩ := (h.remove_iff id).mp hid
  exact hs.issued nsg r hr

/-! ## What a pass ensures -/

/-- What has to be shown of the states that a pass over the group `nsg` goes through when it
makes the given changes. -/
structure PassMeets (May : Cloud → Call → Reply → Prop) (Inv : Cloud → Call → Cloud → Prop)
    (post : Except String PUnit → Cloud → Prop) (s : Cloud) (nsg : String)
    (changes : List SecurityRule × List String) : Prop where
  read : ∀ q, q.IsRead → Inv s q s
  write : ∀ s₁ q s₂, changes.1 ≠ [] ∨ changes.2 ≠ [] →
    WriteStep s nsg changes.1 changes.2 s₁ q s₂ → Inv s₁ q s₂
  ok : ∀ s', nsg ≠ "" → Changed s nsg changes.1 changes.2 s' → post (.ok ⟨⟩) s'
  fails : nsg = "" ∨ Trouble May s nsg → ∀ e adds removes s',
    Phase changes.1 changes.2 adds removes → Changed s nsg adds removes s' → post (.error e) s'

section Passes

variable {May : Cloud → Call → Reply → Prop} {Inv : Cloud → Call → Cloud → Prop} {s : Cloud}
  {post : Except String PUnit → Cloud → Prop} {o : RangeOrder} {c : SecurityRuleComponents}
  {nsg : String} {changes : List SecurityRule × List String} {I : Cloud → Prop}

theorem PassMeets.readFails (h : PassMeets May Inv post s nsg changes)
    (hfail : nsg = "" ∨ Trouble May s nsg) (e : String) :
    post (.error e) s :=
  h.fails hfail e [] [] s (.inl ⟨List.nil_prefix, rfl⟩) (.refl s nsg)

theorem ensures_frontendPass (hMay : ∀ s q f, May s q f → Legal s q f) (hs : s.WellFormed)
    (h : PassMeets May Inv post s c.frontendNsgOcid (frontendPlan o c s)) :
    Ensures serve May Inv post (frontendPass o c) s := by
  refine Ensures.bind (ensures_getNsg (h.read _ trivial) (fun _ hid => ?_) h.readFails)
  refine Ensures.bind (ensures_listNsgRules (h.read _ trivial) ?_ h.readFails)
  refine Ensures.bind (ensures_listNsgRules (h.read _ trivial) ?_ h.readFails)
  exact ensures_changeRules hMay ((plans_frontendPlan o c s).issued hs) h.write
    (fun s' => h.ok s' hid) (fun ht => h.fails (.inr ht))

theorem ensures_backendPass {i : Nat} (hMay : ∀ s q f, May s q f → Legal s q f) (hs : s.WellFormed)
    (h : PassMeets May Inv post s nsg (backendPlan o c nsg i s)) :
    Ensures serve May Inv post (backendPass o c nsg i) s := by
  refine Ensures.bind (ensures_getNsg (h.read _ trivial) (fun _ hid => ?_) h.readFails)
  refine Ensures.bind (ensures_listNsgRules (h.read _ trivial) ?_ h.readFails)
  exact ensures_changeRules hMay ((plans_backendPlan o c nsg i s).issued hs) h.write
    (fun s' => h.ok s' hid) (fun ht => h.fails (.inr ht))

/-- The pass of `removeBackendSecurityGroupRules` makes the changes of a pass for which no rule
is generated. -/
def cleanupPass (c : SecurityRuleComponents) (nsg : String) : Program PUnit := do
  let _ ← getNsg nsg
  let existingIngress ← listNsgRules nsg .ingress
  changeRules nsg [] (filterSecurityRulesIdsForService existingIngress c.serviceUid)

theorem removeBackendSecurityGroupRules_eq (c : SecurityRuleComponents) :
    removeBackendSecurityGroupRules c = c.backendNsgOcids.forM (cleanupPass c) := rfl

theorem plans_cleanup (uid : String) (rules : List StoredRule) :
    Plans uid (· = .ingress) [] rules
      ([], filterSecurityRulesIdsForService (rules.filter (·.direction = .ingress)) uid) := by
  have h := @plans_reconcileSecurityRules [] uid .ingress (by simp) rules
  simpa [reconcileSecurityRules, findSecurityRule, filterSecurityRulesIdsForService] using h

theorem ensures_cleanupPass (hMay : ∀ s q f, May s q f → Legal s q f) (hs : s.WellFormed)
    (h : PassMeets May Inv post s nsg ([], filterSecurityRulesIdsForService
      ((s.rules nsg).filter (·.direction = .ingress)) c.serviceUid)) :
    Ensures serve May Inv post (cleanupPass c nsg) s := by
  refine Ensures.bind (ensures_getNsg (h.read _ trivial) (fun _ hid => ?_) h.readFails)
  refine Ensures.bind (ensures_listNsgRules (h.read _ trivial) ?_ h.readFails)
  exact ensures_changeRules hMay ((plans_cleanup c.serviceUid _).issued hs) h.write
    (fun s' => h.ok s' hid) (fun ht => h.fails (.inr ht))

/-- A group for which a run fails in some state with the property `I`. -/
def FailsIn (May : Cloud → Call → Reply → Prop) (I : Cloud → Prop) (nsg : String) : Prop :=
  nsg = "" ∨ ∃ s, I s ∧ Trouble May s nsg

theorem PassMeets.of_keeps {uid : String} {Managed : Direction → Prop}
    {generated : List SecurityRule} (hs : I s)
    (hplans : Plans uid Managed generated (s.rules nsg) changes)
    (hkeeps : ∀ adds removes s', (∀ rule ∈ adds, rule ∈ generated) →
      Changed s nsg adds removes s' → I s') (hok : ∀ s', I s' → post (.ok ⟨⟩) s')
    (herr : FailsIn May I nsg → ∀ e s', I s' → post (.error e) s') :
    PassMeets May (fun _ _ => I) post s nsg changes := by
  have hphase : ∀ adds removes s', Phase changes.1 changes.2 adds removes →
      Changed s nsg adds removes s' → I s' := by
    intro adds removes s' hphase
    refine hkeeps adds removes s' fun rule hrule => ((hplans.add_iff rule).mp ?_).1
    rcases hphase with ⟨hadds, -⟩ | ⟨rfl, -⟩
    · exact hadds.subset hrule
    · exact hrule
  refine ⟨fun _ _ => hs, fun s₁ q s₂ _ hwrite => ?_, fun s' _ hchanged => hok s' ?_,
    fun hfail e adds removes s' h hchanged => herr ?_ e s' (hphase _ _ s' h hchanged)⟩
  · obtain ⟨adds, removes, h, hchanged⟩ := hwrite.exists_phase
    exact hphase adds removes s₂ h hchanged
  · exact hphase _ _ s' (.inr ⟨rfl, prefix_rfl⟩) hchanged
  · exact hfail.imp_right fun h => ⟨s, hs, h⟩

theorem ensures_reconcile_keeps (hMay : ∀ s q f, May s q f → Legal s q f)
    (hI : ∀ s, I s → s.WellFormed) (hs : I s)
    (hfrontend : ∀ s adds removes s', I s → (∀ rule ∈ adds, rule ∈ c.frontendRules o) →
      Changed s c.frontendNsgOcid adds removes s' → I s')
    (hbackend : ∀ s nsg i adds removes s', nsg ∈ c.backendNsgOcids → I s →
      (∀ rule ∈ adds, rule ∈ c.backendIngressRules o i) → Changed s nsg adds removes s' → I s') :
    Ensures serve May (fun _ _ => I) (fun r s' => I s' ∧ match r with
      | .ok _ => True
      | .error _ => ∃ id ∈ c.frontendNsgOcid :: c.backendNsgOcids, FailsIn May I id)
      (reconcileSecurityGroup o c) s := by
  refine Ensures.bind (ensures_frontendPass hMay (hI s hs) (.of_keeps hs (plans_frontendPlan o c s)
    (fun adds removes s' => hfrontend s adds removes s' hs) (fun s₁ h₁ => ?_)
    fun hfail e s' h' => ⟨h', _, mem_cons_self, hfail⟩))
  refine @Ensures.forM _ _ _ _ _ serve May _ s₁ _ _ _ _ (fun _ => I) h₁ ?_ (fun _ h => ⟨h, trivial⟩)
  rintro passed ⟨nsg, i⟩ after s₂ hsplit h₂
  have hnsg : nsg ∈ c.backendNsgOcids :=
    (mem_zipIdx' (hsplit ▸ mem_append_right _ mem_cons_self)).2 ▸ getElem_mem _
  exact ensures_backendPass hMay (hI s₂ h₂) (.of_keeps h₂ (plans_backendPlan o c nsg i s₂)
    (fun adds removes s' => hbackend s₂ nsg i adds removes s' hnsg h₂) (fun s₃ h₃ => h₃)
    fun hfail e s' h' => ⟨h', nsg, mem_cons_of_mem _ hnsg, hfail⟩)

end Passes

end OciCcm.NetworkSecurityGroups
