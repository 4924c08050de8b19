import OciCcm.Client
import OciCcm.Go.Program
import OciCcm.NetworkSecurityGroups.Rules

/-! # The cloud as the controller sees it

Network security groups with their rules, the load balancers they are attached
to, and the calls that read and change them. Every call may fail. A write that
fails may have been carried out all the same, except that of a new group. Rule
ids are never given out twice. The virtual network is the one of the
configuration and is left out.
-/

namespace OciCcm.NetworkSecurityGroups

open Go Client List

structure NetworkSecurityGroup where
  displayName : String
  compartmentId : String
  freeformTags : GoMap String
  etag : String
  securityRules : List StoredRule := []
deriving DecidableEq

/-- A load balancer, as far as network security groups are concerned. -/
structure AttachedLoadBalancer where
  displayName : String
  compartmentId : String
  networkSecurityGroupIds : Option (List String)
deriving DecidableEq, Repr

/-- `nsgs` and `loadBalancers` are found by OCID. `issued` holds the rule ids given out so
far, and `retryTokens` the group that was created with a token. -/
structure Cloud where
  nsgs : GoMap NetworkSecurityGroup
  loadBalancers : GoMap AttachedLoadBalancer
  issued : List String
  retryTokens : GoMap String

/-- Steps of the controller that can fail and do not concern network security groups. -/
inductive ProviderStep where
  | checkService
  | checkPendingLBWorkRequests
  | newLBSpec
  | getSubnets
  | checkLifecycleState
  | awaitWorkRequest
  | ensureSSLCertificates
  | checkForNetworkPartition
  | updateListenersAndBackendSets
  | updateShape
  | cleanupSecurityRules
deriving DecidableEq, Repr

inductive Call where
  | getNetworkSecurityGroup (id : String)
  | listNetworkSecurityGroups (displayName compartmentId : String)
  | createNetworkSecurityGroup (compartmentId displayName serviceUid : String)
  | updateNetworkSecurityGroup (id etag : String) (freeformTags : GoMap String)
  | deleteNetworkSecurityGroup (id etag : String)
  | listNetworkSecurityGroupSecurityRules (id : String) (direction : Direction)
  | addNetworkSecurityGroupSecurityRules (id : String) (rules : List SecurityRule)
  | removeNetworkSecurityGroupSecurityRules (id : String) (ruleIds : List String)
  | getLoadBalancerByName (compartmentId name : String)
  | createLoadBalancer (compartmentId name : String) (networkSecurityGroupIds : List String)
  | updateNetworkSecurityGroups (lbID : String) (networkSecurityGroupIds : List String)
  | deleteLoadBalancer (lbID : String)
  | other (step : ProviderStep)

/-- What a call returns. The answer of `other` matters only to the check for a network
partition. -/
abbrev Answer : Call → Type
  | .getNetworkSecurityGroup _ => Except ClientError (NetworkSecurityGroup × Option String)
  | .listNetworkSecurityGroups _ _ => Except ClientError (List String)
  | .createNetworkSecurityGroup _ _ _ => Except ClientError String
  | .updateNetworkSecurityGroup _ _ _ => Except ClientError Unit
  | .deleteNetworkSecurityGroup _ _ => Except ClientError Unit
  | .listNetworkSecurityGroupSecurityRules _ _ => Except ClientError (List StoredRule)
  | .addNetworkSecurityGroupSecurityRules _ _ => Except ClientError Unit
  | .removeNetworkSecurityGroupSecurityRules _ _ => Except ClientError Unit
  | .getLoadBalancerByName _ _ => Except ClientError (String × AttachedLoadBalancer)
  | .createLoadBalancer _ _ _ => Except ClientError Unit
  | .updateNetworkSecurityGroups _ _ => Except ClientError Unit
  | .deleteLoadBalancer _ => Except ClientError Unit
  | .other _ => Except ClientError Bool

/-- What the server is free to choose: whether the call fails, whether it is carried out
though it fails, the ids and the etag it gives out, and whether it still remembers the
retry token. -/
structure Reply where
  error : Option ClientError := none
  carriedOut : Bool := false
  ids : List String := []
  etag : String := ""
  remembersToken : Bool := false
  flag : Bool := false

/-- A reply without an error that gives out nothing. -/
def Reply.ok : Reply := {}

def notFound : ClientError := .serviceError 404 "NotAuthorizedOrNotFound"

def preconditionFailed : ClientError := .serviceError 412 "NoEtagMatch"

/-- The error of the reply, or else the given answer. -/
def Reply.answer {α : Type} (f : Reply) (a : Except ClientError α) : Except ClientError α :=
  match f.error with
  | some e => .error e
  | none => a

/-- A write takes place unless the reply says that it failed before. -/
abbrev Reply.Writes (f : Reply) : Prop := f.error = none ∨ f.carriedOut = true

def store (rules : List SecurityRule) (ids : List String) : List StoredRule :=
  rules.zipWith (fun rule id => { rule with id }) ids

/-- The tags by which the controller knows the groups that it has created for a service. -/
def managedTags (serviceUid : String) : GoMap String :=
  GoMap.ofPairs [("CreatedBy", "CCM"), ("ServiceUid", serviceUid)]

def Cloud.findByName (s : Cloud) (compartmentId name : String) :
    Option (String × AttachedLoadBalancer) :=
  s.loadBalancers.toPairs.find? fun e => e.2.compartmentId = compartmentId ∧ e.2.displayName = name

/-- The group that a create call with this token has created, if the server remembers. -/
def Cloud.remembered (s : Cloud) (f : Reply) (token : String) : Option String :=
  if f.remembersToken then (s.retryTokens.lookup token).filter (· ∈ s.nsgs) else none

/-- The cloud after the rules of an existing group have been set. -/
def Cloud.setRules (s : Cloud) (id : String) (nsg : NetworkSecurityGroup)
    (rules : List StoredRule) (issued : List String) : Cloud :=
  { s with nsgs := s.nsgs.insert id { nsg with securityRules := rules }, issued }

/-- A write to the rules of a group. -/
def Cloud.editRules (s : Cloud) (f : Reply) (id : String) (edit : NetworkSecurityGroup → Cloud) :
    Cloud × Except ClientError Unit :=
  match s.nsgs.lookup id with
  | none => (s, f.answer (.error notFound))
  | some nsg => (if f.Writes then edit nsg else s, f.answer (.ok ()))

def serve (s : Cloud) : (q : Call) → Reply → Cloud × Answer q
  | .getNetworkSecurityGroup id, f =>
    (s, f.answer (match s.nsgs.lookup id with
      | none => .error notFound
      | some nsg => .ok (nsg, some nsg.etag)))
  | .listNetworkSecurityGroups displayName compartmentId, f =>
    (s, f.answer (.ok ((s.nsgs.toPairs.filter fun e =>
      e.2.displayName = displayName ∧ e.2.compartmentId = compartmentId).map Prod.fst)))
  | .createNetworkSecurityGroup compartmentId displayName serviceUid, f =>
    match f.error, s.remembered f serviceUid with
    | some e, _ => (s, .error e)
    | none, some id => (s, .ok id)
    | none, none =>
      let id := f.ids.headD ""
      ({ s with
        nsgs := s.nsgs.insert id {
          displayName, compartmentId, freeformTags := managedTags serviceUid, etag := f.etag }
        retryTokens := s.retryTokens.insert serviceUid id }, .ok id)
  | .updateNetworkSecurityGroup id etag freeformTags, f =>
    match s.nsgs.lookup id with
    | none => (s, f.answer (.error notFound))
    | some nsg =>
      if nsg.etag = etag then
        (if f.Writes then
          { s with nsgs := s.nsgs.insert id { nsg with freeformTags, etag := f.etag } } else s,
          f.answer (.ok ()))
      else (s, f.answer (.error preconditionFailed))
  | .deleteNetworkSecurityGroup id etag, f =>
    match s.nsgs.lookup id with
    | none => (s, f.answer (.error notFound))
    | some nsg =>
      if nsg.etag = etag then
        (if f.Writes then { s with nsgs := s.nsgs.erase id } else s, f.answer (.ok ()))
      else (s, f.answer (.error preconditionFailed))
  | .listNetworkSecurityGroupSecurityRules id direction, f =>
    (s, f.answer (match s.nsgs.lookup id with
      | none => .error notFound
      | some nsg => .ok (nsg.securityRules.filter (·.direction = direction))))
  | .addNetworkSecurityGroupSecurityRules id rules, f =>
    s.editRules f id fun nsg =>
      s.setRules id nsg (nsg.securityRules ++ store rules f.ids) (s.issued ++ f.ids)
  | .removeNetworkSecurityGroupSecurityRules id ruleIds, f =>
    s.editRules f id fun nsg =>
      s.setRules id nsg (nsg.securityRules.filter (·.id ∉ ruleIds)) s.issued
  | .getLoadBalancerByName compartmentId name, f =>
    (s, f.answer (match s.findByName compartmentId name with
      | none => .error notFound
      | some lb => .ok lb))
  | .createLoadBalancer compartmentId displayName nsgIds, f =>
    (if f.Writes then
      { s with
        loadBalancers := s.loadBalancers.insert (f.ids.headD "")
          { displayName, compartmentId, networkSecurityGroupIds := some nsgIds } }
      else s, f.answer (.ok ()))
  | .updateNetworkSecurityGroups lbID nsgIds, f =>
    match s.loadBalancers.lookup lbID with
    | none => (s, f.answer (.error notFound))
    | some lb =>
      (if f.Writes then
        { s with
          loadBalancers := s.loadBalancers.insert lbID
            { lb with networkSecurityGroupIds := some nsgIds } }
        else s, f.answer (.ok ()))
  | .deleteLoadBalancer lbID, f =>
    (if f.Writes then { s with loadBalancers := s.loadBalancers.erase lbID } else s,
      f.answer (.ok ()))
  | .other _, f => (s, f.answer (.ok f.flag))

/-- The ids that the server gives out are new. -/
def Legal (s : Cloud) : Call → Reply → Prop
  | .createNetworkSecurityGroup .., f => ∃ id ∈ f.ids.head?, id ≠ "" ∧ id ∉ s.nsgs
  | .addNetworkSecurityGroupSecurityRules _ rules, f =>
    f.ids.length = rules.length ∧ f.ids.Nodup ∧ ∀ id ∈ f.ids, id ∉ s.issued
  | .createLoadBalancer .., f => ∃ id ∈ f.ids.head?, id ≠ "" ∧ id ∉ s.loadBalancers
  | _, _ => True

instance (s : Cloud) (q : Call) (f : Reply) : Decidable (Legal s q f) := by
  unfold Legal
  split <;> infer_instance

/-! ## Groups and their rules -/

namespace Cloud

/-- The rules of a group; there are none in a group that does not exist. -/
def rules (s : Cloud) (id : String) : List StoredRule :=
  ((s.nsgs.lookup id).map (·.securityRules)).getD []

/-- A group without its rules. -/
def group (s : Cloud) (id : String) : Option NetworkSecurityGroup :=
  (s.nsgs.lookup id).map fun nsg => { nsg with securityRules := [] }

/-- Rule ids are unique in their group and have been given out. -/
structure WellFormed (s : Cloud) : Prop where
  nodup : ∀ id, ((s.rules id).map (·.id)).Nodup
  issued : ∀ id, ∀ rule ∈ s.rules id, rule.id ∈ s.issued

variable {s : Cloud} {id : String} {nsg : NetworkSecurityGroup} {new : List StoredRule}
  {issued : List String}

@[simp] theorem rules_setRules_self : (s.setRules id nsg new issued).rules id = new := by
  simp [rules, setRules]

theorem rules_setRules_of_ne {id' : String} (h : id' ≠ id) :
    (s.setRules id nsg new issued).rules id' = s.rules id' := by
  simp [rules, setRules, AList.lookup_insert_ne h]

theorem group_setRules (hnsg : s.nsgs.lookup id = some nsg) (id' : String) :
    (s.setRules id nsg new issued).group id' = s.group id' := by
  by_cases h : id' = id
  · subst h
    simp [group, setRules, hnsg]
  · simp [group, setRules, AList.lookup_insert_ne h]

theorem rules_of_lookup (hnsg : s.nsgs.lookup id = some nsg) : s.rules id = nsg.securityRules := by
  simp [rules, hnsg]

theorem wellFormed_iff : s.WellFormed ↔ ∀ e ∈ s.nsgs.toPairs,
    (e.2.securityRules.map (·.id)).Nodup ∧ ∀ rule ∈ e.2.securityRules, rule.id ∈ s.issued := by
  constructor
  · rintro h ⟨id, nsg⟩ he
    have hrules := rules_of_lookup (GoMap.mem_toPairs.mp he)
    exact ⟨hrules ▸ h.nodup id, hrules ▸ h.issued id⟩
  · intro h
    have hrules : ∀ id, ((s.rules id).map (·.id)).Nodup ∧ ∀ rule ∈ s.rules id, rule.id ∈ s.issued := by
      intro id
      cases hnsg : s.nsgs.lookup id with
      | none => simp [rules, hnsg]
      | some nsg =>
        rw [rules_of_lookup hnsg]
        exact h (id, nsg) (GoMap.mem_toPairs.mpr hnsg)
    exact ⟨fun id => (hrules id).1, fun id => (hrules id).2⟩

instance (s : Cloud) : Decidable s.WellFormed := decidable_of_iff _ wellFormed_iff.symm

end Cloud

theorem Cloud.editRules_cases (s : Cloud) (f : Reply) (id : String)
    (edit : NetworkSecurityGroup → Cloud) :
    (∃ e, s.editRules f id edit = (s, .error e)) ∨
    ∃ nsg, s.nsgs.lookup id = some nsg ∧ (s.editRules f id edit).1 = edit nsg := by
  cases hnsg : s.nsgs.lookup id with
  | none =>
    left
    cases he : f.error with
    | none => exact ⟨notFound, by simp [editRules, hnsg, Reply.answer, he]⟩
    | some e => exact ⟨e, by simp [editRules, hnsg, Reply.answer, he]⟩
  | some nsg =>
    by_cases hw : f.Writes
    · exact .inr ⟨nsg, rfl, by simp [editRules, hnsg, hw]⟩
    · obtain ⟨e, he⟩ := Option.ne_none_iff_exists'.mp fun h => hw (.inl h)
      exact .inl ⟨e, by simp [editRules, hnsg, hw, Reply.answer, he]⟩

theorem Cloud.editRules_error {s : Cloud} {f : Reply} {id : String}
    {edit : NetworkSecurityGroup → Cloud} {e : ClientError}
    (h : (s.editRules f id edit).2 = .error e) : f.error ≠ none ∨ s.group id = none := by
  cases hnsg : s.nsgs.lookup id with
  | none => exact .inr (by simp [group, hnsg])
  | some nsg =>
    left
    intro he
    simp [editRules, hnsg, Reply.answer, he] at h

variable {ids : List String} {rules : List SecurityRule}

theorem map_id_store (h : ids.length = rules.length) : (store rules ids).map (·.id) = ids := by
  induction rules generalizing ids with
  | nil => simp [length_eq_zero_iff.mp h, store]
  | cons rule rules ih =>
    obtain ⟨id, ids, rfl⟩ := exists_cons_of_length_eq_add_one h
    simpa [store] using ih (Nat.succ.inj h)

theorem map_toSecurityRule_store (h : ids.length = rules.length) :
    (store rules ids).map (·.toSecurityRule) = rules := by
  induction rules generalizing ids with
  | nil => simp [store]
  | cons rule rules ih =>
    obtain ⟨id, ids, rfl⟩ := exists_cons_of_length_eq_add_one h
    simpa [store] using ih (Nat.succ.inj h)

theorem store_append {rules rules' : List SecurityRule} {ids ids' : List String}
    (h : ids.length = rules.length) :
    store (rules ++ rules') (ids ++ ids') = store rules ids ++ store rules' ids' :=
  zipWith_append h.symm

/-! ## Changes to one group -/

/-- Between `s` and `s'` the rules `adds` have been added to a group, with new ids, and the
rules with the ids `removes` have been removed from it. Nothing else has changed. -/
structure Changed (s : Cloud) (nsg : String) (adds : List SecurityRule) (removes : List String)
    (s' : Cloud) : Prop where
  group : ∀ id, s'.group id = s.group id
  loadBalancers : s'.loadBalancers = s.loadBalancers
  retryTokens : s'.retryTokens = s.retryTokens
  rules_of_ne : ∀ id, id ≠ nsg → s'.rules id = s.rules id
  rules : ∃ ids, ids.length = adds.length ∧ ids.Nodup ∧ (∀ id ∈ ids, id ∉ s.issued) ∧
    s'.issued = s.issued ++ ids ∧
    s'.rules nsg = (s.rules nsg).filter (·.id ∉ removes) ++ store adds ids

namespace Changed

variable {s s₁ : Cloud} {nsg : String} {adds : List SecurityRule} {removes : List String}

theorem refl (s : Cloud) (nsg : String) : Changed s nsg [] [] s where
  group _ := rfl
  loadBalancers := rfl
  retryTokens := rfl
  rules_of_ne _ _ := rfl
  rules := ⟨[], rfl, .nil, by simp, by simp, by simp [store]⟩

theorem rules_eq (h : Changed s nsg [] [] s₁) (id : String) : s₁.rules id = s.rules id := by
  by_cases hid : id = nsg
  · subst hid
    obtain ⟨ids, -, -, -, -, hrules⟩ := h.rules
    simpa [store] using hrules
  · exact h.rules_of_ne id hid

theorem add (h : Changed s nsg adds [] s₁) {more : List SecurityRule} {f : Reply}
    (hlegal : Legal s₁ (.addNetworkSecurityGroupSecurityRules nsg more) f) :
    (∃ e, serve s₁ (.addNetworkSecurityGroupSecurityRules nsg more) f = (s₁, .error e)) ∨
    Changed s nsg (adds ++ more) []
      (serve s₁ (.addNetworkSecurityGroupSecurityRules nsg more) f).1 := by
  rcases Cloud.editRules_cases s₁ f nsg _ with he | ⟨g, hg, hserve⟩
  · exact .inl he
  right
  rw [serve, hserve, ← Cloud.rules_of_lookup hg]
  obtain ⟨ids, hlen, hnodup, hnew, hissued, hrules⟩ := h.rules
  obtain ⟨hlen', hnodup', hnew'⟩ := hlegal
  rw [hissued] at hnew'
  refine ⟨fun id => (Cloud.group_setRules hg id).trans (h.group id), h.loadBalancers,
    h.retryTokens, fun id hid => (Cloud.rules_setRules_of_ne hid).trans (h.rules_of_ne id hid),
    ids ++ f.ids, ?_, ?_, ?_, ?_, ?_⟩
  · rw [length_append, length_append, hlen, hlen']
  · refine nodup_append.mpr ⟨hnodup, hnodup', fun a ha b hb hab => ?_⟩
    exact hnew' b hb (mem_append_right _ (hab ▸ ha))
  · intro id hid
    rcases mem_append.mp hid with hid | hid
    · exact hnew id hid
    · exact fun hs => hnew' id hid (mem_append_left _ hs)
  · rw [Cloud.setRules, hissued, append_assoc]
  · rw [Cloud.rules_setRules_self, hrules, store_append hlen, append_assoc]

theorem remove (h : Changed s nsg adds removes s₁) {more : List String} {f : Reply}
    (hold : ∀ id ∈ more, id ∈ s.issued) :
    (∃ e, serve s₁ (.removeNetworkSecurityGroupSecurityRules nsg more) f = (s₁, .error e)) ∨
    Changed s nsg adds (removes ++ more)
      (serve s₁ (.removeNetworkSecurityGroupSecurityRules nsg more) f).1 := by
  rcases Cloud.editRules_cases s₁ f nsg _ with he | ⟨g, hg, hserve⟩
  · exact .inl he
  right
  rw [serve, hserve, ← Cloud.rules_of_lookup hg]
  obtain ⟨ids, hlen, hnodup, hnew, hissued, hrules⟩ := h.rules
  refine ⟨fun id => (Cloud.group_setRules hg id).trans (h.group id), h.loadBalancers,
    h.retryTokens, fun id hid => (Cloud.rules_setRules_of_ne hid).trans (h.rules_of_ne id hid),
    ids, hlen, hnodup, hnew, hissued, ?_⟩
  -- the ids that are removed are older than those of the rules that have been added
  have hadded : (store adds ids).filter (·.id ∉ more) = store adds ids := by
    refine filter_eq_self.mpr fun rule hrule => decide_eq_true fun hmem => ?_
    exact hnew rule.id (map_id_store hlen ▸ mem_map_of_mem hrule) (hold _ hmem)
  rw [Cloud.rules_setRules_self, hrules, filter_append, hadded, filter_filter]
  congr 1
  refine filter_congr fun rule _ => ?_
  simp [Bool.and_comm]

theorem wellFormed (h : Changed s nsg adds removes s₁) (hs : s.WellFormed) : s₁.WellFormed := by
  obtain ⟨ids, hlen, hnodup, hnew, hissued, hrules⟩ := h.rules
  constructor
  · intro id
    by_cases hid : id = nsg
    · subst hid
      rw [hrules, map_append, map_id_store hlen]
      refine nodup_append.mpr ⟨(hs.nodup id).sublist (filter_sublist.map _), hnodup, ?_⟩
      rintro a ha b hb rfl
      obtain ⟨rule, hrule, rfl⟩ := mem_map.mp ha
      exact hnew _ hb (hs.issued id rule (mem_filter.mp hrule).1)
    · rw [h.rules_of_ne id hid]
      exact hs.nodup id
  · intro id rule hrule
    rw [hissued, mem_append]
    by_cases hid : id = nsg
    · subst hid
      rw [hrules, mem_append] at hrule
      rcases hrule with hrule | hrule
      · exact .inl (hs.issued id rule (mem_filter.mp hrule).1)
      · exact .inr (map_id_store hlen ▸ mem_map_of_mem hrule)
    · rw [h.rules_of_ne id hid] at hrule
      exact .inl (hs.issued id rule hrule)

end Changed

end OciCcm.NetworkSecurityGroups
