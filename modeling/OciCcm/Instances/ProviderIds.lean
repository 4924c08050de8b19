import OciCcm.Instances.Addresses

/-! # Provider ids with and without their prefix

A provider id is converted to the OCID of the instance before it is used, but
for one place: an instance that is not found is searched for by the provider id
as it was given.
-/

namespace OciCcm.Instances

open Client Go Kubernetes List

/-! ## Conversion -/

theorem mapProviderIDToResourceID_prefixed (ocid : String) :
    mapProviderIDToResourceID (providerPrefix ++ ocid) = .ok ocid := by
  have hne : providerPrefix ++ ocid ≠ "" := by
    intro h
    have hlist := congrArg String.toList h
    rw [String.toList_append] at hlist
    exact absurd hlist (by simp [providerPrefix])
  rw [mapProviderIDToResourceID, if_neg hne, if_pos (hasPrefix_append _ _), trimPrefix_append]

theorem mapProviderIDToResourceID_ocid {ocid : String} (h : hasPrefix ocid "ocid1") :
    mapProviderIDToResourceID ocid = .ok ocid := by
  have hne : ocid ≠ "" := by
    rintro rfl
    exact absurd h (by decide)
  -- the two prefixes differ in their fourth characters
  have hother : ¬hasPrefix ocid providerPrefix := by
    intro hother
    obtain ⟨s, hs⟩ := of_decide_eq_true h
    obtain ⟨t, ht⟩ := of_decide_eq_true hother
    rw [← hs] at ht
    simp [providerPrefix] at ht
  rw [mapProviderIDToResourceID, if_neg hne, if_neg hother, h]
  rfl

/-! ## Where an instance is searched for -/

namespace CloudProvider

/-- The node is that of the instance and names its compartment. -/
def NamesCompartment (id compartmentId : String) (node : Node) : Prop :=
  mapProviderIDToResourceID node.providerID = .ok id ∧
    node.annotations.lookup compartmentIDKey = some compartmentId ∧ compartmentId ≠ ""

/-- The provider ids of the nodes can be converted, and no node names the compartment. -/
def Passed (id : String) (nodes : List Node) : Prop :=
  ∀ node ∈ nodes, (∃ id', mapProviderIDToResourceID node.providerID = .ok id') ∧
    ∀ compartmentId, ¬NamesCompartment id compartmentId node

/-- The compartment is that of the cached instance, or else it is named by a node, and the provider
ids of the nodes before it can be converted. -/
inductive KnownIn (cp : CloudProvider) (id : String) : String → Prop
  | cached {inst : Instance} (h : cp.instanceCache id = .ok (some inst)) :
    KnownIn cp id inst.compartmentId
  | named {before after : List Node} {node : Node} {compartmentId : String}
      (hcache : cp.instanceCache id = .ok none)
      (hnodes : cp.nodeLister = .ok (before ++ node :: after)) (hbefore : Passed id before)
      (hnode : NamesCompartment id compartmentId node) : KnownIn cp id compartmentId

/-- Why the compartment is not known. -/
inductive NotKnown (cp : CloudProvider) (id : String) : ClientError → Prop
  | cacheFails {err : String} (h : cp.instanceCache id = .error err) :
    NotKnown cp id (.other (wrap "error fetching instance from instanceCache" err))
  | listerFails {err : String} (hcache : cp.instanceCache id = .ok none)
      (hnodes : cp.nodeLister = .error err) :
    NotKnown cp id (.other (wrap "error listing all the nodes using node informer" err))
  | unreadable {before after : List Node} {node : Node} {err : String}
      (hcache : cp.instanceCache id = .ok none)
      (hnodes : cp.nodeLister = .ok (before ++ node :: after)) (hbefore : Passed id before)
      (hnode : mapProviderIDToResourceID node.providerID = .error err) :
    NotKnown cp id (.other "Failed to map providerID to instanceID")
  | missing {nodes : List Node} (hcache : cp.instanceCache id = .ok none)
      (hnodes : cp.nodeLister = .ok nodes) (h : Passed id nodes) :
    NotKnown cp id (.other "compartmentID annotation missing in the node. Would retry")

/-- Instances are cached by their OCIDs, no provider id has the prefix twice, and the service does
not answer with the errors above. -/
structure UsesOcids (cp : CloudProvider) : Prop where
  cached : ∀ id, cp.instanceCache id = .ok none ∨
    ∃ inst, cp.instanceCache id = .ok (some inst) ∧ hasPrefix id "ocid1"
  converted : ∀ nodes, cp.nodeLister = .ok nodes → ∀ node ∈ nodes, ∀ id,
    mapProviderIDToResourceID node.providerID = .ok id → hasPrefix id "ocid1"
  listErrors : ∀ compartmentId availabilityDomain n page err,
    cp.listInstances compartmentId availabilityDomain n page = .error err →
      ∀ id, ¬cp.NotKnown id err

variable {cp : CloudProvider} {compartmentId id : String} {err : ClientError}

/-! ## The compartment -/

theorem compartmentIDOfNodes_append {before : List Node} (h : Passed id before)
    (nodes : List Node) :
    compartmentIDOfNodes id (before ++ nodes) = compartmentIDOfNodes id nodes := by
  induction before with
  | nil => rfl
  | cons node before ih =>
    obtain ⟨⟨⟨id', hmap⟩, hnames⟩, hbefore⟩ := forall_mem_cons.mp h
    rw [cons_append, compartmentIDOfNodes, hmap]
    dsimp only
    cases hlookup : node.annotations.lookup compartmentIDKey with
    | none => exact ih hbefore
    | some compartmentId =>
      dsimp only
      rw [if_neg, ih hbefore]
      rintro ⟨rfl, hne⟩
      exact hnames compartmentId ⟨hmap, hlookup, hne⟩

/-- The loop over the nodes ends at one of them or after the last. -/
theorem passed_or (id : String) (nodes : List Node) : Passed id nodes ∨
    ∃ before node after, nodes = before ++ node :: after ∧ Passed id before ∧
      ((∃ compartmentId, NamesCompartment id compartmentId node) ∨
        ∃ err, mapProviderIDToResourceID node.providerID = .error err) := by
  induction nodes with
  | nil => exact .inl (forall_mem_nil _)
  | cons node nodes ih =>
    by_cases hnode : (∃ compartmentId, NamesCompartment id compartmentId node) ∨
        ∃ err, mapProviderIDToResourceID node.providerID = .error err
    · exact .inr ⟨[], node, nodes, rfl, forall_mem_nil _, hnode⟩
    · simp only [not_or, not_exists] at hnode
      have hpassed : (∃ id', mapProviderIDToResourceID node.providerID = .ok id') ∧
          ∀ compartmentId, ¬NamesCompartment id compartmentId node := by
        refine ⟨?_, hnode.1⟩
        cases hmap : mapProviderIDToResourceID node.providerID with
        | error err => exact absurd hmap (hnode.2 err)
        | ok id' => exact ⟨id', rfl⟩
      rcases ih with ih | ⟨before, node', after, rfl, hbefore, hnode'⟩
      · exact .inl (forall_mem_cons.mpr ⟨hpassed, ih⟩)
      · exact .inr ⟨node :: before, node', after, rfl,
          forall_mem_cons.mpr ⟨hpassed, hbefore⟩, hnode'⟩

theorem KnownIn.getCompartmentIDByInstanceID (h : cp.KnownIn id compartmentId) :
    cp.getCompartmentIDByInstanceID id = .ok compartmentId := by
  unfold CloudProvider.getCompartmentIDByInstanceID
  cases h with
  | cached h => rw [h]
  | named hcache hnodes hbefore hnode =>
    obtain ⟨hmap, hlookup, hne⟩ := hnode
    rw [hcache, hnodes]
    dsimp only
    rw [compartmentIDOfNodes_append hbefore, compartmentIDOfNodes, hmap, hlookup]
    exact if_pos ⟨rfl, hne⟩

theorem NotKnown.getCompartmentIDByInstanceID {err : ClientError} (h : cp.NotKnown id err) :
    cp.getCompartmentIDByInstanceID id = .error err := by
  unfold CloudProvider.getCompartmentIDByInstanceID
  cases h with
  | cacheFails h => rw [h]
  | listerFails hcache hnodes => rw [hcache, hnodes]
  | unreadable hcache hnodes hbefore hnode =>
    rw [hcache, hnodes]
    dsimp only
    rw [compartmentIDOfNodes_append hbefore, compartmentIDOfNodes, hnode]
  | @missing nodes hcache hnodes h =>
    rw [hcache, hnodes]
    dsimp only
    rw [← append_nil nodes, compartmentIDOfNodes_append h, compartmentIDOfNodes]

theorem known_or_not (cp : CloudProvider) (id : String) :
    (∃ compartmentId, cp.KnownIn id compartmentId) ∨ ∃ err, cp.NotKnown id err := by
  rcases hcache : cp.instanceCache id with err | _ | inst
  · exact .inr ⟨_, .cacheFails hcache⟩
  · cases hnodes : cp.nodeLister with
    | error err => exact .inr ⟨_, .listerFails hcache hnodes⟩
    | ok nodes =>
      rcases passed_or id nodes with h | ⟨before, node, after, rfl, hbefore, ⟨c, h⟩ | ⟨err, h⟩⟩
      · exact .inr ⟨_, .missing hcache hnodes h⟩
      · exact .inl ⟨c, .named hcache hnodes hbefore h⟩
      · exact .inr ⟨_, .unreadable hcache hnodes hbefore h⟩
  · exact .inl ⟨_, .cached hcache⟩

/-! ## With and without the prefix -/

theorem not_hasPrefix_prefixed (ocid : String) : ¬hasPrefix (providerPrefix ++ ocid) "ocid1" := by
  intro h
  obtain ⟨s, hs⟩ := of_decide_eq_true h
  simp [providerPrefix] at hs

theorem UsesOcids.not_knownIn (h : cp.UsesOcids) (ocid : String) :
    ¬cp.KnownIn (providerPrefix ++ ocid) compartmentId := by
  intro hknown
  cases hknown with
  | cached hcache =>
    rcases h.cached (providerPrefix ++ ocid) with hnone | ⟨_, -, hprefix⟩
    · rw [hcache] at hnone
      cases hnone
    · exact not_hasPrefix_prefixed ocid hprefix
  | named _ hnodes _ hnode =>
    exact not_hasPrefix_prefixed ocid (h.converted _ hnodes _ (by simp) _ hnode.1)

theorem readable_of_passed {nodes : List Node} (h : Passed id nodes) {node : Node}
    (hnode : node ∈ nodes) {text : String} :
    mapProviderIDToResourceID node.providerID ≠ .error text := by
  obtain ⟨id', hmap⟩ := (h node hnode).1
  rw [hmap]
  exact fun h => nomatch h

/-- The reason does not depend on the id, as long as the cache can be read. -/
theorem UsesOcids.notKnown_unique (h : cp.UsesOcids) {id' : String} {err' : ClientError}
    (hid : cp.NotKnown id err) (hid' : cp.NotKnown id' err') : err = err' := by
  have hcache : ∀ id text, cp.instanceCache id ≠ .error text := by
    intro id text heq
    rcases h.cached id with hnone | ⟨_, hsome, -⟩
    · rw [hnone] at heq
      cases heq
    · rw [hsome] at heq
      cases heq
  cases hid with
  | cacheFails heq => exact absurd heq (hcache _ _)
  | listerFails _ hnodes =>
    cases hid' with
    | cacheFails heq => exact absurd heq (hcache _ _)
    | listerFails _ hnodes' => rw [Except.error.inj (hnodes.symm.trans hnodes')]
    | unreadable _ hnodes' => cases hnodes.symm.trans hnodes'
    | missing _ hnodes' => cases hnodes.symm.trans hnodes'
  | unreadable _ hnodes _ hnode =>
    cases hid' with
    | cacheFails heq => exact absurd heq (hcache _ _)
    | listerFails _ hnodes' => cases hnodes.symm.trans hnodes'
    | unreadable => rfl
    | missing _ hnodes' hpassed =>
      obtain rfl := Except.ok.inj (hnodes.symm.trans hnodes')
      exact absurd hnode (readable_of_passed hpassed (by simp))
  | missing _ hnodes hpassed =>
    cases hid' with
    | cacheFails heq => exact absurd heq (hcache _ _)
    | listerFails _ hnodes' => cases hnodes.symm.trans hnodes'
    | unreadable _ hnodes' _ hnode =>
      obtain rfl := Except.ok.inj (hnodes.symm.trans hnodes')
      exact absurd hnode (readable_of_passed hpassed (by simp))
    | missing => rfl

theorem exists_error_of_search {fuel n : Nat} {availabilityDomains : List String}
    (h : cp.searchAvailabilityDomains fuel compartmentId id n availabilityDomains =
      some (.error err)) :
    ∃ availabilityDomain n page,
      cp.listInstances compartmentId availabilityDomain n page = .error err := by
  induction availabilityDomains generalizing n with
  | nil => cases h
  | cons availabilityDomain rest ih =>
    unfold searchAvailabilityDomains at h
    split at h
    · cases h
    · next hlist =>
      obtain rfl := Except.error.inj (Option.some.inj h)
      exact ⟨availabilityDomain, (Pages.fails_of_collect hlist).exists_error⟩
    · split at h
      · cases h
      · exact ih h

theorem NotKnown.check (h : cp.NotKnown id err) (fuel : Nat) :
    cp.checkForAuthorizationError fuel id = some (.error err) := by
  unfold checkForAuthorizationError
  rw [h.getCompartmentIDByInstanceID]

/-- The search comes to the same with and without the prefix exactly if it is not made, as the
compartment is not known. -/
theorem UsesOcids.check_iff (h : cp.UsesOcids) (ocid : String) :
    (∀ result, (∃ fuel, cp.checkForAuthorizationError fuel (providerPrefix ++ ocid) =
        some result) ↔ ∃ fuel, cp.checkForAuthorizationError fuel ocid = some result) ↔
      ¬∃ compartmentId, cp.KnownIn ocid compartmentId := by
  obtain ⟨err, hprefixed⟩ : ∃ err, cp.NotKnown (providerPrefix ++ ocid) err :=
    (cp.known_or_not _).resolve_left fun ⟨_, hknown⟩ => h.not_knownIn ocid hknown
  simp only [hprefixed.check, exists_const]
  constructor
  · rintro hsame ⟨compartmentId, hknown⟩
    obtain ⟨fuel, hfuel⟩ := (hsame (.error err)).mp rfl
    unfold checkForAuthorizationError at hfuel
    rw [hknown.getCompartmentIDByInstanceID] at hfuel
    obtain ⟨_, _, _, herror⟩ := exists_error_of_search hfuel
    exact h.listErrors _ _ _ _ _ herror _ hprefixed
  · intro hnone result
    obtain ⟨err', hocid⟩ := (cp.known_or_not ocid).resolve_left hnone
    obtain rfl := h.notKnown_unique hprefixed hocid
    simp only [hocid.check, exists_const]

end CloudProvider

/-! ## Answers -/

namespace NetworkProvider

/-- The calls by provider id give the same for two ids. -/
structure SameAnswers (cp : NetworkProvider) (providerID providerID' : String) : Prop where
  instanceExists : ∀ result,
    (∃ fuel, cp.instanceExistsByProviderID fuel providerID = some result) ↔
      ∃ fuel, cp.instanceExistsByProviderID fuel providerID' = some result
  addresses : cp.nodeAddressesByProviderID providerID = cp.nodeAddressesByProviderID providerID'
  instanceType : cp.instanceTypeByProviderID providerID = cp.instanceTypeByProviderID providerID'
  shutdown : cp.instanceShutdownByProviderID providerID = cp.instanceShutdownByProviderID providerID'

/-- An OCID means the same with the prefix exactly if its instance is not answered as not found, or
the compartment in which it would be searched for is not known. -/
theorem sameAnswers_iff {cp : NetworkProvider} {ocid : String} (hcp : cp.UsesOcids)
    (h : hasPrefix ocid "ocid1") :
    cp.SameAnswers (providerPrefix ++ ocid) ocid ↔
      ((∃ err, cp.getInstance ocid = .error err ∧ isNotFound err) →
        ¬∃ compartmentId, cp.KnownIn ocid compartmentId) := by
  have hmap := mapProviderIDToResourceID_prefixed ocid
  have hmap' := mapProviderIDToResourceID_ocid h
  have hexists : cp.SameAnswers (providerPrefix ++ ocid) ocid ↔ ∀ result,
      (∃ fuel, cp.instanceExistsByProviderID fuel (providerPrefix ++ ocid) = some result) ↔
        ∃ fuel, cp.instanceExistsByProviderID fuel ocid = some result := by
    refine ⟨SameAnswers.instanceExists, fun hexists => ⟨hexists, ?_, ?_, ?_⟩⟩
    · simp only [nodeAddressesByProviderID, hmap, hmap']
    · simp only [instanceTypeByProviderID, hmap, hmap']
    · simp only [instanceShutdownByProviderID, hmap, hmap']
  rw [hexists]
  by_cases hnotFound : ∃ err, cp.getInstance ocid = .error err ∧ isNotFound err
  · obtain ⟨err, hget, hnotFound⟩ := hnotFound
    simp only [CloudProvider.instanceExistsByProviderID_of_notFound hmap hget hnotFound,
      CloudProvider.instanceExistsByProviderID_of_notFound hmap' hget hnotFound]
    rw [hcp.check_iff]
    exact ⟨fun hnone _ => hnone, fun hnone => hnone ⟨err, hget, hnotFound⟩⟩
  · refine iff_of_true (fun result => ?_) fun h => absurd h hnotFound
    simp only [CloudProvider.instanceExistsByProviderID, hmap, hmap']
    cases hget : cp.getInstance ocid with
    | ok inst => exact Iff.rfl
    | error err =>
      have hfound : ¬isNotFound err := fun h => hnotFound ⟨err, hget, h⟩
      simp only [if_neg hfound]

/-- Instances cannot be read but are listed. -/
def hidden (nodes : List Node) : NetworkProvider where
  getInstance _ := .error (.serviceError 404 "NotAuthorizedOrNotFound")
  listAvailabilityDomains _ := .ok ["ad-1"]
  listInstances _ _ _ _ := .ok ([{
    id := "ocid1.instance.oc1..i"
    compartmentId := "ocid1.compartment.oc1..c"
    lifecycleState := .running }], none)
  nodeLister := .ok nodes
  getPrimaryVNICForInstance _ _ := .ok none
  getSecondaryVNICsForInstance _ _ := .ok []
  parseIP _ := none

theorem usesOcids_hidden {nodes : List Node} (h : ∀ node ∈ nodes, ∀ id,
    mapProviderIDToResourceID node.providerID = .ok id → hasPrefix id "ocid1") :
    (hidden nodes).UsesOcids where
  cached _ := .inl rfl
  converted _ hnodes := Except.ok.inj hnodes ▸ h
  listErrors _ _ _ _ _ h := nomatch h

/-- An instance that no node belongs to is not searched for. -/
theorem sameAnswers_hidden :
    (hidden []).SameAnswers (providerPrefix ++ "ocid1.instance.oc1..i") "ocid1.instance.oc1..i" := by
  refine (sameAnswers_iff (usesOcids_hidden (forall_mem_nil _)) (by decide)).mpr ?_
  rintro - ⟨_, hcache | ⟨-, hnodes, -⟩⟩
  · cases hcache
  · simp [hidden] at hnodes

/-- The instance of a node is found by its OCID only. -/
theorem not_sameAnswers_hidden : (hidden [CloudProvider.worker]).UsesOcids ∧
    ¬(hidden [CloudProvider.worker]).SameAnswers
      (providerPrefix ++ "ocid1.instance.oc1..i") "ocid1.instance.oc1..i" := by
  refine ⟨usesOcids_hidden (forall_mem_singleton.mpr fun id hid => ?_), fun h => ?_⟩
  · exact Except.ok.inj hid ▸ (by decide)
  · obtain ⟨fuel, hfuel⟩ := (h.instanceExists (.ok true)).mpr ⟨1, rfl⟩
    cases hfuel

end NetworkProvider

end OciCcm.Instances
