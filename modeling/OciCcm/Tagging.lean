import Mathlib.Algebra.GroupWithZero.Nat
import OciCcm.Client
import OciCcm.Tags
import OciCcm.Util

/-! # The tags of the nodes' instances

The tagging controller adds the tags of the configuration, and one of its own, to
the instance of every node. A request replaces all tags of the instance, so it has
to repeat those which the instance has.
-/

namespace OciCcm.Tagging

open Client Go Kubernetes Tags TagConfig Option

def openshiftTagNamespace := "openshift-tags"
def openshiftTagKey := "openshift-resource"
def openshiftTagValue : TagValue := .string "openshift-resource-infra"
def definedTagLimit : Nat := 64

/-- `UpdateInstanceRequest`, with the tags only. -/
structure UpdateInstanceRequest where
  instanceId : String
  tags : TagConfig

/-- The required tags with the one of the controller. Writing to a nil map panics, which is no
result. -/
def withOpenshiftTag (t : TagConfig) : Option TagConfig :=
  match t.definedTags with
  | none => none
  | some definedTags =>
    match definedTags.lookup openshiftTagNamespace with
    | none => some { t with
        definedTags := definedTags.insert openshiftTagNamespace
          (some (.ofPairs [(openshiftTagKey, openshiftTagValue)])) }
    | some ns =>
      if ns.get openshiftTagKey = some openshiftTagValue then some t
      else ns.map fun ns => { t with
        definedTags := definedTags.insert openshiftTagNamespace
          (some (ns.insert openshiftTagKey openshiftTagValue)) }

/-- The tags of a namespace are all there with the same values. -/
def hasRequiredTags (existingNamespace tags : NamespaceTags) : Bool :=
  (tags.getD ∅).toPairs.all fun (key, value) => existingNamespace.get key = some value

def hasRequiredDefinedTags (instanceDefinedTags requiredDefinedTags : Option DefinedTags) : Bool :=
  match requiredDefinedTags with
  | none => true
  | some requiredDefinedTags =>
    if requiredDefinedTags.toPairs = [] then true
    else if (instanceDefinedTags.getD ∅).toPairs = [] then false
    else requiredDefinedTags.toPairs.all fun (ns, tags) =>
      match (instanceDefinedTags.getD ∅).lookup ns with
      | none => false
      | some existingNamespace => hasRequiredTags existingNamespace tags

def countDefinedTags (tags : Option DefinedTags) : Nat :=
  ((tags.getD ∅).toPairs.map fun (_, ns) => (ns.getD ∅).toPairs.length).sum

/-- The request that the tags of an instance and the required tags lead to. -/
def updateRequest (instanceId : String) (instanceTagConfig t : TagConfig) :
    Option UpdateInstanceRequest :=
  if hasRequiredDefinedTags instanceTagConfig.definedTags t.definedTags then none
  else if countDefinedTags instanceTagConfig.definedTags ≥ definedTagLimit then none
  else some ⟨instanceId, mergeTagConfig instanceTagConfig t⟩

/-- The tags that are required by the configuration; without one they are empty maps. -/
def requiredTags (common : Option TagConfig) : Option TagConfig :=
  withOpenshiftTag (common.getD { freeformTags := some ∅, definedTags := some ∅ })

/-- The request that is sent, if any, and the configuration afterwards: its maps are written to.
There is no result if this panics. -/
def reconcileNodeTags (common : Option TagConfig)
    (getInstance : String → Except ClientError TagConfig) (node : Option Node) :
    Option (Option UpdateInstanceRequest × Option TagConfig) :=
  match node with
  | none => some (none, common)
  | some node =>
    match mapProviderIDToResourceID node.providerID with
    | .error _ => some (none, common)
    | .ok instanceOCID =>
      match getInstance instanceOCID with
      | .error _ => some (none, common)
      | .ok instanceTagConfig =>
        (requiredTags common).map fun t =>
          (updateRequest instanceOCID instanceTagConfig t, common.map fun _ => t)

/-! ## What a request has to contain -/

/-- All tags of the instance but those with a key that is required, and all required tags. -/
structure KeepsTags (instanceTags required tags : TagConfig) : Prop where
  freeform : ∀ key value, instanceTags.freeform key = some value →
    required.freeform key = none → tags.freeform key = some value
  defined : ∀ ns key value, instanceTags.defined ns key = some value →
    required.defined ns key = none → tags.defined ns key = some value
  requiredFreeform : ∀ key value, required.freeform key = some value →
    tags.freeform key = some value
  requiredDefined : ∀ ns key value, required.defined ns key = some value →
    tags.defined ns key = some value

/-- Every key of the instance in a namespace of the required tags is required itself. -/
def NoOtherKeys (instanceTags required : TagConfig) : Prop :=
  ∀ ns, (required.namespaceTags ns).isSome → ∀ key value,
    instanceTags.defined ns key = some value → (required.defined ns key).isSome

/-- Merged tags have what they are merged from exactly if the instance has no further keys in the
namespaces of the required tags. -/
theorem keepsTags_mergeTagConfig_iff {instanceTags required : TagConfig} :
    KeepsTags instanceTags required (mergeTagConfig instanceTags required) ↔
      NoOtherKeys instanceTags required := by
  constructor
  · intro h ns hns key value hvalue
    by_contra hnone
    rw [not_isSome_iff_eq_none] at hnone
    have hkept := h.defined ns key value hvalue hnone
    rw [defined_mergeTagConfig, if_pos hns, hnone] at hkept
    cases hkept
  · intro h
    refine ⟨fun key value hvalue hnone => ?_, fun ns key value hvalue hnone => ?_,
      fun key value hvalue => ?_, fun ns key value hvalue => ?_⟩
    · rw [freeform_mergeTagConfig, hnone, hvalue]
      rfl
    · rw [defined_mergeTagConfig, if_neg, hvalue]
      intro hns
      have hsome := h ns hns key value hvalue
      rw [hnone] at hsome
      cases hsome
    · rw [freeform_mergeTagConfig, hvalue]
      rfl
    · rw [defined_mergeTagConfig, if_pos, hvalue]
      obtain ⟨tags, hns, -⟩ := bind_eq_some_iff.mp hvalue
      rw [hns]
      rfl

/-! ## The next time -/

theorem hasRequiredTags_self (tags : NamespaceTags) : hasRequiredTags tags tags := by
  refine List.all_eq_true.mpr fun ⟨key, value⟩ hmem => decide_eq_true ?_
  rw [← GoMap.mem_toPairs.mp hmem, lookup_getD_empty]
  rfl

theorem hasRequiredDefinedTags_mergeTagConfig (instanceTags required : TagConfig) :
    hasRequiredDefinedTags (mergeTagConfig instanceTags required).definedTags
      required.definedTags := by
  cases hrequired : required.definedTags with
  | none => rfl
  | some requiredDefinedTags =>
    have hmerged : ∀ ns tags, (ns, tags) ∈ requiredDefinedTags.toPairs →
        (mergeTagConfig instanceTags required).namespaceTags ns = some tags := by
      intro ns tags hmem
      rw [namespaceTags_mergeTagConfig, namespaceTags, hrequired, bind_some,
        GoMap.mem_toPairs.mp hmem, some_or]
    simp only [namespaceTags, ← lookup_getD_empty] at hmerged
    unfold hasRequiredDefinedTags
    dsimp only
    split
    · rfl
    · next hne =>
      obtain ⟨⟨ns, tags⟩, hmem⟩ := List.exists_mem_of_ne_nil _ hne
      rw [if_neg (List.ne_nil_of_mem (GoMap.mem_toPairs.mpr (hmerged ns tags hmem)))]
      rw [List.all_eq_true]
      rintro ⟨ns, tags⟩ hmem
      simp only [hmerged ns tags hmem, hasRequiredTags_self]

/-- The configuration has the tag of the controller. -/
def HasOpenshiftTag (t : TagConfig) : Prop :=
  t.defined openshiftTagNamespace openshiftTagKey = some openshiftTagValue

theorem withOpenshiftTag_of_hasOpenshiftTag {t : TagConfig} (h : HasOpenshiftTag t) :
    withOpenshiftTag t = some t := by
  obtain ⟨ns, hns, hkey⟩ := bind_eq_some_iff.mp h
  obtain ⟨definedTags, htags, hns⟩ := bind_eq_some_iff.mp hns
  simp only [withOpenshiftTag, htags, hns, hkey, if_true]

theorem hasOpenshiftTag_of_withOpenshiftTag {t t' : TagConfig} (h : withOpenshiftTag t = some t') :
    HasOpenshiftTag t' := by
  unfold withOpenshiftTag at h
  split at h
  · cases h
  · next definedTags htags =>
    split at h
    · cases h
      rw [HasOpenshiftTag, defined, namespaceTags, bind_some,
        AList.lookup_insert]
      rfl
    · next ns hns =>
      split at h
      · next hkey =>
        cases h
        rw [HasOpenshiftTag, defined, namespaceTags, htags, bind_some,
          hns, bind_some, hkey]
      · obtain ⟨tags, rfl, rfl⟩ := map_eq_some_iff.mp h
        rw [HasOpenshiftTag, defined, namespaceTags, bind_some,
          AList.lookup_insert, bind_some, NamespaceTags.get, bind_some,
          AList.lookup_insert]

theorem withOpenshiftTag_of_withOpenshiftTag {t t' : TagConfig} (h : withOpenshiftTag t = some t') :
    withOpenshiftTag t' = some t' :=
  withOpenshiftTag_of_hasOpenshiftTag (hasOpenshiftTag_of_withOpenshiftTag h)

theorem requiredTags_map {common : Option TagConfig} {t : TagConfig}
    (h : requiredTags common = some t) : requiredTags (common.map fun _ => t) = some t := by
  cases common with
  | none => exact h
  | some common => exact withOpenshiftTag_of_withOpenshiftTag h

/-! ## Requests -/

/-- What is asked of a request: it keeps the tags, and when its tags are stored no other request
follows. -/
def TagsKept (common : Option TagConfig) (getInstance : String → Except ClientError TagConfig)
    (node : Option Node) : Prop :=
  ∀ request common', reconcileNodeTags common getInstance node = some (some request, common') →
    (∃ instanceTags required, getInstance request.instanceId = .ok instanceTags ∧
      requiredTags common = some required ∧ KeepsTags instanceTags required request.tags) ∧
    ∀ getInstance', getInstance' request.instanceId = .ok request.tags →
      ∃ common'', reconcileNodeTags common' getInstance' node = some (none, common'')

/-- The instance has no further keys in the namespaces of the required tags, if it lacks one of
these and has room for it. -/
def NoOtherKeysIfUpdated (common : Option TagConfig)
    (getInstance : String → Except ClientError TagConfig) (node : Option Node) : Prop :=
  ∀ n id instanceTags required, node = some n → mapProviderIDToResourceID n.providerID = .ok id →
    getInstance id = .ok instanceTags → requiredTags common = some required →
    ¬hasRequiredDefinedTags instanceTags.definedTags required.definedTags →
    countDefinedTags instanceTags.definedTags < definedTagLimit →
    NoOtherKeys instanceTags required

/-- When a request is sent. -/
theorem reconcileNodeTags_eq_some_iff {common common' : Option TagConfig}
    {getInstance : String → Except ClientError TagConfig} {node : Option Node}
    {request : UpdateInstanceRequest} :
    reconcileNodeTags common getInstance node = some (some request, common') ↔
      ∃ n instanceTags required, node = some n ∧
        mapProviderIDToResourceID n.providerID = .ok request.instanceId ∧
        getInstance request.instanceId = .ok instanceTags ∧
        requiredTags common = some required ∧
        ¬hasRequiredDefinedTags instanceTags.definedTags required.definedTags ∧
        countDefinedTags instanceTags.definedTags < definedTagLimit ∧
        request.tags = mergeTagConfig instanceTags required ∧
        common' = common.map fun _ => required := by
  constructor
  · intro h
    unfold reconcileNodeTags at h
    split at h
    · cases h
    · next n =>
      split at h
      · cases h
      · next instanceOCID hid =>
        split at h
        · cases h
        · next instanceTags hget =>
          obtain ⟨required, hrequired, heq⟩ := map_eq_some_iff.mp h
          obtain ⟨hsent, hcommon⟩ := Prod.mk.inj heq
          unfold updateRequest at hsent
          split_ifs at hsent with hhas hfull
          cases hsent
          exact ⟨n, instanceTags, required, rfl, hid, hget, hrequired, hhas, not_le.mp hfull, rfl,
            hcommon.symm⟩
  · rintro ⟨n, instanceTags, required, rfl, hid, hget, hrequired, hlacks, hroom, htags, rfl⟩
    simp only [reconcileNodeTags, hid, hget, hrequired, map_some, updateRequest,
      if_neg hlacks, if_neg (not_le.mpr hroom), ← htags]

/-- Requests keep the tags of the instance exactly if it has no further keys in the namespaces of
the required tags. -/
theorem tagsKept_iff (common : Option TagConfig)
    (getInstance : String → Except ClientError TagConfig) (node : Option Node) :
    TagsKept common getInstance node ↔ NoOtherKeysIfUpdated common getInstance node := by
  constructor
  · intro h n id instanceTags required hnode hid hget hrequired hlacks hroom
    obtain ⟨⟨instanceTags', required', hget', hrequired', hkeeps⟩, -⟩ :=
      h ⟨id, mergeTagConfig instanceTags required⟩ (common.map fun _ => required)
        (reconcileNodeTags_eq_some_iff.mpr
          ⟨n, instanceTags, required, hnode, hid, hget, hrequired, hlacks, hroom, rfl, rfl⟩)
    obtain rfl := Except.ok.inj (hget.symm.trans hget')
    obtain rfl := Option.some.inj (hrequired.symm.trans hrequired')
    exact keepsTags_mergeTagConfig_iff.mp hkeeps
  · intro h request common' hrequest
    obtain ⟨n, instanceTags, required, hnode, hid, hget, hrequired, hlacks, hroom, htags, rfl⟩ :=
      reconcileNodeTags_eq_some_iff.mp hrequest
    have hno := h n request.instanceId instanceTags required hnode hid hget hrequired hlacks hroom
    refine ⟨⟨instanceTags, required, hget, hrequired, ?_⟩, fun getInstance' hget' => ?_⟩
    · rw [htags]
      exact keepsTags_mergeTagConfig_iff.mpr hno
    · rw [htags] at hget'
      refine ⟨(common.map fun _ => required).map fun _ => required, ?_⟩
      simp only [hnode, reconcileNodeTags, hid, hget', requiredTags_map hrequired, map_some,
        updateRequest, hasRequiredDefinedTags_mergeTagConfig, if_true]

/-- The instance of a node, with a tag of another key in the namespace of the controller. -/
def sharedNamespace : TagConfig where
  definedTags := some (.ofPairs [(openshiftTagNamespace, some (.ofPairs [("team", .string "a")]))])

def worker : Node where
  name := "worker"
  providerID := "ocid1.instance.oc1..i"
  addresses := []

/-- The tag of the other key is lost. -/
theorem not_tagsKept_sharedNamespace :
    ¬TagsKept none (fun _ => .ok sharedNamespace) (some worker) := by
  intro h
  obtain ⟨⟨instanceTags, required, hget, hrequired, hkeeps⟩, -⟩ := h _ _ rfl
  cases hget
  cases hrequired
  cases hkeeps.defined openshiftTagNamespace "team" (.string "a") rfl rfl

/-! ## The shared configuration

The required tags are the ones of the configuration, not a copy, so what the
controller adds to them stays there for everything that reads the configuration
later on.
-/

/-- A call for a node, with the instances that it finds. -/
structure NodeCall where
  getInstance : String → Except ClientError TagConfig
  node : Option Node

/-- The call finds the instance of its node, and so comes to the required tags. -/
def NodeCall.FindsInstance (call : NodeCall) : Prop :=
  ∃ n id instanceTags, call.node = some n ∧ mapProviderIDToResourceID n.providerID = .ok id ∧
    call.getInstance id = .ok instanceTags

/-- The configuration after a sequence of calls; there is none once a call panics. -/
def reconcileNodes (common : Option TagConfig) : List NodeCall → Option (Option TagConfig)
  | [] => some common
  | call :: calls =>
    (reconcileNodeTags common call.getInstance call.node).bind fun r => reconcileNodes r.2 calls

/-- No call panics, and the configuration is the same as before. -/
def LeavesConfig (common : Option TagConfig) (calls : List NodeCall) : Prop :=
  reconcileNodes common calls = some common

/-- What a call does to the configuration. -/
theorem reconcileNodeTags_config (common : Option TagConfig) (call : NodeCall) :
    (call.FindsInstance ∧
      (reconcileNodeTags common call.getInstance call.node).map Prod.snd =
        (requiredTags common).map fun t => common.map fun _ => t) ∨
    (¬call.FindsInstance ∧
      reconcileNodeTags common call.getInstance call.node = some (none, common)) := by
  unfold reconcileNodeTags
  split
  · next hnode =>
    refine .inr ⟨?_, rfl⟩
    rintro ⟨n, id, instanceTags, hnode', -, -⟩
    rw [hnode] at hnode'
    cases hnode'
  · next n hnode =>
    split
    · next herror =>
      refine .inr ⟨?_, rfl⟩
      rintro ⟨n', id, instanceTags, hnode', hid, -⟩
      obtain rfl := Option.some.inj (hnode.symm.trans hnode')
      rw [herror] at hid
      cases hid
    · next id hid =>
      split
      · next herror =>
        refine .inr ⟨?_, rfl⟩
        rintro ⟨n', id', instanceTags, hnode', hid', hget⟩
        obtain rfl := Option.some.inj (hnode.symm.trans hnode')
        obtain rfl := Except.ok.inj (hid.symm.trans hid')
        rw [herror] at hget
        cases hget
      · next instanceTags hget =>
        refine .inl ⟨⟨n, id, instanceTags, hnode, hid, hget⟩, ?_⟩
        rw [map_map]
        rfl

theorem reconcileNodes_none (calls : List NodeCall) : reconcileNodes none calls = some none := by
  induction calls with
  | nil => rfl
  | cons call calls ih =>
    rw [reconcileNodes]
    rcases reconcileNodeTags_config none call with ⟨-, hconfig⟩ | ⟨-, hsame⟩
    · obtain ⟨r, hr, hnone⟩ : ∃ r, reconcileNodeTags none call.getInstance call.node = some r ∧
          r.2 = none := map_eq_some_iff.mp hconfig
      rw [hr, bind_some, hnone]
      exact ih
    · rw [hsame, bind_some]
      exact ih

/-- The first call that finds an instance adds the tag or panics; the others find it there. -/
theorem reconcileNodes_some (t : TagConfig) (calls : List NodeCall) :
    ((∃ call ∈ calls, call.FindsInstance) ∧
      reconcileNodes (some t) calls = (withOpenshiftTag t).map some) ∨
    ((¬∃ call ∈ calls, call.FindsInstance) ∧ reconcileNodes (some t) calls = some (some t)) := by
  induction calls generalizing t with
  | nil =>
    right
    simp [reconcileNodes]
  | cons call calls ih =>
    rw [reconcileNodes]
    rcases reconcileNodeTags_config (some t) call with ⟨hfinds, hconfig⟩ | ⟨hnot, hsame⟩
    · refine .inl ⟨⟨call, List.mem_cons_self, hfinds⟩, ?_⟩
      cases ht : withOpenshiftTag t with
      | none =>
        rw [requiredTags, getD_some, ht, map_none, map_eq_none_iff] at hconfig
        rw [hconfig]
        rfl
      | some t' =>
        rw [requiredTags, getD_some, ht] at hconfig
        obtain ⟨r, hr, hsome⟩ : ∃ r, reconcileNodeTags (some t) call.getInstance call.node = some r ∧
            r.2 = some t' := map_eq_some_iff.mp hconfig
        rw [hr, bind_some, hsome]
        rcases ih t' with ⟨-, hrest⟩ | ⟨-, hrest⟩
        · rw [hrest, withOpenshiftTag_of_withOpenshiftTag ht]
        · exact hrest
    · rw [hsame, bind_some]
      simp only [List.exists_mem_cons_iff, hnot, false_or]
      exact ih t

/-- The configuration is left alone exactly if there is none, if it has the tag of the controller
already, or if no call finds the instance of its node. -/
theorem leavesConfig_iff (common : Option TagConfig) (calls : List NodeCall) :
    LeavesConfig common calls ↔
      ((∃ call ∈ calls, call.FindsInstance) → ∀ t, common = some t → HasOpenshiftTag t) := by
  unfold LeavesConfig
  cases common with
  | none => simp [reconcileNodes_none]
  | some t =>
    rcases reconcileNodes_some t calls with ⟨hfinds, hrun⟩ | ⟨hnot, hrun⟩
    · rw [hrun]
      constructor
      · rintro h - t' ht'
        obtain ⟨t'', ht, hsame⟩ := map_eq_some_iff.mp h
        obtain rfl := Option.some.inj (hsame.trans ht')
        exact hasOpenshiftTag_of_withOpenshiftTag ht
      · intro h
        rw [withOpenshiftTag_of_hasOpenshiftTag (h hfinds t rfl)]
        rfl
    · exact ⟨fun _ hfinds => absurd hfinds hnot, fun _ => hrun⟩

/-- A call for a node whose instance has no tags. -/
def workerCall : NodeCall where
  getInstance _ := .ok {}
  node := some worker

/-- A configuration with empty tags has the tag of the controller afterwards, and one without
defined tags makes the call panic. -/
theorem not_leavesConfig_emptyTags :
    ¬LeavesConfig (some { freeformTags := some ∅, definedTags := some ∅ }) [workerCall] ∧
      reconcileNodes (some {}) [workerCall] = none := by
  refine ⟨fun h => ?_, rfl⟩
  have htag := congrArg (fun config => (config.bind id).bind
    (defined · openshiftTagNamespace openshiftTagKey)) h
  cases htag

end OciCcm.Tagging
