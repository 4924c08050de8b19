import OciCcm.Csi.Provision
import OciCcm.LoadBalancer.FullSpec
import OciCcm.Tagging

/-! # The limit of defined tags

A resource has at most 64 defined tags, counted over all namespaces. Three places
add tags of the controller to those of a customer, and each of them has a check of
its own for the limit. Two of them compare the number of namespaces with it.
-/

namespace OciCcm.LoadBalancer

open Client Go Kubernetes Tags

def serviceAnnotationServiceAccountName := "oci.oraclecloud.com/workload-service-account"

def maxDefinedTagPerResource : Nat := 64

structure GenericUpdateLoadBalancerDetails where
  freeformTags : Option (GoMap String)
  definedTags : DefinedTags

/-- The errors of the two calls that add the tags of the cluster. -/
structure UpdateAnswers where
  updateLoadBalancer : Option ClientError := none
  awaitWorkRequest : Option ClientError := none

def LBType.text : LBType → String
  | lb => "lb"
  | nlb => "nlb"

/-- The tags of a load balancer with those of the cluster, if the specification has them. -/
def withOkeSystemTags {RuleSet : Type} (lb : TagConfig) (spec : FullSpec RuleSet) :
    Except String DefinedTags :=
  match spec.systemTags with
  | none => .error "oke system tag is not found in LB spec. ignoring.."
  | some systemTags =>
    match systemTags.lookup okeSystemTagNamesapce with
    | none => .error "oke system tag namespace is not found in LB spec"
    | some tags => .ok ((lb.definedTags.getD ∅).insert okeSystemTagNamesapce tags)

/-- The request that is sent, if any, and the error. What is compared with the limit is the number
of namespaces. -/
def addLoadBalancerOkeSystemTags {RuleSet : Type} (lb : TagConfig) (spec : FullSpec RuleSet)
    (a : UpdateAnswers) : Option GenericUpdateLoadBalancerDetails × Except String Unit :=
  if serviceAnnotationServiceAccountName ∈ spec.service.annotations then
    (none, .error "principal type is workload identity. skip addition of oke system tags.")
  else match withOkeSystemTags lb spec with
    | .error err => (none, .error err)
    | .ok definedTags =>
      if definedTags.toPairs.length > maxDefinedTagPerResource then
        (none, .error ("max limit of defined tags for " ++ spec.type.text ++
          " is reached. skip adding tags. sending metric"))
      else (some ⟨lb.freeformTags, definedTags⟩,
        match a.updateLoadBalancer, a.awaitWorkRequest with
        | some err, _ => .error (wrap "UpdateLoadBalancer request failed" err.error)
        | none, some err =>
          .error (wrap "failed to await updateloadbalancer work request" err.error)
        | none, none => .ok ())

end OciCcm.LoadBalancer

namespace OciCcm.TagLimit

open Client Go Tags Tagging
open Csi.BlockVolume (InitialTags getBVTags provision volumeDefinedTags)
open LoadBalancer (FullSpec UpdateAnswers withOkeSystemTags addLoadBalancerOkeSystemTags
  serviceAnnotationServiceAccountName)

/-! ## Calls that add tags -/

inductive Call (RuleSet : Type) where
  | loadBalancer (lb : TagConfig) (spec : FullSpec RuleSet) (a : UpdateAnswers)
  | node (common : Option TagConfig) (call : NodeCall)
  | volume (volName : String) (volSize : Int)
      (availDomainName compartmentID backupID srcVolumeID kmsKeyID : String) (vpusPerGB : Int)
      (enableOkeSystemTags : Bool) (tags : Option InitialTags) (scTags : TagConfig)

namespace Call

variable {RuleSet : Type}

/-- The tags of the instance of a node, and those that it has to have. -/
def nodeTags (common : Option TagConfig) (call : NodeCall) : Option (TagConfig × TagConfig) := do
  let node ← call.node
  let id ← (mapProviderIDToResourceID node.providerID).toOption
  let instanceTags ← (call.getInstance id).toOption
  let required ← requiredTags common
  return (instanceTags, required)

def customer : Call RuleSet → Option DefinedTags
  | loadBalancer lb _ _ => lb.definedTags
  | node common call => (nodeTags common call).bind fun (instanceTags, _) => instanceTags.definedTags
  | volume _ _ _ _ _ _ _ _ _ tags scTags => (getBVTags false tags scTags).definedTags

/-- The tags of the controller, if there are tags to be added. -/
def controller : Call RuleSet → Option DefinedTags
  | loadBalancer _ spec _ =>
    (spec.systemTags.bind (·.lookup LoadBalancer.okeSystemTagNamesapce)).map
      (AList.insert LoadBalancer.okeSystemTagNamesapce · ∅)
  | node common call => (nodeTags common call).bind fun (instanceTags, required) =>
    if hasRequiredDefinedTags instanceTags.definedTags required.definedTags then none
    else some (required.definedTags.getD ∅)
  | volume _ _ _ _ _ _ _ _ enableOkeSystemTags tags _ =>
    some (((if enableOkeSystemTags then tags.bind (·.common) else none).bind
      (·.definedTags)).getD ∅)

/-- The tags of the customer with those of the controller, if it has tags to add. -/
def merged : Call RuleSet → Option DefinedTags
  | loadBalancer lb spec _ => (withOkeSystemTags lb spec).toOption
  | node common call => (nodeTags common call).bind fun (instanceTags, required) =>
    if hasRequiredDefinedTags instanceTags.definedTags required.definedTags then none
    else (mergeTagConfig instanceTags required).definedTags
  | volume _ _ _ _ _ _ _ _ enableOkeSystemTags tags scTags =>
    (getBVTags enableOkeSystemTags tags scTags).definedTags

/-- The tags of the request that is sent, if any. -/
def sent : Call RuleSet → Option DefinedTags
  | loadBalancer lb spec a => (addLoadBalancerOkeSystemTags lb spec a).1.map (·.definedTags)
  | node common call =>
    ((reconcileNodeTags common call.getInstance call.node).bind Prod.fst).bind (·.tags.definedTags)
  | volume volName volSize availDomainName compartmentID backupID srcVolumeID kmsKeyID vpusPerGB
      enableOkeSystemTags tags scTags =>
    (provision volName volSize availDomainName compartmentID backupID srcVolumeID kmsKeyID vpusPerGB
      (getBVTags enableOkeSystemTags tags scTags)).definedTags

end Call

/-! ## What is asked of a call -/

variable {RuleSet : Type}

/-- The defined tags are not more than a resource may have. -/
def WithinLimit (tags : Option DefinedTags) : Prop := countDefinedTags tags ≤ definedTagLimit

/-- If the tags of the customer are within the limit, a request is, and the tags of the controller
are left out only if they would exceed the limit. -/
def RespectsLimit (c : Call RuleSet) : Prop :=
  WithinLimit c.customer → (∀ tags, c.sent = some tags → WithinLimit (some tags)) ∧
    ∀ tags, c.merged = some tags → c.sent ≠ some tags → ¬WithinLimit (some tags)

/-- What a call sends in place of the merged tags. -/
def Call.check : Call RuleSet → DefinedTags → Option DefinedTags
  | .loadBalancer _ spec _, tags =>
    if serviceAnnotationServiceAccountName ∉ spec.service.annotations ∧
      tags.toPairs.length ≤ LoadBalancer.maxDefinedTagPerResource then some tags else none
  | .node common call, tags =>
    if countDefinedTags (Call.node common call : Call RuleSet).customer < definedTagLimit then
      some tags else none
  | .volume .., tags => some (volumeDefinedTags tags)

/-- The namespaces of the customer that the controller has no tags for. The tags of the others are
replaced. -/
def kept (customer controller : DefinedTags) : List (String × NamespaceTags) :=
  customer.toPairs.filter (·.1 ∉ controller)

/-- The number of namespaces of the customer and the controller. -/
def namespaces (customer controller : DefinedTags) : Nat :=
  (kept customer controller).length + controller.toPairs.length

/-- The number of tags of the controller, and of the customer in other namespaces. -/
def pairs (customer controller : DefinedTags) : Nat :=
  ((kept customer controller).map fun (_, tags) => (tags.getD ∅).toPairs.length).sum +
    countDefinedTags (some controller)

/-- With too many namespaces the one of the cluster is left out, and has to be the one that is too
much. With fewer there must not be too many tags. -/
def VolumeChecksLimit (customer controller : DefinedTags) : Prop :=
  let oke := Csi.BlockVolume.okeSystemTagNamesapce
  if namespaces customer controller > Csi.BlockVolume.maxDefinedTagPerVolume then
    pairs (customer.erase oke) (controller.erase oke) ≤ definedTagLimit ∧
      (oke ∈ customer ∨ oke ∈ controller → ¬pairs customer controller ≤ definedTagLimit)
  else pairs customer controller ≤ definedTagLimit

/-- What the call compares with the limit is on the same side of it as the number of tags. -/
def ChecksLimit (c : Call RuleSet) (customer controller : DefinedTags) : Prop :=
  match c with
  | .loadBalancer _ spec _ =>
    (serviceAnnotationServiceAccountName ∉ spec.service.annotations ∧
      namespaces customer controller ≤ LoadBalancer.maxDefinedTagPerResource) ↔
      pairs customer controller ≤ definedTagLimit
  | .node .. => countDefinedTags (some customer) < definedTagLimit ↔
      pairs customer controller ≤ definedTagLimit
  | .volume .. => VolumeChecksLimit customer controller

/-! ## What is sent -/

/-- The tags of the request for a node. -/
theorem tags_reconcileNodeTags (common : Option TagConfig) (call : NodeCall) :
    ((reconcileNodeTags common call.getInstance call.node).bind Prod.fst).map (·.tags) =
      (Call.nodeTags common call).bind fun (instanceTags, required) =>
        (updateRequest "" instanceTags required).map (·.tags) := by
  have htags : ∀ id instanceTags required, (updateRequest id instanceTags required).map (·.tags) =
      (updateRequest "" instanceTags required).map (·.tags) := by
    intro id instanceTags required
    unfold updateRequest
    split_ifs <;> rfl
  obtain ⟨getInstance, node⟩ := call
  unfold reconcileNodeTags Call.nodeTags
  dsimp only
  cases node with
  | none => rfl
  | some node =>
    dsimp only [Option.bind_eq_bind, Option.bind_some]
    cases mapProviderIDToResourceID node.providerID with
    | error err => rfl
    | ok id =>
      dsimp only [Except.toOption, Option.bind_some]
      cases getInstance id with
      | error err => rfl
      | ok instanceTags =>
        cases requiredTags common with
        | none => rfl
        | some required => exact htags id instanceTags required

/-- A call sends what its check makes of the merged tags. -/
theorem sent_eq (c : Call RuleSet) : c.sent = c.merged.bind c.check := by
  cases c with
  | loadBalancer lb spec a =>
    unfold Call.sent Call.merged Call.check addLoadBalancerOkeSystemTags
    dsimp only
    cases withOkeSystemTags lb spec with
    | error err => split <;> rfl
    | ok tags =>
      by_cases hidentity : serviceAnnotationServiceAccountName ∈ spec.service.annotations
      · simp [hidentity, Except.toOption]
      · by_cases hmany : tags.toPairs.length > LoadBalancer.maxDefinedTagPerResource
        · simp [hidentity, hmany, Except.toOption]
        · simp [hidentity, hmany, Nat.le_of_not_lt hmany, Except.toOption]
  | node common call =>
    have htags := congrArg (Option.bind · (·.definedTags)) (tags_reconcileNodeTags common call)
    unfold Call.sent Call.merged Call.check Call.customer
    dsimp only [Option.bind_map, Function.comp_def] at htags ⊢
    rw [Option.bind_map] at htags
    refine htags.trans ?_
    rcases Option.eq_none_or_eq_some (Call.nodeTags common call) with
      hnone | ⟨⟨instanceTags, required⟩, hsome⟩
    · simp only [hnone, Option.bind_none]
    · simp only [hsome, Option.bind_some, updateRequest]
      by_cases hhas : hasRequiredDefinedTags instanceTags.definedTags required.definedTags
      · simp [hhas]
      · by_cases hfull : countDefinedTags instanceTags.definedTags ≥ definedTagLimit
        · simp [hhas, hfull, mergeTagConfig]
        · simp [hhas, hfull, mergeTagConfig]
  | volume volName volSize availDomainName compartmentID backupID srcVolumeID kmsKeyID vpusPerGB
      enableOkeSystemTags tags scTags =>
    simp only [Call.sent, Call.merged, Call.check, provision, Option.bind_some]
    cases (getBVTags enableOkeSystemTags tags scTags).definedTags with
    | none => rfl
    | some tags => rfl

theorem erase_eq_self_iff {V : Type} {m : GoMap V} {k : String} : m.erase k = m ↔ k ∉ m := by
  constructor
  · intro h hk
    rw [← h, AList.mem_erase] at hk
    exact hk.1 rfl
  · intro h
    exact AList.ext (List.kerase_of_notMem_keys h)

/-! ## When the limit is respected -/

theorem gate_iff {p : Prop} [Decidable p] {tags : DefinedTags} :
    ((∀ tags', (if p then some tags else none) = some tags' → WithinLimit (some tags')) ∧
      ((if p then some tags else none) ≠ some tags → ¬WithinLimit (some tags))) ↔
      (p ↔ WithinLimit (some tags)) := by
  by_cases hp : p
  · simp [hp]
  · simp [hp]

/-! ## Counting merged tags -/

section Merged

variable {customer controller tags : DefinedTags}

/-- The tags are those of the customer, where the controller has none for the namespace. -/
def Merges (customer controller tags : DefinedTags) : Prop :=
  ∀ ns, tags.lookup ns = (controller.lookup ns).or (customer.lookup ns)

theorem Merges.perm (h : Merges customer controller tags) :
    tags.toPairs.Perm (kept customer controller ++ controller.toPairs) := by
  have hnodup (m : DefinedTags) : m.toPairs.Nodup := .of_map _ m.nodup_toPairs
  have hdisjoint : (kept customer controller).Disjoint controller.toPairs := by
    rintro ⟨ns, v⟩ hkept hmem
    have hns := (List.mem_filter.mp hkept).2
    exact of_decide_eq_true hns (GoMap.mem_of_lookup (GoMap.mem_toPairs.mp hmem))
  refine (List.perm_ext_iff_of_nodup (hnodup tags)
    (((hnodup customer).filter _).append (hnodup controller) hdisjoint)).mpr ?_
  rintro ⟨ns, v⟩
  rw [GoMap.mem_toPairs, h ns, List.mem_append, List.mem_filter, GoMap.mem_toPairs,
    GoMap.mem_toPairs, decide_eq_true_eq, GoMap.mem_iff_exists_lookup]
  cases controller.lookup ns with
  | none => simp
  | some v' => simp

theorem Merges.length_eq (h : Merges customer controller tags) :
    tags.toPairs.length = namespaces customer controller := by
  rw [h.perm.length_eq, List.length_append, namespaces]

theorem Merges.tagsWithin_iff (h : Merges customer controller tags) :
    WithinLimit (some tags) ↔ pairs customer controller ≤ definedTagLimit := by
  unfold WithinLimit pairs countDefinedTags
  dsimp only [Option.getD_some]
  rw [(h.perm.map _).sum_nat, List.map_append, List.sum_append]

theorem Merges.mem_iff (h : Merges customer controller tags) {ns : String} :
    ns ∈ tags ↔ ns ∈ customer ∨ ns ∈ controller := by
  rw [← AList.lookup_isSome, ← AList.lookup_isSome, ← AList.lookup_isSome, h ns, Option.isSome_or,
    Bool.or_eq_true, or_comm]

theorem Merges.erase (h : Merges customer controller tags) (ns : String) :
    Merges (customer.erase ns) (controller.erase ns) (tags.erase ns) := by
  intro ns'
  simp only [GoMap.lookup_erase_eq_ite, h ns']
  split <;> rfl

theorem Merges.volumeDefinedTags_iff (h : Merges customer controller tags) :
    ((∀ tags', some (volumeDefinedTags tags) = some tags' → WithinLimit (some tags')) ∧
      (some (volumeDefinedTags tags) ≠ some tags → ¬WithinLimit (some tags))) ↔
      VolumeChecksLimit customer controller := by
  unfold VolumeChecksLimit volumeDefinedTags
  dsimp only
  rw [← h.length_eq, ← h.tagsWithin_iff, ← (h.erase _).tagsWithin_iff, ← h.mem_iff]
  split_ifs with hmany
  · simp [erase_eq_self_iff]
  · simp

theorem volumeChecksLimit_empty : VolumeChecksLimit ∅ ∅ := by
  unfold VolumeChecksLimit
  decide

theorem merges_mergeDefinedTags (customer controller : Option DefinedTags) :
    Merges (customer.getD ∅) (controller.getD ∅) (mergeDefinedTags [customer, controller]) := by
  intro ns
  rw [mergeDefinedTags, List.map_cons, List.map_cons, List.map_nil, GoMap.lookup_mergeAll_pair]

end Merged

theorem merged_loadBalancer (lb : TagConfig) (spec : FullSpec RuleSet) (a : UpdateAnswers) :
    Option.Rel (Merges (lb.definedTags.getD ∅)) (Call.loadBalancer lb spec a).controller
      (Call.loadBalancer lb spec a).merged := by
  unfold Call.controller Call.merged withOkeSystemTags
  dsimp only
  cases spec.systemTags with
  | none => exact .none
  | some systemTags =>
    dsimp only [Option.bind_some]
    cases systemTags.lookup LoadBalancer.okeSystemTagNamesapce with
    | none => exact .none
    | some tags =>
      refine .some fun ns => ?_
      rw [GoMap.lookup_insert_eq_ite, GoMap.lookup_insert_eq_ite]
      split <;> rfl

theorem merged_node (common : Option TagConfig) (call : NodeCall) :
    Option.Rel (Merges ((Call.node common call : Call RuleSet).customer.getD ∅))
      (Call.node common call : Call RuleSet).controller
      (Call.node common call : Call RuleSet).merged := by
  unfold Call.customer Call.controller Call.merged
  dsimp only
  cases Call.nodeTags common call with
  | none => exact .none
  | some tags =>
    dsimp only [Option.bind_some]
    split
    · exact .none
    · exact .some (merges_mergeDefinedTags _ _)

/-- A volume without tags of the customer and of the cluster has none. -/
theorem merged_getBVTags (enableOkeSystemTags : Bool) (tags : Option InitialTags)
    (scTags : TagConfig) :
    let customer := (getBVTags false tags scTags).definedTags
    let common := if enableOkeSystemTags then tags.bind (·.common) else none
    ((getBVTags enableOkeSystemTags tags scTags).definedTags = none ∧ customer = none ∧
        common = none) ∨
      ∃ tags', (getBVTags enableOkeSystemTags tags scTags).definedTags = some tags' ∧
        Merges (customer.getD ∅) ((common.bind (·.definedTags)).getD ∅) tags' := by
  dsimp only
  have heq : getBVTags enableOkeSystemTags tags scTags =
      (if enableOkeSystemTags then tags.bind (·.common) else none).elim
        (getBVTags false tags scTags) (mergeTagConfig (getBVTags false tags scTags)) := by
    unfold getBVTags
    cases tags.bind (·.common) <;> cases enableOkeSystemTags <;> rfl
  rw [heq]
  cases (if enableOkeSystemTags then tags.bind (·.common) else none) with
  | some common => exact .inr ⟨_, rfl, merges_mergeDefinedTags _ _⟩
  | none =>
    cases hcustomer : (getBVTags false tags scTags).definedTags with
    | none => exact .inl ⟨hcustomer, rfl, rfl⟩
    | some customer => exact .inr ⟨customer, hcustomer, fun ns => rfl⟩

theorem forall_merged_iff {P Q : DefinedTags → Prop} {customer : DefinedTags}
    {controller merged : Option DefinedTags} (h : Option.Rel (Merges customer) controller merged)
    (hPQ : ∀ {controller tags}, Merges customer controller tags → (P tags ↔ Q controller)) :
    (∀ tags, merged = some tags → P tags) ↔
      ∀ controller', controller = some controller' → Q controller' := by
  cases h with
  | none => simp
  | some h => simp [hPQ h]

/-- The limit is respected exactly if what a call compares with it, instead of the number of tags
of the customer and the controller, comes to the same. -/
theorem respectsLimit_iff (c : Call RuleSet) :
    RespectsLimit c ↔ (WithinLimit c.customer → ∀ controller, c.controller = some controller →
      ChecksLimit c (c.customer.getD ∅) controller) := by
  have hmerged : ((∀ tags, c.sent = some tags → WithinLimit (some tags)) ∧
      ∀ tags, c.merged = some tags → c.sent ≠ some tags → ¬WithinLimit (some tags)) ↔
      ∀ tags, c.merged = some tags → (∀ tags', c.check tags = some tags' →
        WithinLimit (some tags')) ∧ (c.check tags ≠ some tags → ¬WithinLimit (some tags)) := by
    rw [sent_eq]
    cases c.merged with
    | none => simp
    | some tags => simp
  unfold RespectsLimit
  rw [hmerged]
  refine imp_congr_right fun _ => ?_
  cases c with
  | loadBalancer lb spec a =>
    refine forall_merged_iff (merged_loadBalancer lb spec a) fun h => gate_iff.trans ?_
    rw [h.length_eq, h.tagsWithin_iff]
    rfl
  | node common call =>
    refine forall_merged_iff (merged_node common call) fun h => gate_iff.trans ?_
    rw [h.tagsWithin_iff]
    rfl
  | volume _ _ _ _ _ _ _ _ enableOkeSystemTags tags scTags =>
    have hmerges := merged_getBVTags enableOkeSystemTags tags scTags
    unfold Call.merged Call.customer Call.controller
    dsimp only at hmerges ⊢
    rcases hmerges with ⟨hnone, hcustomer, hcommon⟩ | ⟨tags', hsome, h⟩
    · rw [hnone, hcustomer, hcommon]
      exact iff_of_true (fun _ h => nomatch h)
        fun controller h => Option.some.inj h ▸ volumeChecksLimit_empty
    · rw [hsome]
      simpa [Call.check, ChecksLimit] using h.volumeDefinedTags_iff

/-- Tags of a customer, all in one namespace. -/
def customerTags (n : Nat) : TagConfig where
  definedTags := some (.ofPairs [("customer",
    some (.ofPairs ((List.range n).map fun i => (toString i, .string ""))))])

/-- A tag of the cluster. -/
def clusterTags : TagConfig where
  definedTags := some (.ofPairs [(LoadBalancer.okeSystemTagNamesapce,
    some (.ofPairs [("Cluster", .string "c")]))])

/-- A new volume with a tag of the cluster. -/
def taggedVolume (n : Nat) : Call Unit :=
  .volume "pvc-1" 0 "AD-1" "compartment" "" "" "" 10 true
    (some { blockVolume := some (customerTags n), common := some clusterTags }) {}

/-- A node that lacks the tag of the cluster and the one of the controller. -/
def taggedNode (n : Nat) : Call Unit :=
  .node (some clusterTags) ⟨fun _ => .ok (customerTags n), some worker⟩

/-- With 64 tags in one namespace the volume and the load balancer, and with 63 the node, get more
than 64 tags. -/
theorem not_respectsLimit_customerTags :
    ¬RespectsLimit (taggedVolume 64) ∧ ¬RespectsLimit (taggedNode 63) ∧
      ∃ spec, LoadBalancer.newFullSpec .simple
          { compartmentID := "c", initialLBTags := some { common := some clusterTags } } none
          (LoadBalancer.ipv4Request (LoadBalancer.udpService [])) = .ok spec ∧
        ¬RespectsLimit (.loadBalancer (customerTags 64) spec {}) := by
  have hexceeds : ∀ c : Call Unit, countDefinedTags c.customer ≤ definedTagLimit →
      c.sent.map (countDefinedTags ∘ some) = some 65 → ¬RespectsLimit c := by
    intro c hcustomer hsent h
    obtain ⟨tags, htags, hcount⟩ := Option.map_eq_some_iff.mp hsent
    have hwithin : (countDefinedTags ∘ some) tags ≤ definedTagLimit := (h hcustomer).1 tags htags
    rw [hcount] at hwithin
    exact absurd hwithin (by decide)
  refine ⟨hexceeds _ ?_ ?_, hexceeds _ ?_ ?_, _, rfl, hexceeds _ ?_ ?_⟩
  all_goals decide +kernel

end OciCcm.TagLimit
