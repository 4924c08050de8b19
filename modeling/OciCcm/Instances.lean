import OciCcm.Client
import OciCcm.Go.Pages
import OciCcm.Tags
import OciCcm.Util

/-! # Does an instance still exist?

The node controller deletes a node when the cloud provider says that its
instance is gone. An instance that is not found may also be one that the
controller may not see, so the cloud provider then looks for it in the lists of
instances of all availability domains.
-/

namespace OciCcm.Instances

open Client Go Kubernetes List

inductive InstanceLifecycleState where
  | moving
  | provisioning
  | running
  | starting
  | stopping
  | stopped
  | creatingImage
  | terminating
  | terminated
deriving DecidableEq, Repr

structure Instance where
  id : String
  compartmentId : String
  lifecycleState : InstanceLifecycleState
  shape : String := ""
  definedTags : Option Tags.DefinedTags := none
deriving DecidableEq

def isInstanceInTerminalState (inst : Instance) : Bool :=
  inst.lifecycleState = .terminated || inst.lifecycleState = .terminating

/-- The answers to the calls of one check, and what the controller knows. A call that the rate
limiter refuses is answered with its error. -/
structure CloudProvider where
  getInstance : String → Except ClientError Instance
  listAvailabilityDomains : String → Except ClientError (List String)
  /-- The pages of the instances of a compartment and an availability domain. -/
  listInstances : String → String → Pages.Server ClientError Instance
  instanceCache : String → Except String (Option Instance) := fun _ => .ok none
  nodeLister : Except String (List Node)

def compartmentIDKey := "oci.oraclecloud.com/compartment-id"

namespace CloudProvider

/-- The loop over the nodes in `getCompartmentIDByInstanceID`. -/
def compartmentIDOfNodes (instanceID : String) : List Node → Except ClientError String
  | [] => .error (.other "compartmentID annotation missing in the node. Would retry")
  | node :: nodes =>
    match mapProviderIDToResourceID node.providerID with
    | .error _ => .error (.other "Failed to map providerID to instanceID")
    | .ok providerID =>
      match node.annotations.lookup compartmentIDKey with
      | some compartmentID =>
        if providerID = instanceID ∧ compartmentID ≠ "" then .ok compartmentID
        else compartmentIDOfNodes instanceID nodes
      | none => compartmentIDOfNodes instanceID nodes

def getCompartmentIDByInstanceID (cp : CloudProvider) (instanceID : String) :
    Except ClientError String :=
  match cp.instanceCache instanceID with
  | .error err => .error (.other (wrap "error fetching instance from instanceCache" err))
  | .ok (some inst) => .ok inst.compartmentId
  | .ok none =>
    match cp.nodeLister with
    | .error err => .error (.other (wrap "error listing all the nodes using node informer" err))
    | .ok nodes => compartmentIDOfNodes instanceID nodes

def listInstancesByCompartmentAndAD (cp : CloudProvider) (fuel : Nat)
    (compartmentID availabilityDomain : String) (n : Nat) :
    Option (Except ClientError (List Instance) × Nat) :=
  Pages.collect (cp.listInstances compartmentID availabilityDomain) (fun _ => true) fuel n none []

/-- The loop over the availability domains in `checkForAuthorizationError`. -/
def searchAvailabilityDomains (cp : CloudProvider) (fuel : Nat)
    (compartmentId instanceId : String) : Nat → List String → Option (Except ClientError Bool)
  | _, [] => some (.ok false)
  | n, availabilityDomain :: rest =>
    match cp.listInstancesByCompartmentAndAD fuel compartmentId availabilityDomain n with
    | none => none
    | some (.error err, _) => some (.error err)
    | some (.ok instances, n) =>
      if instances.any (·.id = instanceId) then some (.ok true)
      else searchAvailabilityDomains cp fuel compartmentId instanceId n rest

/-- The error of `listAvailabilityDomains` is not looked at: the loop then has nothing to do. -/
def checkForAuthorizationError (cp : CloudProvider) (fuel : Nat) (instanceId : String) :
    Option (Except ClientError Bool) :=
  match cp.getCompartmentIDByInstanceID instanceId with
  | .error err => some (.error err)
  | .ok compartmentId =>
    let availabilityDomains := match cp.listAvailabilityDomains compartmentId with
      | .ok availabilityDomains => availabilityDomains
      | .error _ => []
    cp.searchAvailabilityDomains fuel compartmentId instanceId 0 availabilityDomains

/-- The instance is looked up by the resource id, and searched for by the provider id. -/
def instanceExistsByProviderID (cp : CloudProvider) (fuel : Nat) (providerID : String) :
    Option (Except ClientError Bool) :=
  match mapProviderIDToResourceID providerID with
  | .error err => some (.error (.other err))
  | .ok resourceID =>
    match cp.getInstance resourceID with
    | .ok inst => some (.ok (!isInstanceInTerminalState inst))
    | .error err =>
      if isNotFound err then cp.checkForAuthorizationError fuel providerID
      else some (.error err)

/-! ## Proof that an instance is gone -/

/-- The instances of the availability domains were all listed, on all pages, from the request
with the given number on. -/
inductive ListedAll (cp : CloudProvider) (compartmentId : String) :
    Nat → List String → List Instance → Prop
  | nil {n : Nat} : ListedAll cp compartmentId n [] []
  | cons {n n' : Nat} {availabilityDomain : String} {rest : List String}
      {instances instances' : List Instance}
      (hlisted : Pages.Listed (cp.listInstances compartmentId availabilityDomain) n none
        instances n')
      (hrest : ListedAll cp compartmentId n' rest instances') :
      ListedAll cp compartmentId n (availabilityDomain :: rest) (instances ++ instances')

/-- The instance is terminated, or it was not found and no availability domain has it. -/
def ProvenGone (cp : CloudProvider) (providerID : String) : Prop :=
  ∃ resourceID, mapProviderIDToResourceID providerID = .ok resourceID ∧
    ((∃ inst, cp.getInstance resourceID = .ok inst ∧
        (inst.lifecycleState = .terminated ∨ inst.lifecycleState = .terminating)) ∨
      ∃ err compartmentId availabilityDomains instances,
        cp.getInstance resourceID = .error err ∧ isNotFound err ∧
        cp.getCompartmentIDByInstanceID providerID = .ok compartmentId ∧
        cp.listAvailabilityDomains compartmentId = .ok availabilityDomains ∧
        cp.ListedAll compartmentId 0 availabilityDomains instances ∧
        ∀ inst ∈ instances, inst.id ≠ resourceID)

/-- When an instance that is not found can be searched for: the availability domains are
listed, and the instance is not missed because of the form of its provider id. -/
def CanSearch (cp : CloudProvider) (providerID : String) : Prop :=
  ∀ resourceID err compartmentId, mapProviderIDToResourceID providerID = .ok resourceID →
    cp.getInstance resourceID = .error err → isNotFound err →
    cp.getCompartmentIDByInstanceID providerID = .ok compartmentId →
    ∃ availabilityDomains, cp.listAvailabilityDomains compartmentId = .ok availabilityDomains ∧
      (providerID ≠ resourceID →
        ∀ instances, cp.ListedAll compartmentId 0 availabilityDomains instances →
          (∃ inst ∈ instances, inst.id = resourceID) → ∃ inst ∈ instances, inst.id = providerID)

variable {cp : CloudProvider} {fuel n : Nat} {compartmentId instanceId providerID : String}
  {availabilityDomains : List String} {instances : List Instance} {err : ClientError}
  {resourceID : String}

/-- If the search finds nothing, everything was listed. -/
theorem listedAll_of_search
    (h : cp.searchAvailabilityDomains fuel compartmentId instanceId n availabilityDomains =
      some (.ok false)) :
    ∃ instances, cp.ListedAll compartmentId n availabilityDomains instances ∧
      ∀ inst ∈ instances, inst.id ≠ instanceId := by
  induction availabilityDomains generalizing n with
  | nil => exact ⟨[], .nil, fun _ h => absurd h not_mem_nil⟩
  | cons availabilityDomain rest ih =>
    unfold searchAvailabilityDomains at h
    split at h
    · cases h
    · cases h
    · next instances n' hlist =>
        split at h
        · cases h
        · next hnone =>
            obtain ⟨items, hlisted, rfl⟩ := Pages.listed_of_collect hlist
            obtain ⟨instances', hrest, hno⟩ := ih h
            refine ⟨items ++ instances', .cons hlisted hrest, fun inst hinst => ?_⟩
            rcases mem_append.mp hinst with hinst | hinst
            · simp only [nil_append, filter_true] at hnone
              exact fun heq => hnone (any_eq_true.mpr ⟨inst, hinst, by simpa using heq⟩)
            · exact hno inst hinst

theorem search_of_listed {n' : Nat} {availabilityDomain : String} (rest : List String)
    (hlisted : Pages.Listed (cp.listInstances compartmentId availabilityDomain) n none instances
      n') :
    ∃ fuel, ∀ fuel' ≥ fuel, cp.searchAvailabilityDomains fuel' compartmentId instanceId n
      (availabilityDomain :: rest) =
        if instances.any (·.id = instanceId) then some (.ok true)
        else cp.searchAvailabilityDomains fuel' compartmentId instanceId n' rest := by
  obtain ⟨fuel, h⟩ : ∃ fuel, Pages.collect
      (cp.listInstances compartmentId availabilityDomain) (fun _ => true) fuel n none [] = _ :=
    Pages.collect_of_listed hlisted
  refine ⟨fuel, fun fuel' hfuel => ?_⟩
  have hlist : cp.listInstancesByCompartmentAndAD fuel' compartmentId availabilityDomain n = _ :=
    Pages.collect_mono hfuel h
  rw [searchAvailabilityDomains, hlist]
  simp only [nil_append, filter_true]

theorem search_of_listedAll
    (h : cp.ListedAll compartmentId n availabilityDomains instances)
    (hno : ∀ inst ∈ instances, inst.id ≠ instanceId) :
    ∃ fuel, ∀ fuel' ≥ fuel, cp.searchAvailabilityDomains fuel' compartmentId instanceId n
      availabilityDomains = some (.ok false) := by
  induction h with
  | nil => exact ⟨0, fun _ _ => rfl⟩
  | @cons n n' availabilityDomain rest instances instances' hlisted hrest ih =>
    obtain ⟨fuel₁, h₁⟩ := ih fun inst hinst => hno inst (mem_append_right _ hinst)
    obtain ⟨fuel₂, h₂⟩ := search_of_listed rest hlisted
    refine ⟨max fuel₁ fuel₂, fun fuel' hfuel => ?_⟩
    rw [h₂ fuel' (le_of_max_le_right hfuel), if_neg, h₁ fuel' (le_of_max_le_left hfuel)]
    simpa using fun inst hinst => hno inst (mem_append_left _ hinst)

theorem ListedAll.unique {instances' : List Instance}
    (h : cp.ListedAll compartmentId n availabilityDomains instances)
    (h' : cp.ListedAll compartmentId n availabilityDomains instances') :
    instances = instances' := by
  induction h generalizing instances' with
  | nil =>
    cases h'
    rfl
  | cons hlisted hrest ih =>
    cases h' with
    | cons hlisted' hrest' =>
      obtain ⟨rfl, rfl⟩ := hlisted.unique hlisted'
      rw [ih hrest']

/-- Once the instance is not found, the check is the search. -/
theorem instanceExistsByProviderID_of_notFound
    (hmap : mapProviderIDToResourceID providerID = .ok resourceID)
    (hget : cp.getInstance resourceID = .error err) (hnotFound : isNotFound err) :
    cp.instanceExistsByProviderID fuel providerID =
      cp.checkForAuthorizationError fuel providerID := by
  simp only [instanceExistsByProviderID, hmap, hget, hnotFound, if_true]

theorem provenGone_of_notFound (hmap : mapProviderIDToResourceID providerID = .ok resourceID)
    (hget : cp.getInstance resourceID = .error err)
    (hcompartment : cp.getCompartmentIDByInstanceID providerID = .ok compartmentId)
    (h : cp.ProvenGone providerID) :
    ∃ availabilityDomains instances,
      cp.listAvailabilityDomains compartmentId = .ok availabilityDomains ∧
      cp.ListedAll compartmentId 0 availabilityDomains instances ∧
      ∀ inst ∈ instances, inst.id ≠ resourceID := by
  obtain ⟨resourceID', hmap', ⟨inst, hinst, -⟩ |
    ⟨err', compartmentId', availabilityDomains, instances, -, -, hcompartment', hads, hlisted,
      hno⟩⟩ := h
  · obtain rfl := Except.ok.inj (hmap.symm.trans hmap')
    rw [hget] at hinst
    cases hinst
  · obtain rfl := Except.ok.inj (hmap.symm.trans hmap')
    obtain rfl := Except.ok.inj (hcompartment.symm.trans hcompartment')
    exact ⟨availabilityDomains, instances, hads, hlisted, hno⟩

theorem canSearch_of_goneOnlyIfProven
    (h : ∀ fuel, cp.instanceExistsByProviderID fuel providerID = some (.ok false) →
      cp.ProvenGone providerID) : cp.CanSearch providerID := by
  intro resourceID err compartmentId hmap hget hnotFound hcompartment
  have hcheck : ∀ fuel, cp.checkForAuthorizationError fuel providerID = some (.ok false) →
      cp.ProvenGone providerID := fun fuel hfalse =>
    h fuel ((instanceExistsByProviderID_of_notFound hmap hget hnotFound).trans hfalse)
  unfold checkForAuthorizationError at hcheck
  simp only [hcompartment] at hcheck
  cases hads : cp.listAvailabilityDomains compartmentId with
  | error err =>
    -- nothing is searched, and the instance is reported gone
    simp only [hads] at hcheck
    obtain ⟨_, _, hads', -⟩ :=
      provenGone_of_notFound hmap hget hcompartment (hcheck 0 rfl)
    rw [hads] at hads'
    cases hads'
  | ok availabilityDomains =>
    refine ⟨availabilityDomains, rfl, fun _ instances hlisted ⟨inst, hinst, hid⟩ => ?_⟩
    by_contra hno
    simp only [not_exists, not_and] at hno
    simp only [hads] at hcheck
    obtain ⟨fuel, hfuel⟩ := search_of_listedAll hlisted hno
    obtain ⟨availabilityDomains', instances', hads', hlisted', hgone⟩ :=
      provenGone_of_notFound hmap hget hcompartment (hcheck fuel (hfuel fuel le_rfl))
    obtain rfl := Except.ok.inj (hads.symm.trans hads')
    obtain rfl := hlisted.unique hlisted'
    exact hgone inst hinst hid

theorem provenGone_of_canSearch (hsearch : cp.CanSearch providerID) {fuel : Nat}
    (h : cp.instanceExistsByProviderID fuel providerID = some (.ok false)) :
    cp.ProvenGone providerID := by
  unfold instanceExistsByProviderID at h
  split at h
  · cases h
  next resourceID hmap =>
  refine ⟨resourceID, hmap, ?_⟩
  split at h
  · next inst hget =>
      left
      refine ⟨inst, hget, ?_⟩
      have hterminal := Except.ok.inj (Option.some.inj h)
      rw [Bool.not_eq_false', isInstanceInTerminalState, Bool.or_eq_true] at hterminal
      simpa using hterminal
  next err hget =>
  split at h
  · next hnotFound =>
      right
      unfold checkForAuthorizationError at h
      split at h
      · cases h
      next compartmentId hcompartment =>
      obtain ⟨availabilityDomains, hads, hform⟩ :=
        hsearch resourceID err compartmentId hmap hget hnotFound hcompartment
      simp only [hads] at h
      obtain ⟨instances, hlisted, hno⟩ := listedAll_of_search h
      refine ⟨err, compartmentId, availabilityDomains, instances, hget, hnotFound, hcompartment,
        hads, hlisted, fun inst hinst hid => ?_⟩
      by_cases heq : providerID = resourceID
      · exact hno inst hinst (hid.trans heq.symm)
      · obtain ⟨inst', hinst', hid'⟩ := hform heq instances hlisted ⟨inst, hinst, hid⟩
        exact hno inst' hinst' hid'
  · cases h

/-- An instance is reported gone only with proof, exactly if one that is not found can be
searched for. -/
theorem goneOnlyIfProven_iff_canSearch (cp : CloudProvider) (providerID : String) :
    (∀ fuel, cp.instanceExistsByProviderID fuel providerID = some (.ok false) →
      cp.ProvenGone providerID) ↔ cp.CanSearch providerID :=
  ⟨canSearch_of_goneOnlyIfProven, fun hsearch _ => provenGone_of_canSearch hsearch⟩

/-- A node whose compartment is known. -/
def worker : Node where
  name := "worker"
  annotations := .ofPairs [(compartmentIDKey, "ocid1.compartment.oc1..c")]
  providerID := "ocid1.instance.oc1..i"
  addresses := []

/-- Instances are not found and the availability domains cannot be listed. -/
def outage : CloudProvider where
  getInstance _ := .error (.serviceError 404 "NotAuthorizedOrNotFound")
  listAvailabilityDomains _ := .error (.serviceError 500 "InternalServerError")
  listInstances _ _ _ _ := .error (.serviceError 500 "InternalServerError")
  nodeLister := .ok [worker]

/-- During the outage the node is reported gone. -/
theorem outage_gone_not_proven :
    outage.instanceExistsByProviderID 0 "ocid1.instance.oc1..i" = some (.ok false) ∧
      ¬outage.ProvenGone "ocid1.instance.oc1..i" := by
  refine ⟨rfl, fun h => ?_⟩
  obtain ⟨_, _, hads, -⟩ := provenGone_of_notFound rfl rfl rfl h
  cases hads

end CloudProvider

end OciCcm.Instances
