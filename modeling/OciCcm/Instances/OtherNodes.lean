import OciCcm.Instances.Addresses

/-! # What the nodes of other instances change

The loops over the nodes convert the provider id of every node that they meet. A
node whose provider id cannot be converted ends them with an error, even if it
does not belong to the instance that they are for.
-/

namespace OciCcm.Instances

open Client Go Kubernetes

/-- The node of an instance. -/
def isNodeOf (instanceID : String) (node : Node) : Bool :=
  match mapProviderIDToResourceID node.providerID with
  | .ok providerID => providerID = instanceID
  | .error _ => false

/-- One iteration of the loop over the nodes in `getCompartmentIDByInstanceID`. -/
def compartmentIDOfNode (instanceID : String) (node : Node) :
    Except ClientError (Option String) :=
  match mapProviderIDToResourceID node.providerID with
  | .error _ => .error (.other "Failed to map providerID to instanceID")
  | .ok providerID =>
    match node.annotations.lookup compartmentIDKey with
    | some compartmentID =>
      .ok (if providerID = instanceID ∧ compartmentID ≠ "" then some compartmentID else none)
    | none => .ok none

theorem compartmentIDOfNodes_eq_search (instanceID : String) (nodes : List Node) :
    CloudProvider.compartmentIDOfNodes instanceID nodes =
      Search.search (compartmentIDOfNode instanceID)
        (.error (.other "compartmentID annotation missing in the node. Would retry")) nodes := by
  induction nodes with
  | nil => rfl
  | cons node nodes ih =>
    unfold CloudProvider.compartmentIDOfNodes Search.search compartmentIDOfNode
    cases mapProviderIDToResourceID node.providerID with
    | error err => rfl
    | ok providerID =>
      cases node.annotations.lookup compartmentIDKey with
      | none => exact ih
      | some compartmentID =>
        dsimp only
        split
        · rfl
        · exact ih

variable {instanceID : String} {node : Node} {err : ClientError}

theorem isNodeOf_of_compartment (h : (Search.decided (compartmentIDOfNode instanceID) node).isSome) :
    isNodeOf instanceID node := by
  unfold Search.decided compartmentIDOfNode at h
  unfold isNodeOf
  cases hmap : mapProviderIDToResourceID node.providerID with
  | error err => simp [hmap] at h
  | ok providerID =>
    cases hlookup : node.annotations.lookup compartmentIDKey with
    | none => simp [hmap, hlookup] at h
    | some compartmentID =>
      simp only [hmap, hlookup, Option.isSome_ite] at h
      exact decide_eq_true h.1

theorem isNodeOf_of_ipFamily (h : (Search.decided (ipFamilyOfNode instanceID) node).isSome) :
    isNodeOf instanceID node := by
  unfold Search.decided ipFamilyOfNode at h
  unfold isNodeOf
  cases hmap : mapProviderIDToResourceID node.providerID with
  | error err => simp [hmap] at h
  | ok providerID =>
    simp only [hmap, Option.isSome_ite] at h
    exact decide_eq_true h

theorem compartmentIDOfNode_error (h : compartmentIDOfNode instanceID node = .error err) :
    err = .other "Failed to map providerID to instanceID" := by
  unfold compartmentIDOfNode at h
  split at h
  · exact (Except.error.inj h).symm
  · split at h
    · cases h
    · cases h

theorem ipFamilyOfNode_error (h : ipFamilyOfNode instanceID node = .error err) :
    err = .other "Failed to map providerID to instanceID" := by
  unfold ipFamilyOfNode at h
  split at h
  · exact (Except.error.inj h).symm
  · cases h

/-! ## Two lists of nodes -/

namespace NetworkProvider

/-- The provider with other nodes. -/
def withNodes (cp : NetworkProvider) (nodes : List Node) : NetworkProvider :=
  { cp with nodeLister := .ok nodes }

/-- What two lists of nodes give for an instance. -/
structure LookupsAgree (cp : NetworkProvider) (instanceID : String) (nodes nodes' : List Node) :
    Prop where
  compartment : (cp.withNodes nodes).getCompartmentIDByInstanceID instanceID =
    (cp.withNodes nodes').getCompartmentIDByInstanceID instanceID
  ipFamily : (cp.withNodes nodes).getNodeIpFamily instanceID =
    (cp.withNodes nodes').getNodeIpFamily instanceID
  addresses : (cp.withNodes nodes).extractNodeAddresses instanceID =
    (cp.withNodes nodes').extractNodeAddresses instanceID

variable {cp : NetworkProvider} {instanceID : String} {nodes nodes' : List Node}

theorem getCompartmentIDByInstanceID_withNodes_eq_iff
    (h : nodes.filter (isNodeOf instanceID) = nodes'.filter (isNodeOf instanceID)) :
    (cp.withNodes nodes).getCompartmentIDByInstanceID instanceID =
        (cp.withNodes nodes').getCompartmentIDByInstanceID instanceID ↔
      (cp.instanceCache instanceID = .ok none →
        (Search.Blocked (compartmentIDOfNode instanceID) nodes ↔
          Search.Blocked (compartmentIDOfNode instanceID) nodes')) := by
  unfold CloudProvider.getCompartmentIDByInstanceID withNodes
  rcases hcache : cp.instanceCache instanceID with err | _ | inst
  · exact iff_of_true rfl fun h => nomatch h
  · simp only [compartmentIDOfNodes_eq_search, forall_const]
    refine Search.search_eq_search_iff (fun node => isNodeOf_of_compartment) h
      (fun node err => compartmentIDOfNode_error) ?_
    simp
  · exact iff_of_true rfl fun h => nomatch h

theorem getNodeIpFamily_withNodes_eq_iff
    (h : nodes.filter (isNodeOf instanceID) = nodes'.filter (isNodeOf instanceID)) :
    (cp.withNodes nodes).getNodeIpFamily instanceID =
        (cp.withNodes nodes').getNodeIpFamily instanceID ↔
      (Search.Blocked (ipFamilyOfNode instanceID) nodes ↔
        Search.Blocked (ipFamilyOfNode instanceID) nodes') :=
  Search.search_eq_search_iff (fun _ => isNodeOf_of_ipFamily) h
    (fun _ _ => ipFamilyOfNode_error) fun h => nomatch h

theorem extractNodeAddresses_withNodes_congr
    (hcompartment : (cp.withNodes nodes).getCompartmentIDByInstanceID instanceID =
      (cp.withNodes nodes').getCompartmentIDByInstanceID instanceID)
    (hipFamily : (cp.withNodes nodes).getNodeIpFamily instanceID =
      (cp.withNodes nodes').getNodeIpFamily instanceID) :
    (cp.withNodes nodes).extractNodeAddresses instanceID =
      (cp.withNodes nodes').extractNodeAddresses instanceID := by
  have hipv6 : ∀ vnic, (cp.withNodes nodes).labelledIpv6Addresses instanceID vnic =
      (cp.withNodes nodes').labelledIpv6Addresses instanceID vnic := by
    intro vnic
    unfold labelledIpv6Addresses
    rw [hipFamily]
    rfl
  have hopenShift : ∀ compartmentID vnic,
      (cp.withNodes nodes).openShiftAddresses compartmentID instanceID vnic =
        (cp.withNodes nodes').openShiftAddresses compartmentID instanceID vnic := by
    intro compartmentID vnic
    unfold openShiftAddresses
    simp only [hipv6]
    rfl
  unfold extractNodeAddresses
  simp only [hcompartment, hipv6, hopenShift]
  rfl

/-- The nodes of other instances do not matter exactly if they block the search for the
compartment, unless the instance is cached, and the search for the IP families alike. -/
theorem lookupsAgree_iff
    (h : nodes.filter (isNodeOf instanceID) = nodes'.filter (isNodeOf instanceID)) :
    LookupsAgree cp instanceID nodes nodes' ↔
      (cp.instanceCache instanceID = .ok none →
        (Search.Blocked (compartmentIDOfNode instanceID) nodes ↔
          Search.Blocked (compartmentIDOfNode instanceID) nodes')) ∧
      (Search.Blocked (ipFamilyOfNode instanceID) nodes ↔
        Search.Blocked (ipFamilyOfNode instanceID) nodes') := by
  rw [← getCompartmentIDByInstanceID_withNodes_eq_iff h, ← getNodeIpFamily_withNodes_eq_iff h]
  exact ⟨fun hagree => ⟨hagree.compartment, hagree.ipFamily⟩, fun ⟨hcompartment, hipFamily⟩ =>
    ⟨hcompartment, hipFamily, extractNodeAddresses_withNodes_congr hcompartment hipFamily⟩⟩

def empty : NetworkProvider where
  getInstance _ := .error .errNotFound
  listAvailabilityDomains _ := .ok []
  listInstances _ _ _ _ := .ok ([], none)
  nodeLister := .ok []
  getPrimaryVNICForInstance _ _ := .ok none
  getSecondaryVNICsForInstance _ _ := .ok []
  parseIP _ := none

def otherWorker (providerID : String) : Node where
  name := "other-worker"
  providerID
  addresses := []

/-- A node of another instance changes nothing if its provider id is set. -/
theorem lookupsAgree_otherWorker :
    empty.LookupsAgree "ocid1.instance.oc1..i" [CloudProvider.worker]
      [otherWorker "ocid1.instance.oc1..j", CloudProvider.worker] := by
  have hown : [CloudProvider.worker].filter (isNodeOf "ocid1.instance.oc1..i") =
      [otherWorker "ocid1.instance.oc1..j", CloudProvider.worker].filter
        (isNodeOf "ocid1.instance.oc1..i") := rfl
  refine (lookupsAgree_iff hown).mpr ⟨fun _ => iff_of_false ?_ ?_, iff_of_false ?_ ?_⟩
  · exact Search.not_blocked_of_forall (List.forall_mem_singleton.mpr ⟨_, rfl⟩)
  · exact Search.not_blocked_of_forall
      (List.forall_mem_cons.mpr ⟨⟨_, rfl⟩, List.forall_mem_singleton.mpr ⟨_, rfl⟩⟩)
  · exact Search.not_blocked_of_forall (List.forall_mem_singleton.mpr ⟨_, rfl⟩)
  · exact Search.not_blocked_of_forall
      (List.forall_mem_cons.mpr ⟨⟨_, rfl⟩, List.forall_mem_singleton.mpr ⟨_, rfl⟩⟩)

/-- Else it hides the nodes after it. -/
theorem not_lookupsAgree_otherWorker :
    ¬empty.LookupsAgree "ocid1.instance.oc1..i" [CloudProvider.worker]
      [otherWorker "", CloudProvider.worker] := by
  intro h
  have hcompartment := h.compartment
  cases hcompartment

end NetworkProvider

end OciCcm.Instances
