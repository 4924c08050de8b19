import OciCcm.Instances.Addresses

/-! # The instance of a node name

A node without a provider id is looked for by its name. First the instances are
listed by their display name; if that does not come to exactly one, the network
interfaces of the compartment are searched for one that goes by the name.
-/

namespace OciCcm.Instances

open Client Go List

structure NamedInstance extends Instance where
  displayName : String := ""
deriving DecidableEq

structure HostVnic extends Vnic where
  hostnameLabel : Option String := none
deriving DecidableEq

inductive VnicAttachmentLifecycleState where
  | attaching
  | attached
  | detaching
  | detached
deriving DecidableEq, Repr

structure VnicAttachment where
  lifecycleState : VnicAttachmentLifecycleState
  vnicId : Option String
  instanceId : String
deriving DecidableEq

/-- The answers to the calls of one lookup: a listing by display name has only instances with that
name, and an instance that is asked for by its id has that id. Of a subnet only its network is
read. A call that the rate limiter refuses is answered with its error. -/
structure ComputeClient where
  /-- The pages of the instances of a compartment with a display name. -/
  listInstances : String → String → Pages.Server ClientError NamedInstance
  /-- The pages of the attachments in a compartment, of all instances or of one. -/
  listVnicAttachments : String → Option String → Pages.Server ClientError VnicAttachment
  getVNIC : String → Except ClientError HostVnic
  getSubnet : String → Except ClientError String
  getInstance : String → Except ClientError NamedInstance
  displayName_of_listed : ∀ compartmentID displayName n page items next,
    listInstances compartmentID displayName n page = .ok (items, next) →
      ∀ inst ∈ items, inst.displayName = displayName
  id_of_getInstance : ∀ id inst, getInstance id = .ok inst → inst.id = id

/-- Is the node name an address of the interface, or does it begin with its label? -/
def HostVnic.answersTo (vnic : HostVnic) (nodeName : String) : Bool :=
  vnic.publicIp = some nodeName || vnic.privateIp = some nodeName ||
    vnic.ipv6Addresses.head? = some (replaceAll nodeName '-' ':') ||
    vnic.hostnameLabel.any fun label => label ≠ "" && hasPrefix nodeName label

/-- The instance, if the search has come to exactly one. -/
def theOnly (tooMany : String) : List NamedInstance → Except ClientError NamedInstance
  | [] => .error .errNotFound
  | [inst] => .ok inst
  | instances =>
    .error (.other ("too many instances returned for " ++ tooMany ++ ": " ++
      toString instances.length))

namespace ComputeClient

def getInstanceByDisplayName (client : ComputeClient) (fuel : Nat)
    (compartmentID displayName : String) : Option (Except ClientError NamedInstance) :=
  (Pages.collect (client.listInstances compartmentID displayName)
    (fun inst => !isInstanceInTerminalState inst.toInstance) fuel 0 none []).map fun (r, _) =>
      r >>= theOnly ("display name " ++ displayName.quote)

/-- The interface of an attachment. One that is not attached, or has no interface, is skipped. -/
def attachedVnic (client : ComputeClient) (attachment : VnicAttachment) :
    Except ClientError (Option HostVnic) :=
  if attachment.lifecycleState ≠ .attached then .ok none
  else match attachment.vnicId with
    | none => .ok none
    | some vnicId => (client.getVNIC vnicId).map some

/-- One iteration of the loop over the attachments: the instance to be noted, under its id. -/
def attachedInstance (client : ComputeClient) (vcnID nodeName : String)
    (attachment : VnicAttachment) : Except ClientError (Option (String × NamedInstance)) := do
  match ← client.attachedVnic attachment with
  | none => .ok none
  | some vnic =>
    let subnetVcnID ← client.getSubnet vnic.subnetId
    if subnetVcnID ≠ vcnID then .ok none
    else if vnic.answersTo nodeName then do
      let inst ← client.getInstance attachment.instanceId
      if isInstanceInTerminalState inst.toInstance then .ok none
      else .ok (some (inst.id, inst))
    else .ok none

/-- The search through the network interfaces. -/
def searchAttachments (client : ComputeClient) (vcnID nodeName : String) :
    Pages.Loop ClientError VnicAttachment (GoMap NamedInstance)
      (Except ClientError NamedInstance) :=
  .stepping true ∅ (fillStep (client.attachedInstance vcnID nodeName)) fun instances =>
    theOnly ("node name " ++ nodeName.quote) (instances.toPairs.map Prod.snd)

/-- The fuel is that of the two listings. -/
def getInstanceByNodeName (client : ComputeClient) (fuel fuel' : Nat)
    (compartmentID vcnID nodeName : String) : Option (Except ClientError NamedInstance) :=
  match client.getInstanceByDisplayName fuel compartmentID nodeName with
  | none => none
  | some (.ok inst) => some (.ok inst)
  | some (.error _) =>
    ((client.searchAttachments vcnID nodeName).run (client.listVnicAttachments compartmentID none)
      fuel' 0 none ∅).map Prod.fst

end ComputeClient

/-! ## What a node name stands for -/

/-- The node name is an address of the interface, or the label of the interface is the node name
or what stands before its first dot. -/
abbrev HostVnic.IsNamed (vnic : HostVnic) (nodeName : String) : Prop :=
  vnic.publicIp = some nodeName ∨ vnic.privateIp = some nodeName ∨
    vnic.ipv6Addresses.head? = some (replaceAll nodeName '-' ':') ∨
    vnic.hostnameLabel = some nodeName ∨ vnic.hostnameLabel = (split nodeName '.').head?

/-- The label of the interface is a beginning of the node name, but neither the node name nor what
stands before its first dot. -/
def HostVnic.HasStrayLabel (vnic : HostVnic) (nodeName : String) : Prop :=
  ∃ label, vnic.hostnameLabel = some label ∧ label ≠ "" ∧ hasPrefix nodeName label ∧
    label ≠ nodeName ∧ some label ≠ (split nodeName '.').head?

theorem HostVnic.HasStrayLabel.answersTo {vnic : HostVnic} {nodeName : String}
    (h : vnic.HasStrayLabel nodeName) : vnic.answersTo nodeName := by
  obtain ⟨label, hlabel, hne, hprefix, -⟩ := h
  simp [HostVnic.answersTo, hlabel, hne, hprefix]

theorem HostVnic.hasStrayLabel_of_answersTo {vnic : HostVnic} {nodeName : String}
    (h : vnic.answersTo nodeName) (hnamed : ¬vnic.IsNamed nodeName) :
    vnic.HasStrayLabel nodeName := by
  simp only [IsNamed, not_or] at hnamed
  obtain ⟨hpublic, hprivate, hv6, hname, hdot⟩ := hnamed
  simp only [HostVnic.answersTo, hpublic, hprivate, hv6, decide_false, Bool.false_or,
    Option.any_eq_true, Bool.and_eq_true, decide_eq_true_eq] at h
  obtain ⟨label, hlabel, hne, hprefix⟩ := h
  rw [hlabel] at hname hdot
  exact ⟨label, hlabel, hne, hprefix, fun heq => hname (congrArg some heq), hdot⟩

section Lookup

variable (client : ComputeClient) (compartmentID vcnID nodeName : String)

/-- The requests for the attachments are answered, with these. -/
def Lists (instanceID : Option String) (attachments : List VnicAttachment) : Prop :=
  ∃ n', Pages.Listed (client.listVnicAttachments compartmentID instanceID) 0 none attachments n'

/-- The interface is attached. -/
def IsAttached (attachment : VnicAttachment) (vnic : HostVnic) : Prop :=
  attachment.lifecycleState = .attached ∧
    ∃ vnicId, attachment.vnicId = some vnicId ∧ client.getVNIC vnicId = .ok vnic

/-- The interface is attached and in the network of the cluster. -/
def InVcn (attachment : VnicAttachment) (vnic : HostVnic) : Prop :=
  IsAttached client attachment vnic ∧ client.getSubnet vnic.subnetId = .ok vcnID

/-- The instance has an interface in the network of the cluster with exactly the node name. -/
def HasNamedVnic (inst : NamedInstance) : Prop :=
  ∃ attachments, Lists client compartmentID none attachments ∧
    ∃ attachment ∈ attachments, attachment.instanceId = inst.id ∧
      ∃ vnic, InVcn client vcnID attachment vnic ∧ vnic.IsNamed nodeName

/-- The instance is in use and is that of the node name. -/
def IsInstanceOf (inst : NamedInstance) : Prop :=
  isInstanceInTerminalState inst.toInstance = false ∧
    (inst.displayName = nodeName ∨ HasNamedVnic client compartmentID vcnID nodeName inst)

/-- No lookup of the node name comes to the instance of another node. -/
def NeverAnotherNode : Prop :=
  ∀ fuel fuel' inst,
    client.getInstanceByNodeName fuel fuel' compartmentID vcnID nodeName = some (.ok inst) →
      IsInstanceOf client compartmentID vcnID nodeName inst

/-- The instance of the attachment is in use. -/
def IsInUse (attachment : VnicAttachment) (inst : NamedInstance) : Prop :=
  client.getInstance attachment.instanceId = .ok inst ∧
    isInstanceInTerminalState inst.toInstance = false

/-- An interface that answers to the node name is attached to the instance, which is in use. -/
def IsCandidate (attachment : VnicAttachment) (inst : NamedInstance) : Prop :=
  (∃ vnic, InVcn client vcnID attachment vnic ∧ vnic.answersTo nodeName) ∧
    IsInUse client attachment inst

/-- The listing by display name fails, or has not exactly one instance in use. -/
def DisplayNameFails : Prop :=
  let listing := client.listInstances compartmentID nodeName
  (∃ err, Pages.Fails listing 0 none err) ∨
    ∃ instances n', Pages.Listed listing 0 none instances n' ∧
      (instances.filter fun inst => !isInstanceInTerminalState inst.toInstance).length ≠ 1

/-- The calls that concern the attachment are answered. -/
def IsAnswered (attachment : VnicAttachment) : Prop :=
  attachment.lifecycleState = .attached → ∀ vnicId, attachment.vnicId = some vnicId →
    ∃ vnic vcn, client.getVNIC vnicId = .ok vnic ∧ client.getSubnet vnic.subnetId = .ok vcn ∧
      (vcn = vcnID → vnic.answersTo nodeName →
        ∃ inst, client.getInstance attachment.instanceId = .ok inst)

/-- All calls of the search are answered, and this is the only instance with an interface that
answers to the node name. -/
def IsOnlyCandidate (inst : NamedInstance) : Prop :=
  ∃ attachments, Lists client compartmentID none attachments ∧
    (∀ attachment ∈ attachments, IsAnswered client vcnID nodeName attachment) ∧
    (∃ attachment ∈ attachments, IsCandidate client vcnID nodeName attachment inst) ∧
    ∀ attachment ∈ attachments, ∀ inst', IsCandidate client vcnID nodeName attachment inst' →
      inst' = inst

/-- Wherever the search is needed and all its calls are answered, an instance in use that has an
interface with a label of another node, with which the node name begins, is that of the node name
all the same, or it is not the only instance in use with an interface that answers to the name. -/
def LabelsTellApart : Prop :=
  DisplayNameFails client compartmentID nodeName →
    ∀ attachments, Lists client compartmentID none attachments →
      (∀ attachment ∈ attachments, IsAnswered client vcnID nodeName attachment) →
      ∀ attachment ∈ attachments, ∀ vnic inst, InVcn client vcnID attachment vnic →
        vnic.HasStrayLabel nodeName → IsInUse client attachment inst →
          inst.displayName = nodeName ∨ HasNamedVnic client compartmentID vcnID nodeName inst ∨
            ∃ attachment' ∈ attachments, ∃ inst',
              IsCandidate client vcnID nodeName attachment' inst' ∧ inst' ≠ inst

variable {client compartmentID vcnID nodeName} {inst : NamedInstance} {attachment : VnicAttachment}

/-! ## The first listing -/

theorem theOnly_ok {tooMany : String} {instances : List NamedInstance} :
    theOnly tooMany instances = .ok inst ↔ instances = [inst] := by
  constructor
  · intro h
    unfold theOnly at h
    split at h
    · cases h
    · rw [Except.ok.inj h]
    · cases h
  · rintro rfl
    rfl

theorem displayName_of_mem_listed {displayName : String} {n n' : Nat} {page : Option String}
    {items : List NamedInstance}
    (h : Pages.Listed (client.listInstances compartmentID displayName) n page items n') :
    ∀ inst ∈ items, inst.displayName = displayName := by
  induction h with
  | last h => exact client.displayName_of_listed _ _ _ _ _ _ h
  | more h _ ih =>
    intro inst hinst
    rcases mem_append.mp hinst with hinst | hinst
    · exact client.displayName_of_listed _ _ _ _ _ _ h inst hinst
    · exact ih inst hinst

theorem getInstanceByDisplayName_ok {fuel : Nat} {displayName : String}
    (h : client.getInstanceByDisplayName fuel compartmentID displayName = some (.ok inst)) :
    isInstanceInTerminalState inst.toInstance = false ∧ inst.displayName = displayName := by
  obtain ⟨⟨r, n'⟩, hcollect, hr⟩ := Option.map_eq_some_iff.mp h
  obtain ⟨instances, rfl, honly⟩ := bind_ok hr
  obtain ⟨items, hlisted, rfl⟩ := Pages.listed_of_collect hcollect
  have hmem : inst ∈ items.filter fun inst => !isInstanceInTerminalState inst.toInstance := by
    rw [← nil_append (items.filter _), theOnly_ok.mp honly]
    exact mem_singleton_self inst
  obtain ⟨hitem, hstate⟩ := mem_filter.mp hmem
  exact ⟨by simpa using hstate, displayName_of_mem_listed hlisted inst hitem⟩

/-- The first listing ends with an error exactly if it fails or there is not exactly one. -/
theorem displayNameFails_iff : DisplayNameFails client compartmentID nodeName ↔
    ∃ fuel err, client.getInstanceByDisplayName fuel compartmentID nodeName =
      some (.error err) := by
  unfold DisplayNameFails ComputeClient.getInstanceByDisplayName
  dsimp only
  constructor
  · rintro (⟨err, hfails⟩ | ⟨instances, n', hlisted, hlength⟩)
    · obtain ⟨fuel, n', hcollect⟩ := Pages.collect_of_fails hfails
      exact ⟨fuel, err, by rw [hcollect]; rfl⟩
    · obtain ⟨fuel, hcollect⟩ := Pages.collect_of_listed hlisted
      refine ⟨fuel, ?_⟩
      rw [hcollect, Option.map_some, ok_bind, nil_append]
      unfold theOnly
      split
      · exact ⟨_, rfl⟩
      · next heq => simp [heq] at hlength
      · exact ⟨_, rfl⟩
  · rintro ⟨fuel, err, h⟩
    obtain ⟨⟨r, n'⟩, hcollect, hr⟩ := Option.map_eq_some_iff.mp h
    cases r with
    | error err => exact .inl ⟨err, Pages.fails_of_collect hcollect⟩
    | ok found =>
      obtain ⟨instances, hlisted, rfl⟩ := Pages.listed_of_collect hcollect
      refine .inr ⟨instances, n', hlisted, fun hlength => ?_⟩
      obtain ⟨inst, hinst⟩ := length_eq_one_iff.mp hlength
      rw [nil_append, hinst] at hr
      cases hr

/-! ## The search through the network interfaces -/

theorem attachedVnic_some_iff {vnic : HostVnic} :
    client.attachedVnic attachment = .ok (some vnic) ↔ IsAttached client attachment vnic := by
  unfold ComputeClient.attachedVnic IsAttached
  constructor
  · intro h
    split at h
    · cases h
    · next hstate =>
      split at h
      · cases h
      · next vnicId hvnicId =>
        obtain ⟨vnic', hget, heq⟩ := map_ok h
        cases heq
        exact ⟨not_not.mp hstate, vnicId, hvnicId, hget⟩
  · rintro ⟨hstate, vnicId, hvnicId, hget⟩
    rw [if_neg (not_not_intro hstate), hvnicId]
    dsimp only
    rw [hget]
    rfl

theorem attachedInstance_of_inVcn {vnic : HostVnic} (h : InVcn client vcnID attachment vnic) :
    client.attachedInstance vcnID nodeName attachment =
      if vnic.answersTo nodeName then do
        let inst ← client.getInstance attachment.instanceId
        if isInstanceInTerminalState inst.toInstance then .ok none
        else .ok (some (inst.id, inst))
      else .ok none := by
  obtain ⟨hattached, hsubnet⟩ := h
  unfold ComputeClient.attachedInstance
  rw [attachedVnic_some_iff.mpr hattached, ok_bind]
  dsimp only
  rw [hsubnet, ok_bind, if_neg (not_not_intro rfl)]

theorem inVcn_of_attachedInstance {e : String × NamedInstance}
    (h : client.attachedInstance vcnID nodeName attachment = .ok (some e)) :
    ∃ vnic, InVcn client vcnID attachment vnic := by
  obtain ⟨vnic, hattached, h⟩ := bind_ok h
  cases vnic with
  | none => cases h
  | some vnic =>
    obtain ⟨subnetVcnID, hsubnet, h⟩ := bind_ok h
    split at h
    · cases h
    · next hvcn =>
      obtain rfl := not_not.mp hvcn
      exact ⟨vnic, attachedVnic_some_iff.mp hattached, hsubnet⟩

theorem attachedInstance_some_iff {id : String} :
    client.attachedInstance vcnID nodeName attachment = .ok (some (id, inst)) ↔
      id = inst.id ∧ IsCandidate client vcnID nodeName attachment inst := by
  constructor
  · intro h
    obtain ⟨vnic, hvnic⟩ := inVcn_of_attachedInstance h
    rw [attachedInstance_of_inVcn hvnic] at h
    split at h
    · next hanswers =>
      obtain ⟨inst', hinst', h⟩ := bind_ok h
      split at h
      · cases h
      · next hstate =>
        obtain ⟨rfl, rfl⟩ := Prod.mk.inj (Option.some.inj (Except.ok.inj h))
        exact ⟨rfl, ⟨vnic, hvnic, hanswers⟩, hinst', by simpa using hstate⟩
    · cases h
  · rintro ⟨rfl, ⟨vnic, hvnic, hanswers⟩, hinst, hstate⟩
    rw [attachedInstance_of_inVcn hvnic, if_pos hanswers, hinst, ok_bind, hstate]
    rfl

/-- An iteration succeeds exactly if its calls are answered. -/
theorem attachedInstance_ok_iff :
    (∃ r, client.attachedInstance vcnID nodeName attachment = .ok r) ↔
      IsAnswered client vcnID nodeName attachment := by
  constructor
  · rintro ⟨r, h⟩ hstate vnicId hvnicId
    obtain ⟨found, hfound, h⟩ := bind_ok h
    rw [ComputeClient.attachedVnic, if_neg (not_not_intro hstate), hvnicId] at hfound
    obtain ⟨vnic, hvnic, rfl⟩ := map_ok hfound
    obtain ⟨vcn, hsubnet, h⟩ := bind_ok h
    refine ⟨vnic, vcn, hvnic, hsubnet, ?_⟩
    rintro rfl hanswers
    rw [if_neg (not_not_intro rfl), if_pos hanswers] at h
    obtain ⟨inst, hinst, -⟩ := bind_ok h
    exact ⟨inst, hinst⟩
  · intro h
    by_cases hattached : ∃ vnicId, attachment.lifecycleState = .attached ∧
        attachment.vnicId = some vnicId
    · obtain ⟨vnicId, hstate, hvnicId⟩ := hattached
      obtain ⟨vnic, vcn, hvnic, hsubnet, hinst⟩ := h hstate vnicId hvnicId
      have hvnic' : IsAttached client attachment vnic := ⟨hstate, vnicId, hvnicId, hvnic⟩
      by_cases hvcn : vcn = vcnID
      · obtain rfl := hvcn
        rw [attachedInstance_of_inVcn ⟨hvnic', hsubnet⟩]
        split
        · next hanswers =>
          obtain ⟨inst, hinst⟩ := hinst rfl hanswers
          rw [hinst, ok_bind]
          split
          · exact ⟨_, rfl⟩
          · exact ⟨_, rfl⟩
        · exact ⟨_, rfl⟩
      · refine ⟨none, ?_⟩
        rw [ComputeClient.attachedInstance, attachedVnic_some_iff.mpr hvnic', ok_bind]
        dsimp only
        rw [hsubnet, ok_bind, if_pos hvcn]
    · refine ⟨none, ?_⟩
      have hnone : client.attachedVnic attachment = .ok none := by
        unfold ComputeClient.attachedVnic
        split
        · rfl
        · next hstate =>
          cases hvnicId : attachment.vnicId with
          | none => rfl
          | some vnicId => exact absurd ⟨vnicId, not_not.mp hstate, hvnicId⟩ hattached
      rw [ComputeClient.attachedInstance, hnone, ok_bind]

theorem IsCandidate.eq_of_id {attachment attachment' : VnicAttachment} {inst inst' : NamedInstance}
    (h : IsCandidate client vcnID nodeName attachment inst)
    (h' : IsCandidate client vcnID nodeName attachment' inst') (hid : inst.id = inst'.id) :
    inst = inst' := by
  have heq : attachment.instanceId = attachment'.instanceId := by
    rw [← client.id_of_getInstance _ _ h.2.1, hid, client.id_of_getInstance _ _ h'.2.1]
  have hget := h.2.1
  rw [heq, h'.2.1] at hget
  exact (Except.ok.inj hget).symm

theorem lookup_fill_attachedInstance {attachments : List VnicAttachment}
    {instances : GoMap NamedInstance}
    (h : fill (client.attachedInstance vcnID nodeName) attachments = .ok instances) (id : String)
    (inst : NamedInstance) :
    instances.lookup id = some inst ↔ id = inst.id ∧
      ∃ attachment ∈ attachments, IsCandidate client vcnID nodeName attachment inst := by
  rw [lookup_fill h]
  · constructor
    · rintro ⟨attachment, hmem, hf⟩
      obtain ⟨hid, hcandidate⟩ := attachedInstance_some_iff.mp hf
      exact ⟨hid, attachment, hmem, hcandidate⟩
    · rintro ⟨hid, attachment, hmem, hcandidate⟩
      exact ⟨attachment, hmem, attachedInstance_some_iff.mpr ⟨hid, hcandidate⟩⟩
  · intro x _ y _ id inst inst' hx hy
    obtain ⟨hid, hinst⟩ := attachedInstance_some_iff.mp hx
    obtain ⟨hid', hinst'⟩ := attachedInstance_some_iff.mp hy
    exact hinst.eq_of_id hinst' (hid.symm.trans hid')

/-- The search comes to an instance if and only if it is the only candidate. -/
theorem searchAttachments_ok_iff :
    (∃ fuel requests, (client.searchAttachments vcnID nodeName).run
      (client.listVnicAttachments compartmentID none) fuel 0 none ∅ = some (.ok inst, requests)) ↔
      IsOnlyCandidate client compartmentID vcnID nodeName inst := by
  constructor
  · rintro ⟨fuel, requests, hrun⟩
    obtain ⟨attachments, n', instances, hlisted, hfill, hfinish⟩ :=
      Pages.Loop.listed_of_run_stepping hrun
    obtain ⟨⟨id, inst'⟩, hpairs, rfl⟩ := map_eq_singleton_iff.mp (theOnly_ok.mp hfinish)
    have hlookup := GoMap.toPairs_eq_singleton_iff.mp hpairs
    have hcandidates := lookup_fill_attachedInstance hfill
    refine ⟨attachments, ⟨n', hlisted⟩,
      fun attachment h => attachedInstance_ok_iff.mp (fill_ok_iterations hfill attachment h),
      ((hcandidates id inst').mp ((hlookup id inst').mpr ⟨rfl, rfl⟩)).2, ?_⟩
    intro attachment hmem inst'' hcandidate
    exact ((hlookup _ _).mp ((hcandidates inst''.id inst'').mpr
      ⟨rfl, attachment, hmem, hcandidate⟩)).2
  · rintro ⟨attachments, ⟨n', hlisted⟩, hanswered, ⟨attachment, hmem, hcandidate⟩, honly⟩
    obtain ⟨instances, hfill⟩ := fill_of_iterations fun attachment h =>
      attachedInstance_ok_iff.mpr (hanswered attachment h)
    have hcandidates := lookup_fill_attachedInstance hfill
    have hpairs : instances.toPairs = [(inst.id, inst)] := by
      rw [GoMap.toPairs_eq_singleton_iff]
      intro id inst'
      rw [hcandidates]
      constructor
      · rintro ⟨rfl, attachment', hmem', hcandidate'⟩
        rw [honly attachment' hmem' inst' hcandidate']
        exact ⟨rfl, rfl⟩
      · rintro ⟨rfl, rfl⟩
        exact ⟨rfl, attachment, hmem, hcandidate⟩
    obtain ⟨fuel, requests, hrun⟩ :=
      Pages.Loop.run_of_listed (l := client.searchAttachments vcnID nodeName) rfl hlisted
        (Pages.Loop.visitAll_stepping_inl hfill)
    refine ⟨fuel, requests, hrun.trans ?_⟩
    have hfinish : (client.searchAttachments vcnID nodeName).finish instances = .ok inst := by
      refine theOnly_ok.mpr ?_
      rw [hpairs]
      rfl
    rw [hfinish]

/-! ## Lookups -/

/-- Where the instance of a lookup comes from. -/
theorem getInstanceByNodeName_ok_iff :
    (∃ fuel fuel', client.getInstanceByNodeName fuel fuel' compartmentID vcnID nodeName =
      some (.ok inst)) ↔
      (∃ fuel, client.getInstanceByDisplayName fuel compartmentID nodeName = some (.ok inst)) ∨
      DisplayNameFails client compartmentID nodeName ∧
        IsOnlyCandidate client compartmentID vcnID nodeName inst := by
  constructor
  · rintro ⟨fuel, fuel', h⟩
    unfold ComputeClient.getInstanceByNodeName at h
    split at h
    · cases h
    · next inst' hname =>
      obtain rfl := Except.ok.inj (Option.some.inj h)
      exact .inl ⟨fuel, hname⟩
    · next err hname =>
      obtain ⟨⟨r, requests⟩, hrun, rfl⟩ := Option.map_eq_some_iff.mp h
      exact .inr ⟨displayNameFails_iff.mpr ⟨fuel, err, hname⟩,
        searchAttachments_ok_iff.mp ⟨fuel', requests, hrun⟩⟩
  · rintro (⟨fuel, hname⟩ | ⟨hfails, honly⟩)
    · refine ⟨fuel, 0, ?_⟩
      rw [ComputeClient.getInstanceByNodeName, hname]
    · obtain ⟨fuel, err, hname⟩ := displayNameFails_iff.mp hfails
      obtain ⟨fuel', requests, hrun⟩ := searchAttachments_ok_iff.mpr honly
      refine ⟨fuel, fuel', ?_⟩
      rw [ComputeClient.getInstanceByNodeName, hname]
      dsimp only
      rw [hrun, Option.map_some]

theorem IsOnlyCandidate.inUse (h : IsOnlyCandidate client compartmentID vcnID nodeName inst) :
    isInstanceInTerminalState inst.toInstance = false := by
  obtain ⟨_, _, _, ⟨_, _, _, _, hstate⟩, _⟩ := h
  exact hstate

/-- A lookup does not come to another node's instance if and only if no label leads it there. -/
theorem neverAnotherNode_iff :
    NeverAnotherNode client compartmentID vcnID nodeName ↔
      LabelsTellApart client compartmentID vcnID nodeName := by
  constructor
  · intro h hfails attachments hlists hanswered attachment hmem vnic inst hvnic hstray hinst
    by_contra hnone
    simp only [not_or, not_exists, not_and] at hnone
    obtain ⟨hdisplay, hnamed, hother⟩ := hnone
    have honly : IsOnlyCandidate client compartmentID vcnID nodeName inst :=
      ⟨attachments, hlists, hanswered, ⟨attachment, hmem, ⟨vnic, hvnic, hstray.answersTo⟩, hinst⟩,
        fun attachment' hmem' inst' hcandidate =>
          not_not.mp (hother attachment' hmem' inst' hcandidate)⟩
    obtain ⟨fuel, fuel', hlookup⟩ := getInstanceByNodeName_ok_iff.mpr (.inr ⟨hfails, honly⟩)
    exact (h fuel fuel' inst hlookup).2.elim hdisplay hnamed
  · intro h fuel fuel' inst hlookup
    rcases getInstanceByNodeName_ok_iff.mp ⟨fuel, fuel', hlookup⟩ with
      ⟨_, hname⟩ | ⟨hfails, honly⟩
    · obtain ⟨hstate, hdisplay⟩ := getInstanceByDisplayName_ok hname
      exact ⟨hstate, .inl hdisplay⟩
    · refine ⟨honly.inUse, ?_⟩
      obtain ⟨attachments, hlists, hanswered, ⟨attachment, hmem, ⟨vnic, hvnic, hanswers⟩, hinst⟩,
        honly⟩ := honly
      by_cases hnamed : vnic.IsNamed nodeName
      · exact .inr ⟨attachments, hlists, attachment, hmem,
          (client.id_of_getInstance _ _ hinst.1).symm, vnic, hvnic, hnamed⟩
      · -- the interface answers by its label alone
        rcases h hfails attachments hlists hanswered attachment hmem vnic inst hvnic
          (HostVnic.hasStrayLabel_of_answersTo hanswers hnamed) hinst with
          hdisplay | hhas | ⟨attachment', hmem', inst', hcandidate, hne⟩
        · exact .inl hdisplay
        · exact .inr hhas
        · exact absurd (honly attachment' hmem' inst' hcandidate) hne

end Lookup

/-- Another node, whose label the name of the tenth one begins with. -/
def firstNode : NamedInstance where
  id := "ocid1.instance.1"
  compartmentId := "compartment"
  lifecycleState := .running
  displayName := "first"

def firstVnic : HostVnic where
  privateIp := some "10.0.0.1"
  subnetId := "subnet"
  hostnameLabel := some "node1"

/-- A compartment with that node alone. -/
def firstNodeOnly : ComputeClient where
  listInstances _ displayName _ _ :=
    .ok (if displayName = "first" then [firstNode] else [], none)
  listVnicAttachments _ _ _ _ := .ok ([⟨.attached, some "vnic", firstNode.id⟩], none)
  getVNIC _ := .ok firstVnic
  getSubnet _ := .ok "vcn"
  getInstance id := if id = firstNode.id then .ok firstNode else .error .errNotFound
  displayName_of_listed := by
    intro _ displayName _ _ items next h inst hinst
    obtain ⟨rfl, -⟩ := Prod.mk.inj (Except.ok.inj h)
    split at hinst
    · next hname =>
      rw [mem_singleton.mp hinst, hname]
      rfl
    · cases hinst
  id_of_getInstance := by
    intro id inst h
    split at h
    · next hid => rw [← Except.ok.inj h, hid]
    · cases h

theorem not_neverAnotherNode_firstNodeOnly :
    ¬NeverAnotherNode firstNodeOnly "compartment" "vcn" "node10" := by
  intro h
  obtain ⟨-, hname | ⟨_, -, _, -, -, vnic, hvnic, hnamed⟩⟩ :=
    h 1 1 firstNode (by decide)
  · exact absurd hname (by decide)
  · obtain ⟨⟨-, vnicId, -, hget⟩, -⟩ := hvnic
    cases hget
    exact absurd hnamed (by decide)

end OciCcm.Instances
