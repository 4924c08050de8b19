import OciCcm.Instances.Addresses
import OciCcm.LoadBalancer.Spec

/-! # The subnets of the nodes

`getSubnetsForNodes` looks for the subnets of the nodes in the cache, by the
addresses of a node. For the other nodes it asks for the network interface of
the instance, and takes the subnet of the interface if the pair of its addresses
is the pair of addresses of some node.
-/

namespace OciCcm.LoadBalancer.Subnets

open Client Go Kubernetes List
open Instances (Vnic compartmentIDKey wrapError)

/-! ## The cache of subnets -/

/-- The calls to the cloud and to the standard library, and the orders in which the cache is
listed. A network is given by the addresses that it contains. -/
structure Calls where
  parseCIDR : String → Except String (String → Bool)
  getPrimaryVNICForInstance : String → String → Except ClientError (Option Vnic)
  fetchSubnet : String → Except ClientError Subnet
  listOrder : RangeOrder.{0} := .stored

/-- The blocks of a subnet, each with the address that it is checked for. A subnet without an
IPv4 block has a block with `null` in it. -/
def blocksWithIP (ip : IpAddresses) (subnet : Subnet) : List (String × String) :=
  (subnet.cidrBlock.toList.filter (!Go.contains · "null")).map (·, ip.v4) ++
    subnet.ipv6CidrBlock.toList.map (·, ip.v6) ++
    ((subnet.ipv6CidrBlocks.getD []).filter (· ≠ "")).map (·, ip.v6)

/-- Does a block of the subnet contain the address of its family? This is the body of the loop in
`GetSubnetFromCacheByIP`. -/
def subnetHasIP (calls : Calls) (ip : IpAddresses) (subnet : Subnet) : Except ClientError Bool :=
  Search.search (fun (block, address) =>
    match calls.parseCIDR block with
    | .error err => .error (.other ("unable to parse CIDR block " ++ block.quote ++
        " for subnet " ++ subnet.id.quote ++ ": " ++ err))
    | .ok cidr => .ok (if cidr address then some true else none))
    (.ok false) (blocksWithIP ip subnet)

/-- The lookup in the cache, which is listed for the time with the given number. -/
def getSubnetFromCacheByIP (calls : Calls) (n : Nat) (subnetCache : GoMap Subnet)
    (ip : IpAddresses) : Except ClientError (Option Subnet) :=
  Search.search (fun (_, subnet) =>
    (subnetHasIP calls ip subnet).map fun hit => if hit then some (some subnet) else none)
    (.ok none) (calls.listOrder.range n subnetCache)

/-- The subnet with an identifier, and the cache after that. -/
def getSubnet (calls : Calls) (subnetCache : GoMap Subnet) (id : String) :
    Except ClientError (Subnet × GoMap Subnet) :=
  match subnetCache.lookup id with
  | some subnet => .ok (subnet, subnetCache)
  | none =>
    match calls.fetchSubnet id with
    | .error err => .error err
    | .ok subnet => .ok (subnet, subnetCache.insert subnet.id subnet)

/-! ## The loop over the nodes -/

structure Found where
  subnetCache : GoMap Subnet
  subnetOCIDs : List String := []
  subnets : List Subnet := []

/-- A subnet from the cache. -/
def Found.hit (found : Found) (subnet : Subnet) : Found :=
  if subnet.id ∈ found.subnetOCIDs then found
  else
    { found with
      subnetOCIDs := subnet.id :: found.subnetOCIDs
      subnets := found.subnets ++ [subnet] }

/-- The private address and the first IPv6 address of a network interface. -/
def vnicAddresses (vnic : Vnic) : IpAddresses where
  v4 := vnic.privateIp.getD ""
  v6 := vnic.ipv6Addresses.headD ""

/-- A network interface with the addresses of a node. -/
def Found.ofVnic (calls : Calls) (ipSet : List IpAddresses) (found : Found) (instanceID : String)
    (vnic : Vnic) : Except ClientError Found :=
  let ipAddresses := vnicAddresses vnic
  if ipAddresses ≠ ⟨"", ""⟩ ∧ ipAddresses ∈ ipSet ∧ vnic.subnetId ∉ found.subnetOCIDs then
    match getSubnet calls found.subnetCache vnic.subnetId with
    | .error err => .error (wrapError ("get subnet " ++ vnic.subnetId.quote ++ " for instance " ++
        instanceID.quote) err)
    | .ok (subnet, subnetCache) => .ok {
        subnetCache
        subnetOCIDs := vnic.subnetId :: found.subnetOCIDs
        subnets := found.subnets ++ [subnet] }
  else .ok found

variable {RuleSet : Type} (lib : Library RuleSet)

/-- One iteration of the loop over the nodes. -/
def visit (calls : Calls) (ipSet : List IpAddresses) (n : Nat) (found : Found) (node : Node) :
    Except ClientError Found :=
  match getSubnetFromCacheByIP calls n found.subnetCache (nodeAddresses lib node) with
  | .error err => .error err
  | .ok (some subnet) => .ok (found.hit subnet)
  | .ok none =>
    if node.providerID = "" then
      .error (.other (".spec.providerID was not present on node " ++ node.name.quote))
    else match mapProviderIDToResourceID node.providerID with
      | .error err => .error (.other (wrap "MapProviderIDToResourceID" err))
      | .ok id =>
        match node.annotations.lookup compartmentIDKey with
        | none => .error (.other (compartmentIDKey.quote ++ " annotation not present on node " ++
            node.name.quote))
        | some compartmentID =>
          match calls.getPrimaryVNICForInstance compartmentID id with
          | .error err => .error err
          | .ok none => .ok found
          | .ok (some vnic) => found.ofVnic calls ipSet id vnic

/-- The loop, with the subnets or the error and the cache after it. -/
def visitAll (calls : Calls) (ipSet : List IpAddresses) :
    Nat → Found → List Node → Except ClientError (List Subnet) × GoMap Subnet
  | _, found, [] => (.ok found.subnets, found.subnetCache)
  | n, found, node :: nodes =>
    match visit lib calls ipSet n found node with
    | .error err => (.error err, found.subnetCache)
    | .ok found => visitAll calls ipSet (n + 1) found nodes

def getSubnetsForNodes (calls : Calls) (nodes : List Node) (subnetCache : GoMap Subnet) :
    Except ClientError (List Subnet) × GoMap Subnet :=
  visitAll lib calls (nodes.map (nodeAddresses lib)) 0 { subnetCache } nodes

/-! ## The network -/

/-- The subnets of the network, and the primary network interface of each instance. -/
structure Vcn where
  subnets : List Subnet
  primaryVnic : String → Option Vnic

/-- The primary network interface of a node. -/
def Vcn.vnicOf (vcn : Vcn) (node : Node) : Option Vnic :=
  (mapProviderIDToResourceID node.providerID).toOption.bind vcn.primaryVnic

/-- The cloud answers with what is there, if it answers. -/
structure Answers (calls : Calls) (vcn : Vcn) : Prop where
  vnic : ∀ {compartmentID instanceID : String} {vnic : Option Vnic},
    calls.getPrimaryVNICForInstance compartmentID instanceID = .ok vnic →
      vnic = vcn.primaryVnic instanceID
  subnet : ∀ {id : String} {subnet : Subnet}, calls.fetchSubnet id = .ok subnet →
    subnet.id = id ∧ subnet ∈ vcn.subnets

/-- The cache holds subnets of the network. -/
def CacheOf (vcn : Vcn) (subnetCache : GoMap Subnet) : Prop :=
  ∀ id subnet, subnetCache.lookup id = some subnet → subnet.id = id ∧ subnet ∈ vcn.subnets

/-- The blocks of two subnets do not overlap, and the addresses of a node are those of one network
interface: they are in one subnet, and if the interface is known, in its subnet. -/
structure Placed (calls : Calls) (vcn : Vcn) (node : Node) : Prop where
  one_subnet : ∀ subnet ∈ vcn.subnets, ∀ subnet' ∈ vcn.subnets,
    subnetHasIP calls (nodeAddresses lib node) subnet = .ok true →
    subnetHasIP calls (nodeAddresses lib node) subnet' = .ok true → subnet.id = subnet'.id
  vnic_subnet : ∀ vnic, vcn.vnicOf node = some vnic → ∀ subnet ∈ vcn.subnets,
    subnetHasIP calls (nodeAddresses lib node) subnet = .ok true → subnet.id = vnic.subnetId

/-- The subnet of the primary network interface of a node with an internal address and a provider
id. -/
def IsNodeSubnet (vcn : Vcn) (nodes : List Node) (id : String) : Prop :=
  ∃ node ∈ nodes, nodeInternalIP lib.isIPv6String node ≠ ⟨"", ""⟩ ∧ node.providerID ≠ "" ∧
    ∃ vnic, vcn.vnicOf node = some vnic ∧ vnic.subnetId = id

/-- A cached subnet with an address of the node. -/
def IsCachedFor (calls : Calls) (subnetCache : GoMap Subnet) (node : Node) (id : String) : Prop :=
  ∃ subnet, subnetCache.lookup id = some subnet ∧
    subnetHasIP calls (nodeAddresses lib node) subnet = .ok true

/-- The subnet of the node's network interface, if its two addresses are the two addresses of some
node. -/
def IsListedFor (vcn : Vcn) (ipSet : List IpAddresses) (node : Node) (id : String) : Prop :=
  ∃ vnic, vcn.vnicOf node = some vnic ∧ vnicAddresses vnic ≠ ⟨"", ""⟩ ∧
    vnicAddresses vnic ∈ ipSet ∧ vnic.subnetId = id

/-- The subnets that the loop can see at the node. -/
def IsSeenAt (calls : Calls) (vcn : Vcn) (nodes : List Node) (subnetCache : GoMap Subnet)
    (node : Node) (id : String) : Prop :=
  IsCachedFor lib calls subnetCache node id ∨
    IsListedFor vcn (nodes.map (nodeAddresses lib)) node id

/-- The subnets that the loop can see. -/
def IsSeen (calls : Calls) (vcn : Vcn) (nodes : List Node) (subnetCache : GoMap Subnet)
    (id : String) : Prop :=
  ∃ node ∈ nodes, IsSeenAt lib calls vcn nodes subnetCache node id

/-! ## Addresses in blocks -/

variable {lib} {calls : Calls} {vcn : Vcn} {nodes : List Node} {subnetCache : GoMap Subnet}
  {subnet : Subnet} {cache : GoMap Subnet} {subnets : List Subnet} {n : Nat} {vnic : Vnic}

/-- A block of the subnet contains the address. -/
def InBlocks (calls : Calls) (subnet : Subnet) (address : String) : Prop :=
  ∃ block cidr, (block, address) ∈ blocksWithIP ⟨address, address⟩ subnet ∧
    calls.parseCIDR block = .ok cidr ∧ cidr address = true

theorem inBlocks_of_subnetHasIP {ip : IpAddresses} (h : subnetHasIP calls ip subnet = .ok true) :
    ∃ address ∈ [ip.v4, ip.v6], InBlocks calls subnet address := by
  rcases Search.of_search_ok h with ⟨hfalse, -⟩ | ⟨⟨block, address⟩, hmem, hbody⟩
  · cases hfalse
  cases hparse : calls.parseCIDR block with
  | error err => simp [hparse] at hbody
  | ok cidr =>
    refine ⟨address, ?_, block, cidr, ?_, hparse, by simpa [hparse] using hbody⟩ <;>
      grind [blocksWithIP]

/-- Blocks that do not overlap, and a node with its addresses in one subnet, that of its network
interface. -/
theorem placed_of_disjoint {node : Node} {home : Subnet} (hhome : home ∈ vcn.subnets)
    (hdisjoint : ∀ subnet ∈ vcn.subnets, ∀ subnet' ∈ vcn.subnets, ∀ address,
      InBlocks calls subnet address → InBlocks calls subnet' address → subnet.id = subnet'.id)
    (hempty : ∀ block cidr, calls.parseCIDR block = .ok cidr → cidr "" = false)
    (hin : ∀ address ∈ [(nodeAddresses lib node).v4, (nodeAddresses lib node).v6], address ≠ "" →
      InBlocks calls home address)
    (hvnic : ∀ vnic, vcn.vnicOf node = some vnic → home.id = vnic.subnetId) :
    Placed lib calls vcn node := by
  have hid : ∀ subnet ∈ vcn.subnets,
      subnetHasIP calls (nodeAddresses lib node) subnet = .ok true → subnet.id = home.id := by
    intro subnet hsubnet hhas
    obtain ⟨address, hmem, hblocks⟩ := inBlocks_of_subnetHasIP hhas
    refine hdisjoint subnet hsubnet home hhome address hblocks (hin address hmem ?_)
    rintro rfl
    obtain ⟨block, cidr, -, hparse, hcontains⟩ := hblocks
    simp [hempty block cidr hparse] at hcontains
  constructor
  · intro subnet hsubnet subnet' hsubnet' hhas hhas'
    rw [hid subnet hsubnet hhas, hid subnet' hsubnet' hhas']
  · intro vnic hsome subnet hsubnet hhas
    rw [hid subnet hsubnet hhas, hvnic vnic hsome]

/-! ## One iteration -/

/-- A lookup in the cache that does not fail finds nothing, and then no cached subnet has an
address, or finds a cached subnet that has one. -/
theorem getSubnetFromCacheByIP_ok {ip : IpAddresses} {hit : Option Subnet}
    (h : getSubnetFromCacheByIP calls n subnetCache ip = .ok hit) :
    (hit = none ∧ ∀ id subnet, subnetCache.lookup id = some subnet →
      subnetHasIP calls ip subnet ≠ .ok true) ∨
    ∃ id subnet, hit = some subnet ∧ subnetCache.lookup id = some subnet ∧
      subnetHasIP calls ip subnet = .ok true := by
  rcases Search.of_search_ok h with ⟨rfl, hnone⟩ | ⟨⟨id, subnet⟩, hmem, hbody⟩
  · refine .inl ⟨rfl, fun id subnet hlookup hhit => ?_⟩
    have := hnone (id, subnet) (RangeOrder.mem_range.mpr hlookup)
    simp [hhit, Except.map] at this
  · refine .inr ⟨id, subnet, ?_, RangeOrder.mem_range.mp hmem, ?_⟩
    all_goals
      cases hhas : subnetHasIP calls ip subnet with
      | error err => simp [hhas, Except.map] at hbody
      | ok has => cases has <;> simp_all [Except.map]

theorem getSubnet_ok (hanswers : Answers calls vcn) (hcache : CacheOf vcn subnetCache) {id : String}
    {subnetCache' : GoMap Subnet}
    (h : getSubnet calls subnetCache id = .ok (subnet, subnetCache')) :
    subnet.id = id ∧ CacheOf vcn subnetCache' ∧
      (∀ k s, subnetCache.lookup k = some s → subnetCache'.lookup k = some s) ∧
      ∀ k s, subnetCache'.lookup k = some s → subnetCache.lookup k = some s ∨ k = id := by
  unfold getSubnet at h
  cases hlookup : subnetCache.lookup id with
  | some cached =>
    rw [hlookup] at h
    obtain ⟨rfl, rfl⟩ := Prod.mk.inj (Except.ok.inj h)
    exact ⟨(hcache id cached hlookup).1, hcache, fun _ _ hk => hk, fun _ _ hk => .inl hk⟩
  | none =>
    rw [hlookup] at h
    dsimp only at h
    cases hfetch : calls.fetchSubnet id with
    | error err =>
      rw [hfetch] at h
      cases h
    | ok fetched =>
      rw [hfetch] at h
      obtain ⟨rfl, rfl⟩ := Prod.mk.inj (Except.ok.inj h)
      obtain ⟨rfl, hmem⟩ := hanswers.subnet hfetch
      have hinsert := GoMap.lookup_insert_eq_ite subnetCache fetched.id (v := fetched)
      refine ⟨rfl, fun k s hk => ?_, fun k s hk => ?_, fun k s hk => ?_⟩
      · rw [hinsert] at hk
        split at hk
        · next heq =>
          cases hk
          exact ⟨heq.symm, hmem⟩
        · exact hcache k s hk
      · rw [hinsert, if_neg, hk]
        rintro rfl
        rw [hlookup] at hk
        cases hk
      · rw [hinsert] at hk
        split at hk
        · next heq => exact .inr heq
        · exact .inl hk

/-- What holds after some of the nodes: the subnets found so far are all that can be seen at these
nodes, and only subnets that can be seen are found or have been added to the cache. -/
structure Invariant (lib : Library RuleSet) (calls : Calls) (vcn : Vcn) (nodes : List Node)
    (subnetCache : GoMap Subnet) (visited : List Node) (found : Found) : Prop where
  ids : ∀ id, id ∈ found.subnets.map Subnet.id ↔ id ∈ found.subnetOCIDs
  cacheOf : CacheOf vcn found.subnetCache
  kept : ∀ id subnet, subnetCache.lookup id = some subnet →
    found.subnetCache.lookup id = some subnet
  added : ∀ id subnet, found.subnetCache.lookup id = some subnet →
    subnetCache.lookup id = some subnet ∨ id ∈ found.subnetOCIDs
  seen : ∀ id ∈ found.subnetOCIDs, IsSeen lib calls vcn nodes subnetCache id
  complete : ∀ node ∈ visited, ∀ id, IsSeenAt lib calls vcn nodes subnetCache node id →
    id ∈ found.subnetOCIDs

variable {visited : List Node} {found : Found} {node : Node}

section

variable (h : Invariant lib calls vcn nodes subnetCache visited found)

include h

theorem Invariant.visited_of_forall
    (hnode : ∀ id, IsSeenAt lib calls vcn nodes subnetCache node id → id ∈ found.subnetOCIDs) :
    Invariant lib calls vcn nodes subnetCache (node :: visited) found where
  ids := h.ids
  cacheOf := h.cacheOf
  kept := h.kept
  added := h.added
  seen := h.seen
  complete := forall_mem_cons.mpr ⟨hnode, h.complete⟩

/-- An iteration that finds one subnet. -/
theorem Invariant.visited_of_new (hcacheOf : CacheOf vcn cache)
    (hkept : ∀ k s, found.subnetCache.lookup k = some s → cache.lookup k = some s)
    (hadded : ∀ k s, cache.lookup k = some s →
      found.subnetCache.lookup k = some s ∨ k = subnet.id)
    (hseen : IsSeen lib calls vcn nodes subnetCache subnet.id)
    (hnode : ∀ id, IsSeenAt lib calls vcn nodes subnetCache node id → id = subnet.id) :
    Invariant lib calls vcn nodes subnetCache (node :: visited)
      { subnetCache := cache
        subnetOCIDs := subnet.id :: found.subnetOCIDs
        subnets := found.subnets ++ [subnet] } where
  ids id := by
    rw [map_append, mem_append, h.ids, mem_cons, or_comm]
    simp
  cacheOf := hcacheOf
  kept k s hk := hkept k s (h.kept k s hk)
  added k s hk := by
    rcases hadded k s hk with hk | rfl
    · exact (h.added k s hk).imp_right (mem_cons_of_mem _)
    · exact .inr mem_cons_self
  seen := forall_mem_cons.mpr ⟨hseen, h.seen⟩
  complete := forall_mem_cons.mpr
    ⟨fun id hid => hnode id hid ▸ mem_cons_self,
      fun m hm id hid => mem_cons_of_mem _ (h.complete m hm id hid)⟩

theorem Invariant.hit (hmem : node ∈ nodes) (hplaced : Placed lib calls vcn node) {id : String}
    (hlookup : found.subnetCache.lookup id = some subnet)
    (hhas : subnetHasIP calls (nodeAddresses lib node) subnet = .ok true) :
    Invariant lib calls vcn nodes subnetCache (node :: visited) (found.hit subnet) := by
  obtain ⟨rfl, hsubnet⟩ := h.cacheOf id subnet hlookup
  have hnode : ∀ id, IsSeenAt lib calls vcn nodes subnetCache node id → id = subnet.id := by
    rintro id (⟨cached, hcached, hhas'⟩ | ⟨vnic, hvnic, -, -, rfl⟩)
    · obtain ⟨rfl, hmem'⟩ := h.cacheOf id cached (h.kept id cached hcached)
      exact hplaced.one_subnet cached hmem' subnet hsubnet hhas' hhas
    · exact (hplaced.vnic_subnet vnic hvnic subnet hsubnet hhas).symm
  unfold Found.hit
  split
  · next hfound => exact h.visited_of_forall fun id hid => hnode id hid ▸ hfound
  · next hfound =>
    have hcached := (h.added subnet.id subnet hlookup).resolve_right hfound
    exact h.visited_of_new h.cacheOf (fun _ _ hk => hk) (fun _ _ hk => .inl hk)
      ⟨node, hmem, .inl ⟨subnet, hcached, hhas⟩⟩ hnode

end

/-- An iteration that asks for the network interface, as no cached subnet has an address of the
node. -/
theorem Invariant.ofVnic (hanswers : Answers calls vcn)
    (h : Invariant lib calls vcn nodes subnetCache visited found) (hmem : node ∈ nodes)
    (hmiss : ∀ id, ¬IsCachedFor lib calls subnetCache node id) (hvnic : vcn.vnicOf node = some vnic)
    {instanceID : String} {found' : Found}
    (hfound : found.ofVnic calls (nodes.map (nodeAddresses lib)) instanceID vnic = .ok found') :
    Invariant lib calls vcn nodes subnetCache (node :: visited) found' := by
  have hnode : ∀ id, IsSeenAt lib calls vcn nodes subnetCache node id →
      vnicAddresses vnic ≠ ⟨"", ""⟩ ∧ vnicAddresses vnic ∈ nodes.map (nodeAddresses lib) ∧
        id = vnic.subnetId := by
    rintro id (hcached | ⟨vnic', hvnic', hne, hlisted, rfl⟩)
    · exact absurd hcached (hmiss id)
    · obtain rfl := Option.some.inj (hvnic.symm.trans hvnic')
      exact ⟨hne, hlisted, rfl⟩
  unfold Found.ofVnic at hfound
  dsimp only at hfound
  split at hfound
  · next hnew =>
    obtain ⟨hne, hlisted, -⟩ := hnew
    split at hfound
    · cases hfound
    · next subnet cache hsubnet =>
      cases hfound
      obtain ⟨hid, hcacheOf, hkept, hadded⟩ := getSubnet_ok hanswers h.cacheOf hsubnet
      rw [← hid] at hadded ⊢
      refine h.visited_of_new hcacheOf hkept hadded
        ⟨node, hmem, .inr ⟨vnic, hvnic, hne, hlisted, hid.symm⟩⟩ fun id hseen => ?_
      exact (hnode id hseen).2.2.trans hid.symm
  · next hold =>
    cases hfound
    refine h.visited_of_forall fun id hseen => ?_
    obtain ⟨hne, hlisted, rfl⟩ := hnode id hseen
    by_contra hnot
    exact hold ⟨hne, hlisted, hnot⟩

theorem Invariant.visit (hanswers : Answers calls vcn)
    (h : Invariant lib calls vcn nodes subnetCache visited found) (hmem : node ∈ nodes)
    (hplaced : Placed lib calls vcn node) {found' : Found}
    (hvisit : visit lib calls (nodes.map (nodeAddresses lib)) n found node = .ok found') :
    Invariant lib calls vcn nodes subnetCache (node :: visited) found' := by
  unfold Subnets.visit at hvisit
  cases hcache : getSubnetFromCacheByIP calls n found.subnetCache (nodeAddresses lib node) with
  | error err =>
    rw [hcache] at hvisit
    cases hvisit
  | ok hit =>
    rw [hcache] at hvisit
    rcases getSubnetFromCacheByIP_ok hcache with ⟨rfl, hmiss⟩ | ⟨id, subnet, rfl, hlookup, hhas⟩
    · have hmiss : ∀ id, ¬IsCachedFor lib calls subnetCache node id := by
        rintro id ⟨cached, hcached, hhas⟩
        exact hmiss id cached (h.kept id cached hcached) hhas
      dsimp only at hvisit
      split at hvisit
      · cases hvisit
      · split at hvisit
        · cases hvisit
        · next instanceID hinstance =>
          split at hvisit
          · cases hvisit
          · split at hvisit
            · cases hvisit
            · next hvnic =>
              cases hvisit
              refine h.visited_of_forall fun id hseen => ?_
              obtain ⟨vnic, hsome, -⟩ := hseen.resolve_left (hmiss id)
              rw [Vcn.vnicOf, hinstance, Except.toOption, Option.bind_some,
                ← hanswers.vnic hvnic] at hsome
              cases hsome
            · next vnic hvnic =>
              refine h.ofVnic hanswers hmem hmiss ?_ hvisit
              rw [Vcn.vnicOf, hinstance, Except.toOption, Option.bind_some, ← hanswers.vnic hvnic]
    · cases hvisit
      exact h.hit hmem hplaced hlookup hhas

/-! ## The whole loop -/

theorem Invariant.visitAll (hanswers : Answers calls vcn)
    (hplaced : ∀ node ∈ nodes, Placed lib calls vcn node) {rest : List Node}
    (hrest : ∀ node ∈ rest, node ∈ nodes)
    (h : Invariant lib calls vcn nodes subnetCache visited found)
    (hall : visitAll lib calls (nodes.map (nodeAddresses lib)) n found rest =
      (.ok subnets, cache)) :
    ∃ found', Invariant lib calls vcn nodes subnetCache (rest.reverse ++ visited) found' ∧
      found'.subnets = subnets := by
  induction rest generalizing visited found n with
  | nil =>
    obtain ⟨hsubnets, -⟩ := Prod.mk.inj hall
    exact ⟨found, h, Except.ok.inj hsubnets⟩
  | cons node rest ih =>
    unfold Subnets.visitAll at hall
    obtain ⟨hnode, hrest⟩ := forall_mem_cons.mp hrest
    cases hvisit : Subnets.visit lib calls (nodes.map (nodeAddresses lib)) n found node with
    | error err =>
      rw [hvisit] at hall
      cases (Prod.mk.inj hall).1
    | ok found₁ =>
      rw [hvisit] at hall
      obtain ⟨found', h', hsubnets⟩ :=
        ih hrest (h.visit hanswers hnode (hplaced node hnode) hvisit) hall
      refine ⟨found', ?_, hsubnets⟩
      rwa [reverse_cons, append_assoc, singleton_append]

/-- Without an error, exactly the subnets that can be seen are found. -/
theorem mem_getSubnetsForNodes (hanswers : Answers calls vcn)
    (hplaced : ∀ node ∈ nodes, Placed lib calls vcn node) (hcache : CacheOf vcn subnetCache)
    (h : getSubnetsForNodes lib calls nodes subnetCache = (.ok subnets, cache)) (id : String) :
    id ∈ subnets.map Subnet.id ↔ IsSeen lib calls vcn nodes subnetCache id := by
  have hstart : Invariant lib calls vcn nodes subnetCache [] { subnetCache } := by
    refine ⟨by simp, hcache, fun _ _ hk => hk, fun _ _ hk => .inl hk, by simp, by simp⟩
  obtain ⟨found, hfound, rfl⟩ := hstart.visitAll hanswers hplaced (fun _ hnode => hnode) h
  rw [hfound.ids]
  constructor
  · exact hfound.seen id
  · rintro ⟨node, hnode, hseen⟩
    exact hfound.complete node (by simpa using hnode) id hseen

/-- The subnet of every node with an internal address and a provider id can be seen, at some node,
and the other nodes show no further subnets. -/
structure SubnetsVisible (lib : Library RuleSet) (calls : Calls) (vcn : Vcn) (nodes : List Node)
    (subnetCache : GoMap Subnet) : Prop where
  seen : ∀ id, IsNodeSubnet lib vcn nodes id → IsSeen lib calls vcn nodes subnetCache id
  noOther : ∀ node ∈ nodes,
    nodeInternalIP lib.isIPv6String node = ⟨"", ""⟩ ∨ vcn.vnicOf node = none →
      ∀ id, IsSeenAt lib calls vcn nodes subnetCache node id → IsNodeSubnet lib vcn nodes id

theorem providerID_ne_of_vnicOf (h : vcn.vnicOf node = some vnic) :
    node.providerID ≠ "" := by
  intro hempty
  rw [Vcn.vnicOf, hempty] at h
  cases h

theorem eq_subnetId_of_isSeenAt (hplaced : Placed lib calls vcn node)
    (hcache : CacheOf vcn subnetCache) (hvnic : vcn.vnicOf node = some vnic) {id : String}
    (h : IsSeenAt lib calls vcn nodes subnetCache node id) : id = vnic.subnetId := by
  rcases h with ⟨subnet, hlookup, hhas⟩ | ⟨vnic', hvnic', -, -, rfl⟩
  · obtain ⟨rfl, hmem⟩ := hcache id subnet hlookup
    exact hplaced.vnic_subnet vnic hvnic subnet hmem hhas
  · rw [Option.some.inj (hvnic.symm.trans hvnic')]

theorem subnetsVisible_iff (hplaced : ∀ node ∈ nodes, Placed lib calls vcn node)
    (hcache : CacheOf vcn subnetCache) : SubnetsVisible lib calls vcn nodes subnetCache ↔
      ∀ id, IsSeen lib calls vcn nodes subnetCache id ↔ IsNodeSubnet lib vcn nodes id := by
  constructor
  · rintro ⟨hseen, hother⟩ id
    refine ⟨?_, hseen id⟩
    rintro ⟨node, hnode, hid⟩
    by_cases hip : nodeInternalIP lib.isIPv6String node = ⟨"", ""⟩
    · exact hother node hnode (.inl hip) id hid
    · cases hvnic : vcn.vnicOf node with
      | none => exact hother node hnode (.inr hvnic) id hid
      | some vnic =>
        exact ⟨node, hnode, hip, providerID_ne_of_vnicOf hvnic, vnic, hvnic,
          (eq_subnetId_of_isSeenAt (hplaced node hnode) hcache hvnic hid).symm⟩
  · intro h
    exact ⟨fun id => (h id).mpr, fun node hnode _ id hid => (h id).mp ⟨node, hnode, hid⟩⟩

/-- Without an error, the subnets of the nodes are found exactly if they can be seen. -/
theorem nodeSubnets_found_iff (hanswers : Answers calls vcn)
    (hplaced : ∀ node ∈ nodes, Placed lib calls vcn node) (hcache : CacheOf vcn subnetCache)
    {subnets : List Subnet} {cache : GoMap Subnet}
    (h : getSubnetsForNodes lib calls nodes subnetCache = (.ok subnets, cache)) :
    (∀ id, id ∈ subnets.map Subnet.id ↔ IsNodeSubnet lib vcn nodes id) ↔
      SubnetsVisible lib calls vcn nodes subnetCache := by
  rw [subnetsVisible_iff hplaced hcache]
  exact forall_congr' fun id => by rw [mem_getSubnetsForNodes hanswers hplaced hcache h]

/-- A network with one subnet, and an instance with an address of each family. -/
def dualStackVcn : Vcn where
  subnets := [{ id := "subnet", cidrBlock := some "10.0.0.0/24", ipv6CidrBlock := some "fd00::/64" }]
  primaryVnic _ :=
    some { privateIp := some "10.0.0.5", ipv6Addresses := ["fd00::5"], subnetId := "subnet" }

def dualStackCalls : Calls where
  parseCIDR block :=
    .ok fun address => hasPrefix address (if block = "10.0.0.0/24" then "10.0.0." else "fd00::")
  getPrimaryVNICForInstance _ id := .ok (dualStackVcn.primaryVnic id)
  fetchSubnet id :=
    match dualStackVcn.subnets.find? (·.id = id) with
    | some subnet => .ok subnet
    | none => .error .errNotFound

def dualStackNode (addresses : List NodeAddress) : Node where
  name := "node"
  annotations := (∅ : GoMap String).insert compartmentIDKey "compartment"
  providerID := "ocid1.instance"
  addresses

theorem answers_dualStackCalls : Answers dualStackCalls dualStackVcn where
  vnic h := (Except.ok.inj h).symm
  subnet {id subnet} h := by
    cases hfind : dualStackVcn.subnets.find? (·.id = id) with
    | none => simp [dualStackCalls, hfind] at h
    | some found =>
      obtain rfl : found = subnet := by simpa [dualStackCalls, hfind] using h
      exact ⟨by simpa using List.find?_some hfind, mem_of_find?_eq_some hfind⟩

theorem subnetId_dualStackNode {addresses : List NodeAddress} {vnic : Vnic}
    (h : dualStackVcn.vnicOf (dualStackNode addresses) = some vnic) : vnic.subnetId = "subnet" := by
  have hid : (mapProviderIDToResourceID "ocid1.instance").toOption = some "ocid1.instance" := by
    decide +kernel
  rw [Vcn.vnicOf, dualStackNode, hid] at h
  cases h
  rfl

theorem placed_dualStackNode (addresses : List NodeAddress) :
    Placed Library.simple dualStackCalls dualStackVcn (dualStackNode addresses) where
  one_subnet subnet hsubnet subnet' hsubnet' _ _ := by
    rw [mem_singleton.mp hsubnet, mem_singleton.mp hsubnet']
  vnic_subnet vnic hvnic subnet hsubnet _ := by
    rw [mem_singleton.mp hsubnet, subnetId_dualStackNode hvnic]

/-- A node that reports both addresses of its interface. -/
theorem subnet_found_bothReported :
    (∀ id, id ∈ dualStackVcn.subnets.map Subnet.id ↔ IsNodeSubnet Library.simple dualStackVcn
      [dualStackNode [⟨.internalIP, "10.0.0.5"⟩, ⟨.internalIP, "fd00::5"⟩]] id) ∧
      SubnetsVisible Library.simple dualStackCalls dualStackVcn
        [dualStackNode [⟨.internalIP, "10.0.0.5"⟩, ⟨.internalIP, "fd00::5"⟩]] ∅ := by
  have h : getSubnetsForNodes Library.simple dualStackCalls
      [dualStackNode [⟨.internalIP, "10.0.0.5"⟩, ⟨.internalIP, "fd00::5"⟩]] ∅ =
      (.ok dualStackVcn.subnets, _) := rfl
  have hfound : ∀ id, id ∈ dualStackVcn.subnets.map Subnet.id ↔ IsNodeSubnet Library.simple
      dualStackVcn [dualStackNode [⟨.internalIP, "10.0.0.5"⟩, ⟨.internalIP, "fd00::5"⟩]] id := by
    intro id
    constructor
    · intro hid
      obtain rfl := mem_singleton.mp hid
      exact ⟨_, mem_singleton.mpr rfl, by decide +kernel, by decide +kernel, _, rfl, rfl⟩
    · rintro ⟨node, hnode, -, -, vnic, hvnic, rfl⟩
      obtain rfl := mem_singleton.mp hnode
      exact mem_singleton.mpr (subnetId_dualStackNode hvnic)
  refine ⟨hfound, (nodeSubnets_found_iff answers_dualStackCalls ?_ ?_ h).mp hfound⟩
  · intro node hnode
    obtain rfl := mem_singleton.mp hnode
    exact placed_dualStackNode _
  · intro id subnet hlookup
    cases hlookup

/-- A node that reports only one of the two addresses of its interface: the subnet is not found,
without an error. -/
theorem not_subnet_found_oneReported :
    getSubnetsForNodes Library.simple dualStackCalls
      [dualStackNode [⟨.internalIP, "10.0.0.5"⟩]] ∅ = (.ok [], ∅) ∧
    Answers dualStackCalls dualStackVcn ∧ CacheOf dualStackVcn ∅ ∧
    Placed Library.simple dualStackCalls dualStackVcn (dualStackNode [⟨.internalIP, "10.0.0.5"⟩]) ∧
    ¬∀ id, id ∈ ([] : List Subnet).map Subnet.id ↔ IsNodeSubnet Library.simple dualStackVcn
      [dualStackNode [⟨.internalIP, "10.0.0.5"⟩]] id := by
  refine ⟨rfl, answers_dualStackCalls, ?_, placed_dualStackNode _, fun h => ?_⟩
  · intro id subnet hlookup
    cases hlookup
  · have hsubnet : IsNodeSubnet Library.simple dualStackVcn
        [dualStackNode [⟨.internalIP, "10.0.0.5"⟩]] "subnet" :=
      ⟨_, mem_singleton.mpr rfl, by decide +kernel, by decide +kernel, _, rfl, rfl⟩
    simpa using (h "subnet").mpr hsubnet

end OciCcm.LoadBalancer.Subnets
