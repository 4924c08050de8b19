import Mathlib.Data.List.Pairwise
import OciCcm.LoadBalancer.PortMap

/-! # The nodes of a load balancer that is deleted

Before a load balancer is deleted, its security rules are cleaned up. The nodes
behind it are found from the addresses of its backends. `NodeInternalIP` gives
the nodes' addresses in pairs of an IPv4 and an IPv6 address, and the backends
have one address each: the pair of the IPv4 and the IPv6 address seen last is
looked up after each backend.
-/

namespace OciCcm.LoadBalancer.Cleanup

open Go Kubernetes List

variable {RuleSet : Type} (lib : Library RuleSet)

/-- The pair with another address of its family. -/
def putAddress (ipAddresses : IpAddresses) (address : String) : IpAddresses :=
  if lib.isIPv6String address then { ipAddresses with v6 := address }
  else { ipAddresses with v4 := address }

/-- The loop over the backends in `cleanupSecurityRulesForLoadBalancerDelete`, with the running
pair and the set of pairs. -/
def collectPairs (st : IpAddresses × List IpAddresses) (address : String) :
    IpAddresses × List IpAddresses :=
  let ipAddresses := putAddress lib st.1 address
  (ipAddresses, st.2.insert ipAddresses)

/-- The addresses of the backends in the order in which they are visited. -/
def visits (o : RangeOrder.{0}) (backendSets : GoMap BackendSetDetails) : List String :=
  (o.range 0 backendSets).flatMap fun (_, backendSet) => backendSet.backends.map Backend.ipAddress

/-- The pairs that are looked up. The set starts with the empty pair in it. -/
def ipSet (o : RangeOrder.{0}) (backendSets : GoMap BackendSetDetails) : List IpAddresses :=
  ((visits o backendSets).foldl (collectPairs lib) (⟨"", ""⟩, [⟨"", ""⟩])).2

/-- The node with a pair of addresses, the last one if there are several. -/
def ipToNodeLookup (nodeList : List Node) : IpAddresses → Option Node :=
  nodeList.foldl (fun table node =>
    Function.update table (nodeInternalIP lib.isIPv6String node) (some node)) fun _ => none

def getNodesAndPodsByIPs (nodeLister : Except String (List Node)) (backendIPs : List IpAddresses) :
    Except String (List Node) := do
  let nodeList ← nodeLister
  .ok (backendIPs.filterMap (ipToNodeLookup lib nodeList))

/-- The nodes that `cleanupSecurityRulesForLoadBalancerDelete` finds. A set is listed in an order
of its own. -/
def nodesOfLoadBalancer (o : RangeOrder.{0}) (unsortedList : List IpAddresses → List IpAddresses)
    (nodeLister : Except String (List Node)) (backendSets : GoMap BackendSetDetails) :
    Except String (List Node) :=
  (getNodesAndPodsByIPs lib nodeLister (unsortedList (ipSet lib o backendSets))).mapError
    (wrap "fetching nodes by internal ips")

/-! ## The running pair -/

section Loop

variable {σ α : Type} [DecidableEq σ]

theorem mem_foldl_insert {f : σ → α → σ} {s p : σ} {xs : List α} :
    p ∈ (xs.foldl (fun st x => (f st.1 x, st.2.insert (f st.1 x))) (s, [s])).2 ↔
      ∃ ys, ys <+: xs ∧ ys.foldl f s = p := by
  have hfst : ∀ xs : List α,
      (xs.foldl (fun st x => (f st.1 x, st.2.insert (f st.1 x))) (s, [s])).1 = xs.foldl f s := by
    intro xs
    induction xs using List.reverseRecOn with
    | nil => rfl
    | append_singleton xs x ih => simp [ih]
  induction xs using List.reverseRecOn with
  | nil =>
    constructor
    · intro h
      exact ⟨[], prefix_rfl, (mem_singleton.mp h).symm⟩
    · rintro ⟨ys, hys, rfl⟩
      rw [prefix_nil.mp hys]
      exact mem_singleton.mpr rfl
  | append_singleton xs x ih =>
    rw [foldl_append, foldl_cons, foldl_nil, mem_insert_iff, hfst, or_congr_right ih]
    constructor
    · rintro (rfl | ⟨ys, hys, rfl⟩)
      · exact ⟨xs ++ [x], prefix_rfl, by simp⟩
      · exact ⟨ys, hys.trans (prefix_append xs [x]), rfl⟩
    · rintro ⟨ys, hys, rfl⟩
      rcases prefix_concat_iff.mp hys with rfl | hys
      · exact .inl (by simp)
      · exact .inr ⟨ys, hys, rfl⟩

end Loop

/-- The last address of a family in a list, empty if there is none. -/
def lastOf (v6 : Bool) (addresses : List String) : String :=
  (addresses.filter (lib.isIPv6String · == v6)).getLastD ""

/-- The last IPv4 and the last IPv6 address of a list. -/
def lastAddresses (addresses : List String) : IpAddresses where
  v4 := lastOf lib false addresses
  v6 := lastOf lib true addresses

/-- A node's address of a family, as `NodeInternalIP` gives it. -/
def addressOf (node : Node) (v6 : Bool) : String :=
  if v6 then (nodeInternalIP lib.isIPv6String node).v6
  else (nodeInternalIP lib.isIPv6String node).v4

def internalAddresses (node : Node) : List String :=
  (node.addresses.filter (·.type = .internalIP)).map NodeAddress.address

def IsBackendAddress (backendSets : GoMap BackendSetDetails) (a : String) : Prop :=
  ∃ name backendSet, backendSets.lookup name = some backendSet ∧
    ∃ backend ∈ backendSet.backends, backend.ipAddress = a

/-- The node has the address of a backend as internal address. -/
def HasBackendAddress (backendSets : GoMap BackendSetDetails) (node : Node) : Prop :=
  ∃ a, IsBackendAddress backendSets a ∧ a ∈ internalAddresses node

variable {lib} {backendSets : GoMap BackendSetDetails} {o : RangeOrder.{0}} {node : Node}
  {xs : List String} {a : String} {v6 : Bool}

theorem foldl_putAddress (addresses : List String) :
    addresses.foldl (putAddress lib) ⟨"", ""⟩ = lastAddresses lib addresses := by
  induction addresses using List.reverseRecOn with
  | nil => rfl
  | append_singleton addresses address ih =>
    rw [foldl_append, foldl_cons, foldl_nil, ih]
    unfold putAddress lastAddresses lastOf
    by_cases h : lib.isIPv6String address <;> simp [h]

theorem nodeInternalIP_eq (node : Node) :
    nodeInternalIP lib.isIPv6String node = lastAddresses lib (internalAddresses node) := by
  rw [← foldl_putAddress, internalAddresses, foldl_map, foldl_filter]
  simp only [nodeInternalIP, nodeIP, putAddress, decide_eq_true_eq]

theorem mem_ipSet {p : IpAddresses} :
    p ∈ ipSet lib o backendSets ↔
      ∃ visited, visited <+: visits o backendSets ∧ lastAddresses lib visited = p := by
  simp only [← foldl_putAddress]
  exact mem_foldl_insert

theorem mem_visits : a ∈ visits o backendSets ↔ IsBackendAddress backendSets a := by
  simp only [visits, mem_flatMap, mem_map, Prod.exists, RangeOrder.mem_range,
    IsBackendAddress]

theorem lastOf_congr {ys : List String} (h : lastAddresses lib xs = lastAddresses lib ys)
    (v6 : Bool) : lastOf lib v6 xs = lastOf lib v6 ys := by
  cases v6
  · exact congrArg IpAddresses.v4 h
  · exact congrArg IpAddresses.v6 h

theorem addressOf_eq : addressOf lib node v6 = lastOf lib v6 (internalAddresses node) := by
  rw [addressOf, nodeInternalIP_eq]
  cases v6 <;> rfl

theorem lastOf_mem (hmem : a ∈ xs) (hfamily : lib.isIPv6String a = v6) :
    lastOf lib v6 xs ∈ xs ∧ lib.isIPv6String (lastOf lib v6 xs) = v6 := by
  have hne : xs.filter (lib.isIPv6String · == v6) ≠ [] :=
    ne_nil_of_mem (mem_filter.mpr ⟨hmem, beq_iff_eq.mpr hfamily⟩)
  rw [lastOf, getLastD_eq_getLast?, List.getLast?_eq_some_getLast hne, Option.getD_some]
  simpa using mem_filter.mp (getLast_mem hne)

theorem lastOf_mem_of_ne (hne : lastOf lib v6 xs ≠ "") :
    lastOf lib v6 xs ∈ xs ∧ lib.isIPv6String (lastOf lib v6 xs) = v6 := by
  obtain ⟨hmem, hfamily⟩ :=
    mem_filter.mp ((mem_cons.mp getLastD_mem_cons).resolve_left hne)
  exact ⟨hmem, beq_iff_eq.mp hfamily⟩

/-- A list whose addresses of a family are all the same has this one as the last. -/
theorem lastOf_eq (hall : ∀ x ∈ xs, lib.isIPv6String x = v6 → x = a)
    (ha : a = "" ∨ a ∈ xs ∧ lib.isIPv6String a = v6) : lastOf lib v6 xs = a := by
  rcases ha with rfl | ⟨hmem, hfamily⟩
  · by_contra hne
    obtain ⟨hlast, hfamily⟩ := lastOf_mem_of_ne hne
    exact hne (hall _ hlast hfamily)
  · obtain ⟨hlast, hfamily⟩ := lastOf_mem hmem hfamily
    exact hall _ hlast hfamily

theorem exists_common_address {ys : List String}
    (heq : lastAddresses lib xs = lastAddresses lib ys)
    (hne : lastAddresses lib xs ≠ ⟨"", ""⟩) : ∃ a ∈ xs, a ∈ ys := by
  obtain ⟨v6, hne⟩ : ∃ v6, lastOf lib v6 xs ≠ "" := by
    by_contra! h
    exact hne (congrArg₂ IpAddresses.mk (h false) (h true))
  refine ⟨_, (lastOf_mem_of_ne hne).1, ?_⟩
  rw [lastOf_congr heq] at hne ⊢
  exact (lastOf_mem_of_ne hne).1

theorem empty_mem_of_lastAddresses (h : lastAddresses lib xs = ⟨"", ""⟩) (ha : a ∈ xs) :
    "" ∈ xs := by
  have hlast : lastOf lib (lib.isIPv6String a) xs = "" := lastOf_congr (h.trans (foldl_putAddress [])) _
  exact hlast ▸ (lastOf_mem ha rfl).1

/-! ## The nodes found -/

theorem ipToNodeLookup_eq (nodeList : List Node) (ip : IpAddresses) :
    ipToNodeLookup lib nodeList ip =
      nodeList.reverse.find? (nodeInternalIP lib.isIPv6String · = ip) := by
  induction nodeList using List.reverseRecOn with
  | nil => rfl
  | append_singleton nodeList node ih =>
    rw [reverse_append, reverse_singleton, singleton_append, List.find?_cons]
    rw [ipToNodeLookup] at ih ⊢
    rw [foldl_append, foldl_cons, foldl_nil, Function.update_apply, ih]
    by_cases h : nodeInternalIP lib.isIPv6String node = ip
    · simp [h]
    · simp [h, Ne.symm h]

/-- Two nodes without a common internal address. -/
def Different (node node' : Node) : Prop :=
  ∀ a ∈ internalAddresses node, a ∉ internalAddresses node'

instance : Std.Symm Different where
  symm _ _ h a ha ha' := h a ha' ha

/-- The backend sets with their backends in another order. -/
def rearranged (arrange : String → List Backend → List Backend)
    (backendSets : GoMap BackendSetDetails) : GoMap BackendSetDetails :=
  backendSets.convert fun name backendSet =>
    { backendSet with backends := arrange name backendSet.backends }

/-- Every list of backends is given in some order. -/
def Rearranges (arrange : String → List Backend → List Backend) : Prop :=
  ∀ name backends, (arrange name backends).Perm backends

/-- In every order in which the backend sets, their backends and the pairs of addresses are
visited, the nodes that are found are those with the address of a backend. -/
def FindsNodes (lib : Library RuleSet) (backendSets : GoMap BackendSetDetails)
    (nodeList : List Node) : Prop :=
  ∀ (o : RangeOrder.{0}) (arrange : String → List Backend → List Backend)
    (unsortedList : List IpAddresses → List IpAddresses),
    Rearranges arrange → (∀ ips, (unsortedList ips).Perm ips) →
    ∃ nodes, nodesOfLoadBalancer lib o unsortedList (.ok nodeList)
        (rearranged arrange backendSets) = .ok nodes ∧
      ∀ node, node ∈ nodes ↔ node ∈ nodeList ∧ HasBackendAddress backendSets node

/-- The last node without internal addresses, if there is one, has the address of a backend. -/
def NoStray (lib : Library RuleSet) (backendSets : GoMap BackendSetDetails)
    (nodeList : List Node) : Prop :=
  ∀ node, nodeList.reverse.find? (nodeInternalIP lib.isIPv6String · = ⟨"", ""⟩) = some node →
    HasBackendAddress backendSets node

/-- Every node with the address of a backend has a backend for its address of each family, and the
backends of the other family then all have the node's address of that family, so that there are
none if the node has none. -/
structure AddressesSettled (lib : Library RuleSet) (backendSets : GoMap BackendSetDetails)
    (nodeList : List Node) : Prop where
  settled : ∀ node ∈ nodeList, HasBackendAddress backendSets node → ∀ v6,
    addressOf lib node v6 ≠ "" → IsBackendAddress backendSets (addressOf lib node v6) ∧
      ∀ a, IsBackendAddress backendSets a → lib.isIPv6String a ≠ v6 → a = addressOf lib node !v6
  noStray : NoStray lib backendSets nodeList

/-- The addresses of each backend set are of one family. -/
def OneFamily (lib : Library RuleSet) (backendSets : GoMap BackendSetDetails) : Prop :=
  ∀ name backendSet, backendSets.lookup name = some backendSet →
    ∃ v6, ∀ backend ∈ backendSet.backends, lib.isIPv6String backend.ipAddress = v6

variable {nodeList : List Node} {arrange : String → List Backend → List Backend}
  {unsortedList : List IpAddresses → List IpAddresses}

theorem lookup_rearranged {name : String} {backendSet : BackendSetDetails} :
    (rearranged arrange backendSets).lookup name = some backendSet ↔
      ∃ bs, backendSets.lookup name = some bs ∧
        { bs with backends := arrange name bs.backends } = backendSet := by
  rw [rearranged, GoMap.lookup_convert, Option.map_eq_some_iff]

theorem mem_visits_rearranged (harrange : Rearranges arrange) :
    a ∈ visits o (rearranged arrange backendSets) ↔ IsBackendAddress backendSets a := by
  rw [mem_visits]
  constructor
  · rintro ⟨name, backendSet, hlookup, backend, hbackend, rfl⟩
    obtain ⟨bs, hbs, rfl⟩ := lookup_rearranged.mp hlookup
    exact ⟨name, bs, hbs, backend, (harrange name _).mem_iff.mp hbackend, rfl⟩
  · rintro ⟨name, backendSet, hlookup, backend, hbackend, rfl⟩
    exact ⟨name, _, lookup_rearranged.mpr ⟨_, hlookup, rfl⟩, backend,
      (harrange name _).mem_iff.mpr hbackend, rfl⟩

theorem nodesOfLoadBalancer_ok (hunsorted : ∀ ips, (unsortedList ips).Perm ips) :
    ∃ nodes, nodesOfLoadBalancer lib o unsortedList (.ok nodeList) backendSets = .ok nodes ∧
      ∀ node, node ∈ nodes ↔ ∃ visited, visited <+: visits o backendSets ∧
        nodeList.reverse.find? (nodeInternalIP lib.isIPv6String · = lastAddresses lib visited) =
          some node := by
  refine ⟨_, rfl, fun node => ?_⟩
  simp only [mem_filterMap, (hunsorted _).mem_iff, mem_ipSet, ipToNodeLookup_eq]
  constructor
  · rintro ⟨_, ⟨visited, hvisited, rfl⟩, hfind⟩
    exact ⟨visited, hvisited, hfind⟩
  · rintro ⟨visited, hvisited, hfind⟩
    exact ⟨_, ⟨visited, hvisited, rfl⟩, hfind⟩

theorem eq_of_nodeInternalIP_eq (hdifferent : nodeList.Pairwise Different) {node node' : Node}
    (hnode : node ∈ nodeList) (hnode' : node' ∈ nodeList)
    (heq : nodeInternalIP lib.isIPv6String node = nodeInternalIP lib.isIPv6String node')
    (hbackend : HasBackendAddress backendSets node)
    (hbackend' : nodeInternalIP lib.isIPv6String node' = ⟨"", ""⟩ →
      HasBackendAddress backendSets node') : node = node' := by
  by_contra hne
  have hcommon : ∃ a ∈ internalAddresses node, a ∈ internalAddresses node' := by
    rw [nodeInternalIP_eq] at hbackend'
    rw [nodeInternalIP_eq, nodeInternalIP_eq] at heq
    by_cases hempty : lastAddresses lib (internalAddresses node') = ⟨"", ""⟩
    · obtain ⟨a, -, ha⟩ := hbackend
      obtain ⟨a', -, ha'⟩ := hbackend' hempty
      exact ⟨"", empty_mem_of_lastAddresses (heq.trans hempty) ha,
        empty_mem_of_lastAddresses hempty ha'⟩
    · exact exists_common_address heq (heq ▸ hempty)
  obtain ⟨a, ha, ha'⟩ := hcommon
  exact hdifferent.forall hnode hnode' hne a ha ha'

theorem mem_of_find {ip : IpAddresses}
    (h : nodeList.reverse.find? (nodeInternalIP lib.isIPv6String · = ip) = some node) :
    node ∈ nodeList ∧ nodeInternalIP lib.isIPv6String node = ip :=
  ⟨mem_reverse.mp (mem_of_find?_eq_some h), by simpa using List.find?_some h⟩

/-- The pair of every node with the address of a backend comes up in the course of the visits. -/
def PairsVisited (lib : Library RuleSet) (backendSets : GoMap BackendSetDetails)
    (nodeList : List Node) (xs : List String) : Prop :=
  ∀ node ∈ nodeList, HasBackendAddress backendSets node → ∃ visited, visited <+: xs ∧
    lastAddresses lib visited = lastAddresses lib (internalAddresses node)

/-- The nodes found in the course of some visits are those with the address of a backend exactly if
the pairs of these nodes come up. -/
theorem found_iff (hdifferent : nodeList.Pairwise Different)
    (hxs : ∀ a, a ∈ xs ↔ IsBackendAddress backendSets a) :
    (∀ node, (∃ visited, visited <+: xs ∧ nodeList.reverse.find?
        (nodeInternalIP lib.isIPv6String · = lastAddresses lib visited) = some node) ↔
      node ∈ nodeList ∧ HasBackendAddress backendSets node) ↔
    PairsVisited lib backendSets nodeList xs ∧ NoStray lib backendSets nodeList := by
  constructor
  · intro hfound
    constructor
    · intro node hnode hbackend
      obtain ⟨visited, hvisited, hfind⟩ := (hfound node).mpr ⟨hnode, hbackend⟩
      exact ⟨visited, hvisited, by rw [← (mem_of_find hfind).2, nodeInternalIP_eq]⟩
    · intro node hfind
      exact ((hfound node).mp ⟨[], nil_prefix, hfind⟩).2
  · rintro ⟨hpairs, hstray⟩ node
    constructor
    · rintro ⟨visited, hvisited, hfind⟩
      obtain ⟨hnode, heq⟩ := mem_of_find hfind
      refine ⟨hnode, ?_⟩
      by_cases hempty : lastAddresses lib visited = ⟨"", ""⟩
      · rw [hempty] at hfind
        exact hstray node hfind
      · rw [nodeInternalIP_eq] at heq
        obtain ⟨a, ha, hinternal⟩ := exists_common_address heq.symm hempty
        exact ⟨a, (hxs a).mp (hvisited.subset ha), hinternal⟩
    · rintro ⟨hnode, hbackend⟩
      obtain ⟨visited, hvisited, heq⟩ := hpairs node hnode hbackend
      refine ⟨visited, hvisited, ?_⟩
      rw [heq, ← nodeInternalIP_eq]
      -- The table has some node for the pair, and this can only be `node`.
      obtain ⟨node', hfind⟩ : ∃ node', nodeList.reverse.find?
          (nodeInternalIP lib.isIPv6String · = nodeInternalIP lib.isIPv6String node) =
          some node' := by
        rw [← Option.isSome_iff_exists, List.find?_isSome]
        exact ⟨node, mem_reverse.mpr hnode, by simp⟩
      obtain ⟨hnode', heq'⟩ := mem_of_find hfind
      rw [hfind, eq_of_nodeInternalIP_eq hdifferent hnode hnode' heq'.symm hbackend fun hempty =>
        hstray node' (by rwa [← heq', hempty] at hfind)]

theorem findsNodes_iff_found (hdifferent : nodeList.Pairwise Different) :
    FindsNodes lib backendSets nodeList ↔
      ∀ (o : RangeOrder.{0}) (arrange : String → List Backend → List Backend),
        Rearranges arrange →
        PairsVisited lib backendSets nodeList (visits o (rearranged arrange backendSets)) ∧
        NoStray lib backendSets nodeList := by
  refine forall₂_congr fun o arrange => ?_
  constructor
  · intro hfinds harrange
    have hid : ∀ ips : List IpAddresses, (id ips).Perm ips := .refl
    obtain ⟨nodes, h, hnodes⟩ := hfinds id harrange hid
    obtain ⟨nodes', h', hvisited⟩ := nodesOfLoadBalancer_ok hid
    obtain rfl := Except.ok.inj (h.symm.trans h')
    simp only [hvisited] at hnodes
    exact (found_iff hdifferent fun a => mem_visits_rearranged harrange).mp hnodes
  · intro hpairs unsortedList harrange hunsorted
    obtain ⟨nodes, h, hvisited⟩ := nodesOfLoadBalancer_ok hunsorted
    refine ⟨nodes, h, fun node => ?_⟩
    rw [hvisited]
    exact (found_iff hdifferent fun a => mem_visits_rearranged harrange).mpr (hpairs harrange) node

/-! ## Every order -/

/-- A node whose addresses are settled has its pair come up in every order. -/
theorem exists_visited {internal : List String} (hsettled : ∀ v6, lastOf lib v6 internal ≠ "" →
      lastOf lib v6 internal ∈ xs ∧
      ∀ a ∈ xs, lib.isIPv6String a ≠ v6 → a = lastOf lib (!v6) internal) :
    ∃ visited, visited <+: xs ∧ lastAddresses lib visited = lastAddresses lib internal := by
  by_cases hboth : ∀ v6, lastOf lib v6 internal ≠ ""
  · -- All addresses of a family are the node's, so that the last ones are.
    have hlast : ∀ v6, lastOf lib v6 xs = lastOf lib v6 internal := by
      intro v6
      refine lastOf_eq (fun x hx hfamily => ?_) (.inr ⟨(hsettled v6 (hboth v6)).1,
        (lastOf_mem_of_ne (hboth v6)).2⟩)
      rw [(hsettled (!v6) (hboth !v6)).2 x hx (by simp [hfamily]), Bool.not_not]
    exact ⟨xs, prefix_rfl, congrArg₂ IpAddresses.mk (hlast false) (hlast true)⟩
  · obtain ⟨v6, hempty⟩ := not_forall_not.mp hboth
    have hpair : ∀ visited, lastOf lib v6 visited = "" →
        lastOf lib (!v6) visited = lastOf lib (!v6) internal →
        lastAddresses lib visited = lastAddresses lib internal := by
      intro visited h h'
      rw [← hempty] at h
      cases v6
      · exact congrArg₂ IpAddresses.mk h h'
      · exact congrArg₂ IpAddresses.mk h' h
    by_cases hother : lastOf lib (!v6) internal = ""
    · exact ⟨[], nil_prefix, hpair [] rfl hother.symm⟩
    · -- The address of one family is visited, and none of the other.
      obtain ⟨hmem, hrest⟩ := hsettled (!v6) hother
      rw [Bool.not_not, hempty] at hrest
      obtain ⟨earlier, later, rfl⟩ := append_of_mem hmem
      have hfamily := (lastOf_mem_of_ne hother).2
      refine ⟨earlier ++ [lastOf lib (!v6) internal], ⟨later, by simp⟩, hpair _ ?_ ?_⟩
      · refine lastOf_eq (fun x hx hx6 => hrest x ?_ (by simp [hx6])) (.inl rfl)
        rcases mem_append.mp hx with hx | hx
        · exact mem_append_left _ hx
        · exact mem_append_right _ (mem_singleton.mp hx ▸ mem_cons_self)
      · simp [lastOf.eq_1 lib (!v6) (earlier ++ _), hfamily]

/-- The backends that `getBackendSets` gives a set are of one family. -/
theorem oneFamily_getBackendSets {svc : Service} {nodes : List Node} {sslCfg : Option SSLConfig}
    {isPreserveSource : Bool} {versions : List IpVersion}
    (h : getBackendSets lib o svc nodes sslCfg isPreserveSource versions = .ok backendSets) :
    OneFamily lib backendSets := by
  intro name backendSet hlookup
  obtain ⟨q, v, -, -, -, -, hbackends⟩ := lookup_getBackendSets h hlookup
  refine ⟨v = .ipv6, fun backend hbackend => ?_⟩
  rw [hbackends] at hbackend
  rw [Bool.eq_iff_iff, decide_eq_true_eq]
  exact (of_mem_getBackends hbackend).2.1

/-- The entries with a property of the key can be visited first, and one of them as the last of
these. -/
theorem range_first {p : String → Bool} {m : GoMap BackendSetDetails} {name : String}
    {backendSet : BackendSetDetails} (hlookup : m.lookup name = some backendSet)
    (hp : p name = true) :
    ∃ (o : RangeOrder.{0}) (earlier later : List (String × BackendSetDetails)),
      o.range 0 m = earlier ++ (name, backendSet) :: later ∧
      (∀ e ∈ earlier, p e.1 = true) ∧ ∀ e ∈ later, p e.1 = false := by
  have hlast : (m.toPairs.filter (·.1 = name)).filter (p ·.1) = [(name, backendSet)] := by
    rw [GoMap.filter_toPairs hlookup]
    simp [hp]
  refine ⟨(RangeOrder.stored.first (· ≠ name)).first p,
    (m.toPairs.filter (·.1 ≠ name)).filter (p ·.1),
    (m.toPairs.filter (·.1 ≠ name) ++ m.toPairs.filter (·.1 = name)).filter (!p ·.1), ?_, ?_, ?_⟩
  · simp only [RangeOrder.first, RangeOrder.stored, filter_append, ne_eq, decide_not,
      Bool.not_not, hlast, append_assoc, singleton_append]
  · intro e he
    exact (mem_filter.mp he).2
  · intro e he
    simpa using (mem_filter.mp he).2

/-- A backend's address can be visited last among those of its family and before those of the
other one. -/
theorem exists_order (hone : OneFamily lib backendSets) (ha : IsBackendAddress backendSets a) :
    ∃ (o : RangeOrder.{0}) (arrange : String → List Backend → List Backend),
      Rearranges arrange ∧ ∃ earlier later, visits o (rearranged arrange backendSets) = earlier ++ [a] ++ later ∧
        (∀ x ∈ earlier, lib.isIPv6String x = lib.isIPv6String a) ∧
        ∀ x ∈ later, lib.isIPv6String x ≠ lib.isIPv6String a := by
  obtain ⟨name, backendSet, hlookup, backend, hbackend, rfl⟩ := ha
  let arrange : String → List Backend → List Backend := fun _ backends =>
    if backend ∈ backends then backends.erase backend ++ [backend] else backends
  have harrange : Rearranges arrange := by
    intro _ backends
    by_cases h : backend ∈ backends
    · simp only [arrange, if_pos h]
      exact perm_append_comm.trans (perm_cons_erase h).symm
    · simp only [arrange, if_neg h]
      exact .refl _
  let p : String → Bool := fun name => (backendSets.lookup name).all fun backendSet =>
    backendSet.backends.all (lib.isIPv6String ·.ipAddress == lib.isIPv6String backend.ipAddress)
  -- As a set is of one family, `p` says of each of its backends that it is of this family.
  have hfamily : ∀ e ∈ (rearranged arrange backendSets).toPairs, ∀ x ∈ e.2.backends,
      (p e.1 = true ↔ lib.isIPv6String x.ipAddress = lib.isIPv6String backend.ipAddress) := by
    rintro ⟨name, _⟩ he x hx
    obtain ⟨bs, hbs, rfl⟩ := lookup_rearranged.mp (GoMap.mem_toPairs.mp he)
    obtain ⟨v6, hv6⟩ := hone name bs hbs
    have hx : x ∈ bs.backends := (harrange name _).mem_iff.mp hx
    simp only [p, hbs, Option.all_some, all_eq_true, beq_iff_eq]
    exact ⟨fun h => h x hx, fun h x' hx' => by rw [hv6 x' hx', ← hv6 x hx, h]⟩
  have hlookup' : (rearranged arrange backendSets).lookup name =
      some { backendSet with backends := arrange name backendSet.backends } :=
    lookup_rearranged.mpr ⟨_, hlookup, rfl⟩
  have hp : p name = true :=
    (hfamily _ (GoMap.mem_toPairs.mpr hlookup') backend
      ((harrange name _).mem_iff.mpr hbackend)).mpr rfl
  obtain ⟨o, earlier, later, hrange, hearlier, hlater⟩ := range_first hlookup' hp
  have hmem : ∀ e, e ∈ earlier ∨ e ∈ later → e ∈ (rearranged arrange backendSets).toPairs := by
    intro e he
    rw [← (o.perm 0 _).mem_iff, hrange, mem_append, mem_cons]
    exact he.imp_right .inr
  refine ⟨o, arrange, harrange, earlier.flatMap (fun e => e.2.backends.map Backend.ipAddress) ++
    (backendSet.backends.erase backend).map Backend.ipAddress,
    later.flatMap fun e => e.2.backends.map Backend.ipAddress, ?_, ?_, ?_⟩
  · rw [visits, hrange]
    simp [arrange, hbackend]
  · intro x hx
    rcases mem_append.mp hx with hx | hx
    · obtain ⟨e, he, hx⟩ := mem_flatMap.mp hx
      obtain ⟨x, hmap, rfl⟩ := mem_map.mp hx
      exact (hfamily e (hmem e (.inl he)) x hmap).mp (hearlier e he)
    · obtain ⟨x, hmap, rfl⟩ := mem_map.mp hx
      exact (hfamily _ (GoMap.mem_toPairs.mpr hlookup') x
        ((harrange name _).mem_iff.mpr (mem_of_mem_erase hmap))).mp hp
  · intro x hx hsame
    obtain ⟨e, he, hx⟩ := mem_flatMap.mp hx
    obtain ⟨x, hmap, rfl⟩ := mem_map.mp hx
    exact absurd ((hfamily e (hmem e (.inr he)) x hmap).mpr hsame) (by simp [hlater e he])

/-- Once an address of the other family is visited, `a` is the last one of its family. -/
theorem lastOf_of_visited {visited earlier later : List String}
    (hvisited : visited <+: earlier ++ [a] ++ later)
    (hearlier : ∀ x ∈ earlier, lib.isIPv6String x = lib.isIPv6String a)
    (hlater : ∀ x ∈ later, lib.isIPv6String x ≠ lib.isIPv6String a)
    (hother : lib.isIPv6String a ≠ v6) (hne : lastOf lib v6 visited ≠ "") :
    lastOf lib (!v6) visited = a := by
  obtain ⟨hmem, hfamily⟩ := lastOf_mem_of_ne hne
  have ha : lib.isIPv6String a = !v6 := Bool.eq_not_of_ne hother
  rcases prefix_or_prefix_of_prefix hvisited (prefix_append (earlier ++ [a]) later) with
    hle | ⟨rest, rfl⟩
  · exfalso
    refine hother ?_
    rw [← hfamily]
    rcases mem_append.mp (hle.subset hmem) with hx | hx
    · exact (hearlier _ hx).symm
    · rw [mem_singleton.mp hx]
  · have hrest : rest.filter (lib.isIPv6String · == !v6) = [] := by
      rw [filter_eq_nil_iff]
      intro x hx
      rw [beq_iff_eq, ← ha]
      exact hlater x (((prefix_append_right_inj _).mp hvisited).subset hx)
    simp [lastOf, ha, hrest]

/-- The nodes with the address of a backend are found, in every order, exactly if the backends settle
the addresses of these nodes. -/
theorem nodes_found_iff (hdifferent : nodeList.Pairwise Different)
    (hone : OneFamily lib backendSets) :
    FindsNodes lib backendSets nodeList ↔ AddressesSettled lib backendSets nodeList := by
  rw [findsNodes_iff_found hdifferent]
  constructor
  · intro hfound
    refine ⟨fun node hnode hbackend v6 hne => ?_, (hfound .stored (fun _ => id) fun _ _ => .refl _).2⟩
    rw [addressOf_eq] at hne ⊢
    constructor
    · obtain ⟨visited, hvisited, heq⟩ :=
        (hfound .stored (fun _ => id) fun _ _ => .refl _).1 node hnode hbackend
      rw [← lastOf_congr heq] at hne ⊢
      exact (mem_visits_rearranged fun _ _ => .refl _).mp
        (hvisited.subset (lastOf_mem_of_ne hne).1)
    · intro a ha hother
      obtain ⟨o, arrange, harrange, earlier, later, hvisits, hearlier, hlater⟩ :=
        exists_order hone ha
      obtain ⟨visited, hvisited, heq⟩ := (hfound o arrange harrange).1 node hnode hbackend
      rw [hvisits] at hvisited
      rw [addressOf_eq]
      rw [← lastOf_congr heq] at hne ⊢
      exact (lastOf_of_visited hvisited hearlier hlater hother hne).symm
  · intro hsettled o arrange harrange
    refine ⟨fun node hnode hbackend => exists_visited fun v6 hne => ?_, hsettled.noStray⟩
    have h := hsettled.settled node hnode hbackend v6
    simp only [addressOf_eq, ← mem_visits_rearranged (o := o) harrange] at h
    exact h hne

def clusterNode (name : String) (addresses : List String) : Node where
  name
  providerID := "ocid1.instance." ++ name
  addresses := addresses.map fun address => ⟨.internalIP, address⟩

/-- A backend set with one backend for each address. -/
def backendSetOf (name : String) (addresses : List String) : BackendSetDetails where
  name
  healthChecker := none
  policy := none
  backends := addresses.map fun ipAddress =>
    { port := 80, ipAddress, targetId := none, weight := none }
  sslConfiguration := none
  isPreserveSource := none
  ipVersion := none

/-- A backend set with one backend for each of two nodes. -/
def ipv4BackendSets : GoMap BackendSetDetails :=
  (∅ : GoMap _).insert "TCP-80" (backendSetOf "TCP-80" ["10.0.0.1", "10.0.0.2"])

/-- A second backend set for the IPv6 addresses of the nodes. -/
def dualStackBackendSets : GoMap BackendSetDetails :=
  ((∅ : GoMap _).insert "TCP-80-IPv6" (backendSetOf "TCP-80-IPv6" ["fd00::1", "fd00::2"])).insert
    "TCP-80" (backendSetOf "TCP-80" ["10.0.0.1", "10.0.0.2"])

def ipv4Nodes : List Node := [clusterNode "a" ["10.0.0.1"], clusterNode "b" ["10.0.0.2"]]

def dualStackNodes : List Node :=
  [clusterNode "a" ["10.0.0.1", "fd00::1"], clusterNode "b" ["10.0.0.2", "fd00::2"]]

theorem oneFamily_of_toPairs
    (h : ∀ e ∈ backendSets.toPairs, ∃ v6, ∀ backend ∈ e.2.backends,
      lib.isIPv6String backend.ipAddress = v6) : OneFamily lib backendSets :=
  fun name backendSet hlookup => h (name, backendSet) (GoMap.mem_toPairs.mpr hlookup)

/-- Two nodes with one address each, behind IPv4 backends, are found in every order. -/
theorem nodes_found_ipv4Nodes :
    ipv4Nodes.Pairwise Different ∧ OneFamily Library.simple ipv4BackendSets ∧
      FindsNodes Library.simple ipv4BackendSets ipv4Nodes := by
  have hdifferent : ipv4Nodes.Pairwise Different := by
    simp [ipv4Nodes, Different, internalAddresses, clusterNode]
  have hone : OneFamily Library.simple ipv4BackendSets :=
    oneFamily_of_toPairs (forall_mem_singleton.mpr ⟨false, by decide⟩)
  refine ⟨hdifferent, hone, (nodes_found_iff hdifferent hone).mpr ⟨?_, ?_⟩⟩
  · simp only [← mem_visits (o := .stored)]
    have h : ∀ node ∈ ipv4Nodes, ∀ v6, addressOf Library.simple node v6 ≠ "" →
        addressOf Library.simple node v6 ∈ visits .stored ipv4BackendSets ∧
        ∀ a ∈ visits .stored ipv4BackendSets, Library.simple.isIPv6String a ≠ v6 →
          a = addressOf Library.simple node !v6 := by decide
    exact fun node hnode _ => h node hnode
  · intro node hfind
    cases hfind

/-- Two nodes with two addresses each, behind a backend set for each family: the first node is not
found. -/
theorem not_nodes_found_dualStackNodes :
    dualStackNodes.Pairwise Different ∧ OneFamily Library.simple dualStackBackendSets ∧
    nodesOfLoadBalancer Library.simple .stored List.reverse (.ok dualStackNodes)
      dualStackBackendSets = .ok [clusterNode "b" ["10.0.0.2", "fd00::2"]] ∧
    HasBackendAddress dualStackBackendSets (clusterNode "a" ["10.0.0.1", "fd00::1"]) ∧
    ¬FindsNodes Library.simple dualStackBackendSets dualStackNodes := by
  have hbackend : HasBackendAddress dualStackBackendSets
      (clusterNode "a" ["10.0.0.1", "fd00::1"]) :=
    ⟨"10.0.0.1", ⟨"TCP-80", backendSetOf "TCP-80" ["10.0.0.1", "10.0.0.2"], rfl, _,
      mem_cons_self, rfl⟩, by decide⟩
  refine ⟨?_, oneFamily_of_toPairs (forall_mem_cons.mpr ⟨⟨false, by decide⟩,
    forall_mem_singleton.mpr ⟨true, by decide⟩⟩), rfl, hbackend, fun h => ?_⟩
  · simp [dualStackNodes, Different, internalAddresses, clusterNode]
  · obtain ⟨nodes, hok, hnodes⟩ := h .stored (fun _ => id) List.reverse (fun _ _ => .refl _)
      reverse_perm
    obtain rfl : nodes = [clusterNode "b" ["10.0.0.2", "fd00::2"]] := Except.ok.inj hok.symm
    exact absurd ((hnodes _).mpr ⟨mem_cons_self, hbackend⟩) (by decide)

end OciCcm.LoadBalancer.Cleanup
