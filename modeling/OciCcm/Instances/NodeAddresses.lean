import Mathlib.Data.List.Flatten
import OciCcm.Instances.OtherNodes

/-! # Which addresses a node gets

The addresses of the primary network interface, and for OpenShift those of the
tagged secondary ones. The IPv6 addresses of the primary interface are added at
two places, so that a node may get them twice.
-/

namespace OciCcm.Instances

open Client Go Kubernetes List

/-! ## What is extracted -/

/-- How the addresses are printed. Those that are empty or cannot be parsed are left out. -/
def printed (parseIP : String → Option ParsedIP) (ips : List String) : List String :=
  ips.filterMap fun ip => if ip = "" then none else (parseIP ip).map ParsedIP.string

def Vnic.ipv4s (vnic : Vnic) : List String := vnic.privateIp.toList ++ vnic.publicIp.toList

section Printed

variable {parseIP : String → Option ParsedIP} {addresses : List NodeAddress} {ips : List String}
  {type : NodeAddressType}

theorem printed_append (ips ips' : List String) :
    printed parseIP (ips ++ ips') = printed parseIP ips ++ printed parseIP ips' :=
  filterMap_append

theorem mem_printed {ip : String} {address : ParsedIP} (h : ip ∈ ips) (hne : ip ≠ "")
    (hparse : parseIP ip = some address) :
    address.string ∈ printed parseIP ips := by
  refine mem_filterMap.mpr ⟨ip, h, ?_⟩
  rw [if_neg hne, hparse, Option.map_some]

theorem address_addressOf {kind : String} {ip : Option String}
    (h : addressOf parseIP type kind ip = .ok addresses) :
    addresses.map NodeAddress.address = printed parseIP ip.toList := by
  unfold addressOf at h
  unfold printed
  cases ip with
  | none =>
    cases h
    rfl
  | some ip =>
    dsimp only at h
    rw [Option.toList_some, filterMap_cons, filterMap_nil]
    split at h
    · next hempty =>
      cases h
      rw [if_pos hempty]
      rfl
    · next hne =>
      rw [if_neg hne]
      cases hparse : parseIP ip with
      | none =>
        rw [hparse] at h
        cases h
      | some address =>
        rw [hparse] at h
        cases h
        rfl

theorem mem_of_addressOf {kind ip : String}
    (h : addressOf parseIP type kind (some ip) = .ok addresses) (hne : ip ≠ "") :
    ∃ address, parseIP ip = some address ∧ ⟨type, address.string⟩ ∈ addresses := by
  unfold addressOf at h
  dsimp only at h
  rw [if_neg hne] at h
  cases hparse : parseIP ip with
  | none =>
    rw [hparse] at h
    cases h
  | some address =>
    rw [hparse] at h
    cases h
    exact ⟨address, rfl, mem_singleton_self _⟩

theorem ipv4Addresses_ok {vnic : Vnic} (h : ipv4Addresses parseIP vnic = .ok addresses) :
    ∃ privateIps publicIps, addressOf parseIP .internalIP "private" vnic.privateIp = .ok privateIps ∧
      addressOf parseIP .externalIP "public" vnic.publicIp = .ok publicIps ∧
      addresses = privateIps ++ publicIps := by
  obtain ⟨privateIps, hprivate, h⟩ := bind_ok h
  obtain ⟨publicIps, hpublic, h⟩ := bind_ok h
  exact ⟨privateIps, publicIps, hprivate, hpublic, (Except.ok.inj h).symm⟩

theorem address_ipv4Addresses {vnic : Vnic} (h : ipv4Addresses parseIP vnic = .ok addresses) :
    addresses.map NodeAddress.address = printed parseIP vnic.ipv4s := by
  obtain ⟨privateIps, publicIps, hprivate, hpublic, rfl⟩ := ipv4Addresses_ok h
  rw [map_append, address_addressOf hprivate, address_addressOf hpublic, ← printed_append]
  rfl

theorem address_ipv6AddressesFrom {first : String}
    (h : ipv6AddressesFrom parseIP first ips = .ok addresses) :
    addresses.map NodeAddress.address = printed parseIP ips := by
  induction ips generalizing addresses with
  | nil =>
    cases h
    rfl
  | cons ip ips ih =>
    unfold ipv6AddressesFrom at h
    rw [printed, filterMap_cons]
    split at h
    · next hempty =>
      rw [if_pos hempty]
      exact ih h
    · next hne =>
      rw [if_neg hne]
      cases hparse : parseIP ip with
      | none =>
        rw [hparse] at h
        cases h
      | some address =>
        rw [hparse] at h
        obtain ⟨rest, hrest, h⟩ := bind_ok h
        cases h
        rw [map_cons, ih hrest]
        rfl

theorem parses_of_ipv6AddressesFrom {first : String}
    (h : ipv6AddressesFrom parseIP first ips = .ok addresses) {ip : String} (hip : ip ∈ ips)
    (hne : ip ≠ "") : ∃ address, parseIP ip = some address := by
  induction ips generalizing addresses with
  | nil => cases hip
  | cons ip' ips ih =>
    unfold ipv6AddressesFrom at h
    split at h
    · next hempty =>
      rcases mem_cons.mp hip with rfl | hip
      · exact absurd hempty hne
      · exact ih h hip
    · cases hparse : parseIP ip' with
      | none =>
        rw [hparse] at h
        cases h
      | some address =>
        rw [hparse] at h
        obtain ⟨rest, hrest, -⟩ := bind_ok h
        rcases mem_cons.mp hip with rfl | hip
        · exact ⟨address, hparse⟩
        · exact ih hrest hip

end Printed

namespace NetworkProvider

variable {cp : NetworkProvider} {compartmentID instanceID : String}

/-- The first node of the instance has the label for IPv6. -/
def LabelledIpv6 (cp : NetworkProvider) (instanceID : String) : Prop :=
  ∃ nodes node, cp.nodeLister = .ok nodes ∧ nodes.find? (isNodeOf instanceID) = some node ∧
    (node.labels.lookup ipv6NodeIPFamilyLabel).isSome

theorem mem_labelledIpFamily {node : Node} :
    .ipv6 ∈ labelledIpFamily node ↔ (node.labels.lookup ipv6NodeIPFamilyLabel).isSome := by
  unfold labelledIpFamily
  rw [mem_append]
  constructor
  · rintro (h | h)
    · split at h
      · cases mem_singleton.mp h
      · cases h
    · split at h
      · assumption
      · cases h
  · intro h
    rw [if_pos h]
    exact .inr (mem_singleton_self _)

theorem decided_ipFamilyOfNode (node : Node) :
    Search.decided (ipFamilyOfNode instanceID) node =
      if isNodeOf instanceID node then some (labelledIpFamily node) else none := by
  unfold Search.decided ipFamilyOfNode isNodeOf
  cases mapProviderIDToResourceID node.providerID with
  | error err => rfl
  | ok providerID => simp

theorem findSome?_ipFamilyOfNode (nodes : List Node) :
    nodes.findSome? (Search.decided (ipFamilyOfNode instanceID)) =
      (nodes.find? (isNodeOf instanceID)).map labelledIpFamily := by
  induction nodes with
  | nil => rfl
  | cons node nodes ih =>
    rw [List.findSome?_cons, decided_ipFamilyOfNode, List.find?_cons]
    cases isNodeOf instanceID node with
    | true => rfl
    | false => exact ih

theorem mem_getNodeIpFamily {families : List IPFamily}
    (h : cp.getNodeIpFamily instanceID = .ok families) :
    .ipv6 ∈ families ↔ cp.LabelledIpv6 instanceID := by
  unfold CloudProvider.getNodeIpFamily at h
  unfold LabelledIpv6
  cases hnodes : cp.nodeLister with
  | error err =>
    rw [hnodes] at h
    cases h
  | ok nodes =>
    rw [hnodes] at h
    dsimp only at h
    have hnot : ¬Search.Blocked (ipFamilyOfNode instanceID) nodes := by
      intro hblocked
      rw [Search.search_of_blocked (fun _ _ => ipFamilyOfNode_error) hblocked] at h
      cases h
    rw [Search.search_of_not_blocked hnot, findSome?_ipFamilyOfNode] at h
    cases hfind : nodes.find? (isNodeOf instanceID) with
    | none =>
      rw [hfind] at h
      cases h
      constructor
      · intro hmem
        cases hmem
      · rintro ⟨nodes', node, hok, hfind', -⟩
        rw [← Except.ok.inj hok, hfind] at hfind'
        cases hfind'
    | some node =>
      rw [hfind] at h
      cases h
      rw [mem_labelledIpFamily]
      constructor
      · intro hlabel
        exact ⟨nodes, node, rfl, hfind, hlabel⟩
      · rintro ⟨nodes', node', hok, hfind', hlabel⟩
        rw [← Except.ok.inj hok, hfind] at hfind'
        rw [Option.some.inj hfind']
        exact hlabel

theorem labelledIpv6Addresses_ok {vnic : Vnic} {addresses : List NodeAddress}
    (h : cp.labelledIpv6Addresses instanceID vnic = .ok addresses) :
    cp.LabelledIpv6 instanceID ∧
        ipv6AddressesFrom cp.parseIP (vnic.ipv6Addresses.headD "") vnic.ipv6Addresses =
          .ok addresses ∨
      ¬cp.LabelledIpv6 instanceID ∧ addresses = [] := by
  obtain ⟨families, hfamilies, h⟩ := bind_ok h
  split at h
  · next hmem => exact .inl ⟨(mem_getNodeIpFamily hfamilies).mp hmem, h⟩
  · next hmem => exact .inr ⟨mt (mem_getNodeIpFamily hfamilies).mpr hmem, (Except.ok.inj h).symm⟩

/-- Is the interface one of the secondary ones whose addresses are added? -/
def isBootVnic (ns : String) (vnic : Vnic) : Bool :=
  checkOpenShiftISCSIBootVolumeTagByVnic vnic ns && !vnic.isPrimary.getD false

theorem address_secondaryAddresses {ns : String} {vnics : List Vnic}
    {addresses : List (List NodeAddress)}
    (h : vnics.mapM (cp.secondaryAddresses ns) = .ok addresses) :
    addresses.flatten.map NodeAddress.address =
      (vnics.filter (isBootVnic ns)).flatMap fun vnic => printed cp.parseIP vnic.ipv4s := by
  induction vnics generalizing addresses with
  | nil =>
    cases h
    rfl
  | cons vnic vnics ih =>
    rw [mapM_cons] at h
    obtain ⟨first, hfirst, h⟩ := bind_ok h
    obtain ⟨rest, hrest, h⟩ := bind_ok h
    obtain rfl : first :: rest = addresses := Except.ok.inj h
    rw [flatten_cons, map_append, ih hrest]
    unfold secondaryAddresses at hfirst
    split at hfirst
    · next hboot =>
      have hkeep : isBootVnic ns vnic = true := by simpa [isBootVnic] using hboot
      rw [filter_cons_of_pos hkeep, flatMap_cons, address_ipv4Addresses hfirst]
    · next hboot =>
      have hskip : ¬isBootVnic ns vnic = true := by simpa [isBootVnic] using hboot
      rw [filter_cons_of_neg hskip, ← Except.ok.inj hfirst]
      rfl

end NetworkProvider

open NetworkProvider

/-- A successful call for an instance with a primary network interface. -/
structure Extraction (cp : NetworkProvider) (instanceID : String) where
  compartmentID : String
  vnic : Vnic
  addresses : List NodeAddress
  compartmentID_eq : cp.getCompartmentIDByInstanceID instanceID = .ok compartmentID
  vnic_eq : cp.getPrimaryVNICForInstance compartmentID instanceID = .ok (some vnic)
  addresses_eq : cp.extractNodeAddresses instanceID = .ok addresses

namespace Extraction

variable {cp : NetworkProvider} {instanceID : String} (x : Extraction cp instanceID)

def secondaryVnics : List Vnic :=
  match cp.getSecondaryVNICsForInstance x.compartmentID instanceID with
  | .ok secondaryVnics => secondaryVnics
  | .error _ => []

def tagNamespace (_ : Extraction cp instanceID) : String :=
  cp.getOpenShiftTagNamespaceByInstance instanceID

/-- All addresses of a network interface. -/
def ips (_ : Extraction cp instanceID) (vnic : Vnic) : List String :=
  printed cp.parseIP (vnic.ipv4s ++ vnic.ipv6Addresses)

/-- The addresses of all network interfaces of the instance. -/
def allIps : List String := x.ips x.vnic ++ x.secondaryVnics.flatMap x.ips

/-- The address is extracted, with some type. -/
def Has (ip : String) : Prop := ip ∈ x.addresses.map NodeAddress.address

/-- The addresses are complete and not repeated. To which interface an address belongs can only be
said if no other one has it. -/
structure Right : Prop where
  nodup : x.allIps.Nodup → x.addresses.Nodup
  privateIp : ∀ ip, x.vnic.privateIp = some ip → ip ≠ "" →
    ∃ address, cp.parseIP ip = some address ∧ ⟨.internalIP, address.string⟩ ∈ x.addresses
  publicIp : ∀ ip, x.vnic.publicIp = some ip → ip ≠ "" →
    ∃ address, cp.parseIP ip = some address ∧ ⟨.externalIP, address.string⟩ ∈ x.addresses
  ipv6 : cp.LabelledIpv6 instanceID → ∀ ip ∈ x.vnic.ipv6Addresses, ip ≠ "" →
    ∃ address, cp.parseIP ip = some address ∧ x.Has address.string
  labelled : ∀ ip ∈ printed cp.parseIP x.vnic.ipv6Addresses, x.allIps.count ip = 1 → x.Has ip →
    cp.LabelledIpv6 instanceID
  tagged : ∀ vnic ∈ x.secondaryVnics, ∀ ip ∈ x.ips vnic, x.allIps.count ip = 1 → x.Has ip →
    NetworkProvider.checkOpenShiftISCSIBootVolumeTagByVnic vnic x.tagNamespace

/-- The IPv6 addresses of the primary interface are added for a second time. -/
def AddsIpv6Twice : Prop :=
  x.tagNamespace ≠ "" ∧ x.secondaryVnics ≠ [] ∧ cp.LabelledIpv6 instanceID ∧
    ∃ ip ∈ x.vnic.ipv6Addresses, ip ≠ ""

/-! ## The blocks of the addresses -/

/-- What OpenShift adds, with the IPv6 addresses that are added before. -/
def AddsOpenShift (ipv6 openShift : List NodeAddress) : Prop :=
  openShift = [] ∧ (x.tagNamespace = "" ∨ x.secondaryVnics = []) ∨
    x.tagNamespace ≠ "" ∧ x.secondaryVnics ≠ [] ∧ ∃ secondary,
      x.secondaryVnics.mapM (cp.secondaryAddresses x.tagNamespace) = .ok secondary ∧
        openShift = secondary.flatten ++ ipv6

/-- The addresses in the order in which they are added. -/
structure Blocks (ipv4 ipv6 openShift : List NodeAddress) : Prop where
  ipv4_eq : ipv4Addresses cp.parseIP x.vnic = .ok ipv4
  ipv6_eq : cp.labelledIpv6Addresses instanceID x.vnic = .ok ipv6
  adds : x.AddsOpenShift ipv6 openShift
  addresses_eq : x.addresses = ipv4 ++ ipv6 ++ openShift

theorem addsOpenShift {openShift ipv6 : List NodeAddress}
    (h : cp.openShiftAddresses x.compartmentID instanceID x.vnic = .ok openShift)
    (hipv6 : cp.labelledIpv6Addresses instanceID x.vnic = .ok ipv6) :
    x.AddsOpenShift ipv6 openShift := by
  unfold openShiftAddresses at h
  unfold AddsOpenShift
  dsimp only at h
  split at h
  · next hns => exact .inl ⟨(Except.ok.inj h).symm, .inl hns⟩
  · next hns =>
    obtain ⟨vnics, hvnics, h⟩ := bind_ok h
    have hsecondary : x.secondaryVnics = vnics := by
      unfold secondaryVnics
      rw [hvnics]
    rw [hsecondary]
    split at h
    · next hnil => exact .inl ⟨(Except.ok.inj h).symm, .inr hnil⟩
    · next hne =>
      obtain ⟨secondary, hmap, h⟩ := bind_ok h
      obtain ⟨ipv6', hipv6', h⟩ := bind_ok h
      rw [hipv6] at hipv6'
      obtain rfl := Except.ok.inj hipv6'
      exact .inr ⟨hns, hne, secondary, hmap, (Except.ok.inj h).symm⟩

theorem exists_blocks : ∃ ipv4 ipv6 openShift, x.Blocks ipv4 ipv6 openShift := by
  have h := x.addresses_eq
  unfold extractNodeAddresses at h
  rw [x.compartmentID_eq, ok_bind, x.vnic_eq] at h
  dsimp only at h
  obtain ⟨ipv4, hipv4, h⟩ := bind_ok h
  obtain ⟨ipv6, hipv6, h⟩ := bind_ok h
  obtain ⟨openShift, hopenShift, h⟩ := bind_ok h
  exact ⟨ipv4, ipv6, openShift, hipv4, hipv6, x.addsOpenShift hopenShift hipv6,
    (Except.ok.inj h).symm⟩

variable {x} {ipv4 ipv6 openShift : List NodeAddress} {vnic : Vnic}

/-- The addresses of the interfaces that are tagged for the boot volume. -/
def bootIps (x : Extraction cp instanceID) : List String :=
  (x.secondaryVnics.filter (NetworkProvider.isBootVnic x.tagNamespace)).flatMap fun vnic =>
    printed cp.parseIP vnic.ipv4s

theorem ips_eq (vnic : Vnic) :
    x.ips vnic = printed cp.parseIP vnic.ipv4s ++ printed cp.parseIP vnic.ipv6Addresses :=
  printed_append _ _

theorem ipv4s_sublist_ips (vnic : Vnic) : (printed cp.parseIP vnic.ipv4s).Sublist (x.ips vnic) := by
  rw [ips_eq]
  exact sublist_append_left _ _

theorem bootIps_sublist_filter : x.bootIps.Sublist
    ((x.secondaryVnics.filter (isBootVnic x.tagNamespace)).flatMap x.ips) :=
  List.Sublist.flatMap_right _ fun vnic _ => ipv4s_sublist_ips vnic

theorem bootIps_sublist : x.bootIps.Sublist (x.secondaryVnics.flatMap x.ips) :=
  bootIps_sublist_filter.trans (filter_sublist.flatMap x.ips)

theorem count_bootIps (hvnic : vnic ∈ x.secondaryVnics)
    (hboot : ¬isBootVnic x.tagNamespace vnic) {ip : String} (hip : ip ∈ x.ips vnic)
    (hmem : ip ∈ x.bootIps) : 2 ≤ (x.secondaryVnics.flatMap x.ips).count ip := by
  let p := isBootVnic x.tagNamespace
  have hperm := (filter_append_perm p x.secondaryVnics).flatMap_right x.ips
  have htagged : 0 < ((x.secondaryVnics.filter p).flatMap x.ips).count ip :=
    count_pos_iff.mpr (bootIps_sublist_filter.subset hmem)
  have hother : 0 < ((x.secondaryVnics.filter fun v => !p v).flatMap x.ips).count ip := by
    have hfilter : vnic ∈ x.secondaryVnics.filter fun v => !p v :=
      mem_filter.mpr ⟨hvnic, by simpa using hboot⟩
    exact count_pos_iff.mpr (mem_flatMap.mpr ⟨vnic, hfilter, hip⟩)
  rw [← hperm.count_eq, flatMap_append, count_append]
  omega

namespace Blocks

theorem address_ipv6 (b : x.Blocks ipv4 ipv6 openShift) (h : cp.LabelledIpv6 instanceID) :
    ipv6.map NodeAddress.address = printed cp.parseIP x.vnic.ipv6Addresses := by
  rcases labelledIpv6Addresses_ok b.ipv6_eq with ⟨-, hfrom⟩ | ⟨hnot, -⟩
  · exact address_ipv6AddressesFrom hfrom
  · exact absurd h hnot

theorem ipv6_eq_nil (b : x.Blocks ipv4 ipv6 openShift) (h : ¬cp.LabelledIpv6 instanceID) :
    ipv6 = [] := by
  rcases labelledIpv6Addresses_ok b.ipv6_eq with ⟨hlabelled, -⟩ | ⟨-, hnil⟩
  · exact absurd hlabelled h
  · exact hnil

variable {ip : String}

theorem parses (b : x.Blocks ipv4 ipv6 openShift) (h : cp.LabelledIpv6 instanceID)
    (hip : ip ∈ x.vnic.ipv6Addresses) (hne : ip ≠ "") :
    ∃ address, cp.parseIP ip = some address := by
  rcases labelledIpv6Addresses_ok b.ipv6_eq with ⟨-, hfrom⟩ | ⟨hnot, -⟩
  · exact parses_of_ipv6AddressesFrom hfrom hip hne
  · exact absurd h hnot

theorem address_ipv6_sublist (b : x.Blocks ipv4 ipv6 openShift) :
    (ipv6.map NodeAddress.address).Sublist (printed cp.parseIP x.vnic.ipv6Addresses) := by
  by_cases h : cp.LabelledIpv6 instanceID
  · rw [b.address_ipv6 h]
  · rw [b.ipv6_eq_nil h]
    exact nil_sublist _

theorem address_primary_sublist (b : x.Blocks ipv4 ipv6 openShift) :
    ((ipv4 ++ ipv6).map NodeAddress.address).Sublist (x.ips x.vnic) := by
  rw [map_append, address_ipv4Addresses b.ipv4_eq, ips_eq]
  exact (List.Sublist.refl _).append b.address_ipv6_sublist

theorem ipv6_eq_nil_of_not (b : x.Blocks ipv4 ipv6 openShift) (hns : x.tagNamespace ≠ "")
    (hne : x.secondaryVnics ≠ []) (h : ¬x.AddsIpv6Twice) : ipv6 = [] := by
  by_cases hlabelled : cp.LabelledIpv6 instanceID
  · have hempty : ∀ ip ∈ x.vnic.ipv6Addresses, ip = "" := by
      intro ip hip
      by_contra hip'
      exact h ⟨hns, hne, hlabelled, ip, hip, hip'⟩
    refine map_eq_nil_iff.mp ((b.address_ipv6 hlabelled).trans ?_)
    refine filterMap_eq_nil_iff.mpr fun ip hip => ?_
    rw [if_pos (hempty ip hip)]
  · exact b.ipv6_eq_nil hlabelled

theorem address_openShift_sublist (b : x.Blocks ipv4 [] openShift) :
    (openShift.map NodeAddress.address).Sublist x.bootIps := by
  rcases b.adds with ⟨rfl, -⟩ | ⟨-, -, secondary, hmap, rfl⟩
  · exact nil_sublist _
  · rw [append_nil, address_secondaryAddresses hmap]
    exact List.Sublist.refl _

section

variable (b : x.Blocks ipv4 ipv6 openShift)

include b

theorem nodup (h : ¬x.AddsIpv6Twice) (hall : x.allIps.Nodup) :
    x.addresses.Nodup := by
  have hopenShift : (openShift.map NodeAddress.address).Sublist x.bootIps := by
    rcases b.adds with ⟨rfl, -⟩ | ⟨hns, hne, -⟩
    · exact nil_sublist _
    · obtain rfl := b.ipv6_eq_nil_of_not hns hne h
      exact b.address_openShift_sublist
  have hsublist : (x.addresses.map NodeAddress.address).Sublist x.allIps := by
    rw [b.addresses_eq, map_append]
    exact b.address_primary_sublist.append (hopenShift.trans bootIps_sublist)
  exact (hsublist.nodup hall).of_map

theorem not_nodup (h : x.AddsIpv6Twice) :
    ¬x.addresses.Nodup := by
  obtain ⟨hns, hne, hlabelled, ip, hip, hempty⟩ := h
  obtain ⟨address, hparse⟩ := b.parses hlabelled hip hempty
  have hmem : address.string ∈ ipv6.map NodeAddress.address := by
    rw [b.address_ipv6 hlabelled]
    exact mem_printed hip hempty hparse
  obtain ⟨nodeAddress, hipv6, -⟩ := mem_map.mp hmem
  rcases b.adds with ⟨-, hns' | hnil⟩ | ⟨-, -, secondary, -, hopenShift⟩
  · exact absurd hns' hns
  · exact absurd hnil hne
  · intro hnodup
    rw [b.addresses_eq, nodup_append'] at hnodup
    refine hnodup.2.2 (mem_append_right ipv4 hipv6) ?_
    rw [hopenShift]
    exact mem_append_right _ hipv6

theorem mem_of_has (h : x.Has ip) :
    ip ∈ printed cp.parseIP x.vnic.ipv4s ∨ ip ∈ ipv6.map NodeAddress.address ∨ ip ∈ x.bootIps := by
  unfold Has at h
  rw [b.addresses_eq, map_append, map_append, mem_append, mem_append,
    address_ipv4Addresses b.ipv4_eq] at h
  rcases h with (h | h) | h
  · exact .inl h
  · exact .inr (.inl h)
  · rcases b.adds with ⟨rfl, -⟩ | ⟨-, -, secondary, hmap, rfl⟩
    · cases h
    · rw [map_append, address_secondaryAddresses hmap] at h
      exact .inr (mem_append.mp h).symm

theorem labelled_of_has (hip : ip ∈ printed cp.parseIP x.vnic.ipv6Addresses)
    (hcount : x.allIps.count ip = 1) (h : x.Has ip) : cp.LabelledIpv6 instanceID := by
  by_contra hnot
  have hipv6 : 0 < (printed cp.parseIP x.vnic.ipv6Addresses).count ip := count_pos_iff.mpr hip
  rw [allIps, ips_eq, count_append, count_append] at hcount
  rcases b.mem_of_has h with hmem | hmem | hmem
  · have := count_pos_iff.mpr hmem
    omega
  · rw [b.ipv6_eq_nil hnot] at hmem
    cases hmem
  · have := count_pos_iff.mpr (bootIps_sublist.subset hmem)
    omega

theorem tagged_of_has {vnic : Vnic} (hvnic : vnic ∈ x.secondaryVnics) (hip : ip ∈ x.ips vnic)
    (hcount : x.allIps.count ip = 1) (h : x.Has ip) :
    checkOpenShiftISCSIBootVolumeTagByVnic vnic x.tagNamespace := by
  by_contra htag
  have hsecondary : 0 < (x.secondaryVnics.flatMap x.ips).count ip :=
    count_pos_iff.mpr (mem_flatMap.mpr ⟨vnic, hvnic, hip⟩)
  have hprimary : ip ∉ x.ips x.vnic := by
    intro hmem
    have := count_pos_iff.mpr hmem
    rw [allIps, count_append] at hcount
    omega
  rw [ips_eq, mem_append, not_or] at hprimary
  rcases b.mem_of_has h with hmem | hmem | hmem
  · exact hprimary.1 hmem
  · exact hprimary.2 (b.address_ipv6_sublist.subset hmem)
  · have hboot : ¬isBootVnic x.tagNamespace vnic := by
      intro hboot
      exact htag (Bool.and_eq_true_iff.mp hboot).1
    have := count_bootIps hvnic hboot hip hmem
    rw [allIps, count_append] at hcount
    omega

theorem mem_of_ipv4 {nodeAddress : NodeAddress} (h : nodeAddress ∈ ipv4) :
    nodeAddress ∈ x.addresses := by
  rw [b.addresses_eq, append_assoc]
  exact mem_append_left _ h

theorem privateIp (hip : x.vnic.privateIp = some ip) (hne : ip ≠ "") :
    ∃ address, cp.parseIP ip = some address ∧ ⟨.internalIP, address.string⟩ ∈ x.addresses := by
  obtain ⟨privateIps, publicIps, hprivate, -, rfl⟩ := ipv4Addresses_ok b.ipv4_eq
  rw [hip] at hprivate
  obtain ⟨address, hparse, hmem⟩ := mem_of_addressOf hprivate hne
  exact ⟨address, hparse, b.mem_of_ipv4 (mem_append_left _ hmem)⟩

theorem publicIp (hip : x.vnic.publicIp = some ip) (hne : ip ≠ "") :
    ∃ address, cp.parseIP ip = some address ∧ ⟨.externalIP, address.string⟩ ∈ x.addresses := by
  obtain ⟨privateIps, publicIps, -, hpublic, rfl⟩ := ipv4Addresses_ok b.ipv4_eq
  rw [hip] at hpublic
  obtain ⟨address, hparse, hmem⟩ := mem_of_addressOf hpublic hne
  exact ⟨address, hparse, b.mem_of_ipv4 (mem_append_right _ hmem)⟩

theorem has_ipv6 (h : cp.LabelledIpv6 instanceID) (hip : ip ∈ x.vnic.ipv6Addresses)
    (hne : ip ≠ "") :
    ∃ address, cp.parseIP ip = some address ∧ x.Has address.string := by
  obtain ⟨address, hparse⟩ := b.parses h hip hne
  refine ⟨address, hparse, ?_⟩
  have hmem := mem_printed hip hne hparse
  rw [← b.address_ipv6 h] at hmem
  unfold Has
  rw [b.addresses_eq, map_append, map_append]
  exact mem_append_left _ (mem_append_right _ hmem)

end

end Blocks

/-- The addresses are complete and, unless those of IPv6 are added twice, not repeated. -/
theorem right_iff (x : Extraction cp instanceID) :
    x.Right ↔ (x.allIps.Nodup → ¬x.AddsIpv6Twice) := by
  obtain ⟨ipv4, ipv6, openShift, b⟩ := x.exists_blocks
  constructor
  · intro h hall htwice
    exact b.not_nodup htwice (h.nodup hall)
  · intro h
    exact {
      nodup := fun hall => b.nodup (h hall) hall
      privateIp := fun ip hip hne => b.privateIp hip hne
      publicIp := fun ip hip hne => b.publicIp hip hne
      ipv6 := fun hlabelled ip hip hne => b.has_ipv6 hlabelled hip hne
      labelled := fun ip hip hcount hhas => b.labelled_of_has hip hcount hhas
      tagged := fun vnic hvnic ip hip hcount hhas => b.tagged_of_has hvnic hip hcount hhas }

/-- An instance of OpenShift whose node is labelled for IPv6, with a second network interface. -/
def openShiftWorker : NetworkProvider :=
  { NetworkProvider.empty with
    getInstance := fun id =>
      .ok ⟨id, "compartment", .running, "", some (.ofPairs [("openshift-tags", none)])⟩
    instanceCache := fun id => .ok (some ⟨id, "compartment", .running, "", none⟩)
    nodeLister := .ok [{ CloudProvider.worker with
      labels := .ofPairs [(ipv6NodeIPFamilyLabel, "true")] }]
    getPrimaryVNICForInstance := fun _ _ =>
      .ok (some { privateIp := some "10.0.0.2", ipv6Addresses := ["2001:db8::2"] })
    getSecondaryVNICsForInstance := fun _ _ => .ok [{ privateIp := some "10.0.1.2" }]
    parseIP := fun ip => some ⟨ip, ip ≠ "2001:db8::2"⟩ }

def openShiftExtraction : Extraction openShiftWorker CloudProvider.worker.providerID where
  compartmentID := "compartment"
  vnic := { privateIp := some "10.0.0.2", ipv6Addresses := ["2001:db8::2"] }
  addresses := [⟨.internalIP, "10.0.0.2"⟩, ⟨.externalIP, "2001:db8::2"⟩,
    ⟨.externalIP, "2001:db8::2"⟩]
  compartmentID_eq := rfl
  vnic_eq := rfl
  addresses_eq := rfl

theorem not_right_openShiftExtraction : ¬openShiftExtraction.Right := by
  intro h
  have hdistinct : openShiftExtraction.allIps.Nodup := by decide
  exact absurd (h.nodup hdistinct) (by decide)

end Extraction

end OciCcm.Instances
