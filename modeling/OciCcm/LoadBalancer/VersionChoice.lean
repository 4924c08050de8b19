import OciCcm.LoadBalancer.IpVersions

/-! # Consistency of the chosen IP versions

The IP versions of the endpoint and of the listeners are chosen by one and the
same rule, from two different lists of subnets. This file states the rule on IP
families, shows that the code follows it wherever it does not panic, and says
when the two choices fit together and to the subnets.
-/

namespace OciCcm.LoadBalancer

open Go Kubernetes List

/-! ## What the subnets offer -/

/-- The IP families contained in an IP version. -/
def IpVersion.families : IpVersion → List IPFamily
  | .ipv4 => [.ipv4]
  | .ipv6 => [.ipv6]
  | .ipv4AndIPv6 => [.ipv4, .ipv6]

/-- Does the subnet have an address block of the family? A missing IPv4 block is written as
`<null>`. -/
def Subnet.Offers (subnet : Subnet) : IPFamily → Prop
  | .ipv4 => ∃ block ∈ subnet.cidrBlock, block ≠ "" ∧ ¬contains block "null"
  | .ipv6 => (∃ blocks ∈ subnet.ipv6CidrBlocks, blocks ≠ []) ∨
      ∃ block ∈ subnet.ipv6CidrBlock, block ≠ ""

/-- Does the code count the subnet for the family? It takes an empty IPv4 block for one. -/
def Subnet.Counts (subnet : Subnet) (family : IPFamily) : Prop :=
  subnetSupports subnet (.ofFamily family) = .ok true

instance (subnet : Subnet) : (family : IPFamily) → Decidable (subnet.Offers family)
  | .ipv4 => inferInstanceAs (Decidable (∃ block ∈ subnet.cidrBlock, _))
  | .ipv6 => inferInstanceAs (Decidable (_ ∨ _))

instance (subnet : Subnet) (family : IPFamily) : Decidable (subnet.Counts family) :=
  match h : subnetSupports subnet (.ofFamily family) with
  | .ok true => isTrue h
  | .ok false => isFalse (by rw [Subnet.Counts, h]; exact fun heq => by cases heq)
  | .error _ => isFalse (by rw [Subnet.Counts, h]; exact fun heq => by cases heq)

abbrev Offered (subnets : List Subnet) (family : IPFamily) : Prop :=
  ∃ subnet ∈ subnets, subnet.Offers family

abbrev Counted (subnets : List Subnet) (family : IPFamily) : Prop :=
  ∃ subnet ∈ subnets, subnet.Counts family

/-- Can the IPv6 blocks be read? A subnet with an empty list of blocks and no single block is
looked at only behind one that has a block. -/
def Readable : List Subnet → Prop
  | [] => True
  | subnet :: subnets => subnet.Offers .ipv6 ∨
      (¬(subnet.ipv6CidrBlock = none ∧ subnet.ipv6CidrBlocks = some []) ∧ Readable subnets)

instance Readable.decidable : (subnets : List Subnet) → Decidable (Readable subnets)
  | [] => inferInstanceAs (Decidable True)
  | _ :: subnets =>
    have := Readable.decidable subnets
    inferInstanceAs (Decidable (_ ∨ _))

/-- The texts of panics. -/
abbrev IsPanic (err : String) : Prop := hasPrefix err "runtime error: "

section Subnets

variable {subnet : Subnet} {subnets : List Subnet} {family : IPFamily}

theorem exists_subnetSupports_ipv4 (subnet : Subnet) :
    ∃ supports, subnetSupports subnet .ipv4 = .ok supports := by
  obtain ⟨id, cidrBlock, ipv6CidrBlock, ipv6CidrBlocks⟩ := subnet
  cases cidrBlock with
  | none => exact ⟨false, rfl⟩
  | some block => exact ⟨_, rfl⟩

theorem subnetSupports_ipv6 (subnet : Subnet) :
    subnetSupports subnet .ipv6 =
      if subnet.Offers .ipv6 then .ok true
      else if subnet.ipv6CidrBlock = none ∧ subnet.ipv6CidrBlocks = some [] then
        .error "runtime error: invalid memory address or nil pointer dereference"
      else .ok false := by
  obtain ⟨id, cidrBlock, ipv6CidrBlock, ipv6CidrBlocks⟩ := subnet
  cases ipv6CidrBlock with
  | none =>
    cases ipv6CidrBlocks with
    | none => simp [subnetSupports, Subnet.Offers]
    | some blocks => cases blocks <;> simp [subnetSupports, Subnet.Offers]
  | some block =>
    cases ipv6CidrBlocks with
    | none => by_cases h : block = "" <;> simp [subnetSupports, Subnet.Offers, h]
    | some blocks =>
      cases blocks with
      | nil => by_cases h : block = "" <;> simp [subnetSupports, Subnet.Offers, h]
      | cons b bs => simp [subnetSupports, Subnet.Offers]

theorem counts_ipv6 : subnet.Counts .ipv6 ↔ subnet.Offers .ipv6 := by
  unfold Subnet.Counts IpVersion.ofFamily
  dsimp only
  rw [subnetSupports_ipv6]
  split
  · next h => simp [h]
  · next h => split <;> simp [h]

theorem counted_ipv6 : Counted subnets .ipv6 ↔ Offered subnets .ipv6 := by
  unfold Counted Offered
  simp only [counts_ipv6]

theorem counted_cons {family : IPFamily} :
    Counted (subnet :: subnets) family ↔ subnet.Counts family ∨ Counted subnets family := by
  simp [Counted]

theorem subnetSupports_of_not_counts (hread : family = .ipv6 → Readable (subnet :: subnets))
    (hcounts : ¬subnet.Counts family) :
    subnetSupports subnet (.ofFamily family) = .ok false ∧
      (family = .ipv6 → Readable subnets) := by
  cases family with
  | ipv4 =>
    obtain ⟨supports, hsupports⟩ := exists_subnetSupports_ipv4 subnet
    cases supports with
    | true => exact absurd hsupports hcounts
    | false => exact ⟨hsupports, fun h => by cases h⟩
  | ipv6 =>
    have hoffers := mt counts_ipv6.mpr hcounts
    obtain ⟨hblocks, hread⟩ := (hread rfl).resolve_left hoffers
    refine ⟨?_, fun _ => hread⟩
    show subnetSupports subnet .ipv6 = .ok false
    rw [subnetSupports_ipv6, if_neg hoffers, if_neg hblocks]

theorem check_go (hread : family = .ipv6 → Readable subnets) (err : Option String) :
    ∃ err', checkSubnetIpFamilyCompatibility.go (.ofFamily family) (subnets.map some) err =
        .ok err' ∧
      (err' = none ↔ Counted subnets family ∨ (subnets = [] ∧ err = none)) := by
  induction subnets generalizing err with
  | nil => exact ⟨err, rfl, by simp [Counted]⟩
  | cons subnet subnets ih =>
    rw [map_cons, checkSubnetIpFamilyCompatibility.go]
    by_cases hcounts : subnet.Counts family
    · rw [hcounts]
      exact ⟨none, rfl, by simp [counted_cons, hcounts]⟩
    · obtain ⟨hsupports, hread⟩ := subnetSupports_of_not_counts hread hcounts
      rw [hsupports]
      obtain ⟨err', hgo, herr⟩ := ih hread (some ("subnet with id " ++ subnet.id ++
        " does not have an " ++ (if IpVersion.ofFamily family = .ipv6 then "ipv6" else "ipv4") ++
        " cidr block"))
      refine ⟨err', hgo, herr.trans ?_⟩
      simp [counted_cons, hcounts]

theorem check_ipv6_go_error (hread : ¬Readable subnets) (err : Option String) :
    checkSubnetIpFamilyCompatibility.go .ipv6 (subnets.map some) err =
      .error "runtime error: invalid memory address or nil pointer dereference" := by
  induction subnets generalizing err with
  | nil => exact absurd trivial hread
  | cons subnet subnets ih =>
    rw [Readable, not_or, not_and_or, not_not] at hread
    obtain ⟨hoffers, hread⟩ := hread
    rw [map_cons, checkSubnetIpFamilyCompatibility.go, subnetSupports_ipv6, if_neg hoffers]
    by_cases hblocks : subnet.ipv6CidrBlock = none ∧ subnet.ipv6CidrBlocks = some []
    · rw [if_pos hblocks]
      rfl
    · rw [if_neg hblocks]
      exact ih (hread.resolve_left hblocks) _

end Subnets

/-! ## The rule -/

/-- How a choice ends. -/
inductive Choice where
  | panics
  | fails
  | chosen (families : List IPFamily)

/-- The rule of both choices: the first family alone, both families or none, or those families
that the subnets have. Whatever the policy, the IPv6 blocks are read. -/
def choose (policy : IPFamilyPolicy) (families : List IPFamily) (subnets : List Subnet) : Choice :=
  if ¬Readable subnets then .panics
  else match policy, families with
    | .singleStack, [] => .panics
    | .singleStack, family :: _ => if Counted subnets family then .chosen [family] else .fails
    | .requireDualStack, _ =>
      if Counted subnets .ipv6 ∧ Counted subnets .ipv4 then .chosen [.ipv4, .ipv6] else .fails
    | .preferDualStack, _ =>
      if Counted subnets .ipv4 ∨ Counted subnets .ipv6 then
        .chosen ([.ipv4, .ipv6].filter fun family => Counted subnets family)
      else .fails

/-- A result ends as the choice says, with the chosen families. -/
def Follows {α : Type} (families : α → List IPFamily) (result : Except String α) : Choice → Prop
  | .panics => ∃ err, result = .error err ∧ IsPanic err
  | .fails => ∃ err, result = .error err ∧ ¬IsPanic err
  | .chosen fs => ∃ a, result = .ok a ∧ families a = fs

section Rule

variable {subnets : List Subnet} {policy : IPFamilyPolicy} {families : List IPFamily}

theorem not_isPanic_wrap (name err : String) :
    ¬IsPanic (wrap ("subnet does not have " ++ name ++ " CIDR blocks") err) := by
  unfold IsPanic hasPrefix wrap
  simp [String.toList_append]

theorem exists_checks (hne : subnets ≠ []) (hread : Readable subnets) :
    ∃ err6 err4, checkSubnetIpFamilyCompatibility (subnets.map some) .ipv6 = .ok err6 ∧
      checkSubnetIpFamilyCompatibility (subnets.map some) .ipv4 = .ok err4 ∧
      (err6 = none ↔ Counted subnets .ipv6) ∧ (err4 = none ↔ Counted subnets .ipv4) := by
  obtain ⟨err6, hcheck6, herr6⟩ := check_go (fun _ : IPFamily.ipv6 = .ipv6 => hread) none
  obtain ⟨err4, hcheck4, herr4⟩ := check_go (fun h : IPFamily.ipv4 = .ipv6 => absurd h (by decide))
    (none : Option String)
  exact ⟨err6, err4, hcheck6, hcheck4, by simpa [hne] using herr6, by simpa [hne] using herr4⟩

theorem requireCidrBlocks_follows {α : Type} {families : α → List IPFamily} {supported : Prop}
    [Decidable supported] {err : Option String} {next : Except String α} {choice : Choice}
    (name : String) (herr : err = none ↔ supported) (hnext : Follows families next choice) :
    Follows families (requireCidrBlocks name err >>= fun _ => next)
      (if supported then choice else .fails) := by
  cases err with
  | none =>
    rw [if_pos (herr.mp rfl)]
    exact hnext
  | some err =>
    have hsupported : ¬supported := mt herr.mpr (by simp)
    rw [if_neg hsupported]
    exact ⟨_, rfl, not_isPanic_wrap name err⟩

theorem preferred_eq {err4 err6 : Option String} (herr4 : err4 = none ↔ Counted subnets .ipv4)
    (herr6 : err6 = none ↔ Counted subnets .ipv6) :
    (if Counted subnets .ipv4 ∨ Counted subnets .ipv6 then
      Choice.chosen ([.ipv4, .ipv6].filter fun family => Counted subnets family)
    else .fails) =
      match err4, err6 with
      | none, none => .chosen [.ipv4, .ipv6]
      | none, some _ => .chosen [.ipv4]
      | some _, none => .chosen [.ipv6]
      | some _, some _ => .fails := by
  have hsome {err : String} : ¬some err = none := by simp
  cases err4 with
  | none =>
    cases err6 with
    | none => simp [herr4.mp rfl, herr6.mp rfl]
    | some err6 => simp [herr4.mp rfl, mt herr6.mpr hsome]
  | some err4 =>
    cases err6 with
    | none => simp [mt herr4.mpr hsome, herr6.mp rfl]
    | some err6 => simp [mt herr4.mpr hsome, mt herr6.mpr hsome]

/-- What both functions do after the checks, for the values of the three possible choices. -/
def pick {α : Type} (ipv4 ipv6 both : α) (policy : IPFamilyPolicy) (families : List IPFamily)
    (err6 err4 : Option String) : Except String α :=
  match policy, families with
  | .singleStack, [] => .error "runtime error: index out of range [0] with length 0"
  | .singleStack, .ipv4 :: _ => requireCidrBlocks "IPv4" err4 >>= fun _ => .ok ipv4
  | .singleStack, .ipv6 :: _ => requireCidrBlocks "IPv6" err6 >>= fun _ => .ok ipv6
  | .requireDualStack, _ => requireCidrBlocks "IPv6" err6 >>= fun _ =>
    requireCidrBlocks "IPv4" err4 >>= fun _ => .ok both
  | .preferDualStack, _ =>
    match err4, err6 with
    | none, none => .ok both
    | none, some _ => .ok ipv4
    | some _, none => .ok ipv6
    | some _, some _ =>
      .error "subnet does not have IPv4 or IPv6 cidr, can't create loadbalancer"

theorem getLbEndpointIpVersion_eq (subnets : List (Option Subnet)) :
    getLbEndpointIpVersion (families.map .ofFamily) policy subnets = (do
      let err6 ← checkSubnetIpFamilyCompatibility subnets .ipv6
      let err4 ← checkSubnetIpFamilyCompatibility subnets .ipv4
      pick .ipv4 .ipv6 .ipv4AndIPv6 policy families err6 err4) := by
  refine bind_congr fun err6 => bind_congr fun err4 => ?_
  cases policy with
  | singleStack =>
    cases families with
    | nil => rfl
    | cons family families => cases family <;> rfl
  | requireDualStack => rfl
  | preferDualStack => cases err4 <;> cases err6 <;> rfl

theorem getLbListenerBackendSetIpVersion_eq (subnets : List (Option Subnet)) :
    getLbListenerBackendSetIpVersion (families.map .ofFamily) policy subnets = (do
      let err6 ← checkSubnetIpFamilyCompatibility subnets .ipv6
      let err4 ← checkSubnetIpFamilyCompatibility subnets .ipv4
      pick [.ipv4] [.ipv6] [.ipv4, .ipv6] policy families err6 err4) := by
  refine bind_congr fun err6 => bind_congr fun err4 => ?_
  cases policy with
  | singleStack =>
    cases families with
    | nil => rfl
    | cons family families => cases family <;> rfl
  | requireDualStack => rfl
  | preferDualStack => cases err4 <;> cases err6 <;> rfl

/-- The checks and the choice after them follow the rule. -/
theorem pick_follows {α : Type} {choiceFamilies : α → List IPFamily} {ipv4 ipv6 both : α}
    (h4 : choiceFamilies ipv4 = [.ipv4]) (h6 : choiceFamilies ipv6 = [.ipv6])
    (hboth : choiceFamilies both = [.ipv4, .ipv6]) (hne : subnets ≠ []) :
    Follows choiceFamilies (do
        let err6 ← checkSubnetIpFamilyCompatibility (subnets.map some) .ipv6
        let err4 ← checkSubnetIpFamilyCompatibility (subnets.map some) .ipv4
        pick ipv4 ipv6 both policy families err6 err4)
      (choose policy families subnets) := by
  unfold choose
  by_cases hread : Readable subnets
  · obtain ⟨err6, err4, hcheck6, hcheck4, herr6, herr4⟩ := exists_checks hne hread
    rw [hcheck6, hcheck4, if_neg (not_not.mpr hread)]
    cases policy with
    | singleStack =>
      cases families with
      | nil => exact ⟨_, rfl, by decide⟩
      | cons family families =>
        cases family with
        | ipv4 => exact requireCidrBlocks_follows "IPv4" herr4 ⟨ipv4, rfl, h4⟩
        | ipv6 => exact requireCidrBlocks_follows "IPv6" herr6 ⟨ipv6, rfl, h6⟩
    | requireDualStack =>
      dsimp only
      rw [ite_and]
      exact requireCidrBlocks_follows "IPv6" herr6
        (requireCidrBlocks_follows "IPv4" herr4 ⟨both, rfl, hboth⟩)
    | preferDualStack =>
      dsimp only
      rw [preferred_eq herr4 herr6]
      cases err4 with
      | none =>
        cases err6 with
        | none => exact ⟨both, rfl, hboth⟩
        | some err6 => exact ⟨ipv4, rfl, h4⟩
      | some err4 =>
        cases err6 with
        | none => exact ⟨ipv6, rfl, h6⟩
        | some err6 => exact ⟨_, rfl, by decide⟩
  · rw [if_pos hread, checkSubnetIpFamilyCompatibility, check_ipv6_go_error hread]
    exact ⟨_, rfl, by decide⟩

theorem getLbEndpointIpVersion_follows (hne : subnets ≠ []) :
    Follows IpVersion.families
      (getLbEndpointIpVersion (families.map .ofFamily) policy (subnets.map some))
      (choose policy families subnets) := by
  rw [getLbEndpointIpVersion_eq]
  exact pick_follows rfl rfl rfl hne

theorem getLbListenerBackendSetIpVersion_follows (hne : subnets ≠ []) :
    Follows (List.flatMap IpVersion.families)
      (getLbListenerBackendSetIpVersion (families.map .ofFamily) policy (subnets.map some))
      (choose policy families subnets) := by
  rw [getLbListenerBackendSetIpVersion_eq]
  exact pick_follows rfl rfl rfl hne

end Rule

/-! ## Consistency -/

/-- The chosen versions fit together and to the subnets. -/
structure Consistent (lbSubnets nodeSubnets : List Subnet) (v : IpVersions) : Prop where
  contained : ∀ version ∈ v.listenerBackendIpVersion,
    version.families ⊆ v.lbEndpointIpVersion.families
  endpoint : ∀ family ∈ v.lbEndpointIpVersion.families, Offered lbSubnets family
  listeners : ∀ version ∈ v.listenerBackendIpVersion, ∀ family ∈ version.families,
    Offered nodeSubnets family
  nonempty : v.listenerBackendIpVersion ≠ []

/-- An error that is no panic, or consistent versions. -/
def Acceptable (lbSubnets nodeSubnets : List Subnet) : Except String IpVersions → Prop
  | .error err => ¬IsPanic err
  | .ok v => Consistent lbSubnets nodeSubnets v

def ChoosesConsistently (lbSubnets nodeSubnets : List Subnet) (svc : Service) : Prop :=
  Acceptable lbSubnets nodeSubnets
    (getOciIpVersions (lbSubnets.map some) (nodeSubnets.map some) svc)

/-- Families of the endpoint and of the listeners that fit together and to the subnets. -/
def FamiliesFit (lbSubnets nodeSubnets : List Subnet) (endpoint listeners : List IPFamily) :
    Prop :=
  listeners ⊆ endpoint ∧ (∀ family ∈ endpoint, Offered lbSubnets family) ∧
    (∀ family ∈ listeners, Offered nodeSubnets family) ∧ listeners ≠ []

/-- Chosen families that fit. A load balancer takes IPv4 for its listeners, whatever was chosen,
and an IPv6 endpoint alone is refused. -/
def ChosenFit (lbSubnets nodeSubnets : List Subnet) (type : LBType)
    (endpoint listeners : List IPFamily) : Prop :=
  if type = .lb then endpoint = [.ipv6] ∨ FamiliesFit lbSubnets nodeSubnets endpoint [.ipv4]
  else FamiliesFit lbSubnets nodeSubnets endpoint listeners

/-- Two choices that fit. The choice for the listeners is made after that for the endpoint. -/
def ChoicesFit (lbSubnets nodeSubnets : List Subnet) (type : LBType) : Choice → Choice → Prop
  | .panics, _ => False
  | .fails, _ => True
  | .chosen _, .panics => False
  | .chosen _, .fails => True
  | .chosen endpoint, .chosen listeners =>
    ChosenFit lbSubnets nodeSubnets type endpoint listeners

/-- The subnets for which a service gets consistent IP versions. -/
def SubnetsFit (lbSubnets nodeSubnets : List Subnet) (svc : Service) : Prop :=
  Readable lbSubnets ∧
    match getIpFamilyPolicy svc, svc.ipFamilies with
    | .singleStack, [] => False
    | .singleStack, family :: _ =>
      Counted lbSubnets family → Readable nodeSubnets ∧
        (Counted nodeSubnets family → Offered lbSubnets family ∧ Offered nodeSubnets family)
    | .requireDualStack, _ =>
      Counted lbSubnets .ipv6 ∧ Counted lbSubnets .ipv4 → Readable nodeSubnets ∧
        (Counted nodeSubnets .ipv6 ∧ Counted nodeSubnets .ipv4 →
          Offered lbSubnets .ipv4 ∧ Offered nodeSubnets .ipv4)
    | .preferDualStack, _ =>
      Counted lbSubnets .ipv4 ∨ Counted lbSubnets .ipv6 → Readable nodeSubnets ∧
        (Counted nodeSubnets .ipv4 ∨ Counted nodeSubnets .ipv6 →
          if getLoadBalancerType svc = .lb then
            Counted lbSubnets .ipv4 → Offered lbSubnets .ipv4 ∧ Offered nodeSubnets .ipv4
          else ∀ family, (Counted lbSubnets family → Offered lbSubnets family) ∧
            (Counted nodeSubnets family → Counted lbSubnets family ∧ Offered nodeSubnets family))

section Consistency

variable {lbSubnets nodeSubnets : List Subnet} {svc : Service} {type : LBType}

theorem IpVersion.families_ne_nil (version : IpVersion) : version.families ≠ [] := by
  cases version <;> simp [IpVersion.families]

theorem consistent_iff {v : IpVersions} :
    Consistent lbSubnets nodeSubnets v ↔
      FamiliesFit lbSubnets nodeSubnets v.lbEndpointIpVersion.families
        (v.listenerBackendIpVersion.flatMap IpVersion.families) := by
  constructor
  · rintro ⟨hcontained, hendpoint, hlisteners, hne⟩
    refine ⟨?_, hendpoint, ?_, ?_⟩
    · intro family hfamily
      obtain ⟨version, hversion, hfamily⟩ := mem_flatMap.mp hfamily
      exact hcontained version hversion hfamily
    · intro family hfamily
      obtain ⟨version, hversion, hfamily⟩ := mem_flatMap.mp hfamily
      exact hlisteners version hversion family hfamily
    · obtain ⟨version, hversion⟩ := exists_mem_of_ne_nil _ hne
      intro hnil
      exact version.families_ne_nil (flatMap_eq_nil_iff.mp hnil version hversion)
  · rintro ⟨hcontained, hendpoint, hlisteners, hne⟩
    refine ⟨?_, hendpoint, ?_, ?_⟩
    · intro version hversion family hfamily
      exact hcontained (mem_flatMap.mpr ⟨version, hversion, hfamily⟩)
    · intro version hversion family hfamily
      exact hlisteners family (mem_flatMap.mpr ⟨version, hversion, hfamily⟩)
    · intro hnil
      exact hne (by rw [hnil, flatMap_nil])

theorem acceptable_lbaasIpVersion {version : IpVersion} {versions : List IpVersion} :
    Acceptable lbSubnets nodeSubnets (lbaasIpVersion svc version versions >>= fun versions => .ok
        ⟨getIpFamilies svc, getIpFamilyPolicy svc, version, versions⟩) ↔
      ChosenFit lbSubnets nodeSubnets (getLoadBalancerType svc) version.families
        (versions.flatMap IpVersion.families) := by
  unfold lbaasIpVersion ChosenFit
  by_cases hlb : getLoadBalancerType svc = .lb
  · rw [if_pos hlb, if_pos hlb]
    cases version with
    | ipv6 =>
      have hrefused : ¬IsPanic "SingleStack IPv6 is not supported for OCI LBaaS" := by decide
      exact iff_of_true hrefused (.inl rfl)
    | ipv4 => exact consistent_iff.trans (by simp [IpVersion.families])
    | ipv4AndIPv6 => exact consistent_iff.trans (by simp [IpVersion.families])
  · rw [if_neg hlb, if_neg hlb]
    exact consistent_iff

/-- Consistency is a matter of the two choices. -/
theorem choosesConsistently_iff_choicesFit (hlb : lbSubnets ≠ []) (hnode : nodeSubnets ≠ []) :
    ChoosesConsistently lbSubnets nodeSubnets svc ↔
      ChoicesFit lbSubnets nodeSubnets (getLoadBalancerType svc)
        (choose (getIpFamilyPolicy svc) svc.ipFamilies lbSubnets)
        (choose (getIpFamilyPolicy svc) svc.ipFamilies nodeSubnets) := by
  have hendpoint : Follows _ (getLbEndpointIpVersion (getIpFamilies svc) (getIpFamilyPolicy svc)
    (lbSubnets.map some)) _ := getLbEndpointIpVersion_follows hlb
  have hlisteners : Follows _ (getLbListenerBackendSetIpVersion (getIpFamilies svc)
    (getIpFamilyPolicy svc) (nodeSubnets.map some)) _ :=
    getLbListenerBackendSetIpVersion_follows hnode
  generalize choose (getIpFamilyPolicy svc) svc.ipFamilies lbSubnets = endpoint
    at hendpoint ⊢
  generalize choose (getIpFamilyPolicy svc) svc.ipFamilies nodeSubnets = listeners
    at hlisteners ⊢
  unfold ChoosesConsistently getOciIpVersions
  dsimp only
  cases endpoint with
  | panics =>
    obtain ⟨err, herr, hpanic⟩ := hendpoint
    rw [herr, error_bind]
    exact iff_of_false (not_not.mpr hpanic) id
  | fails =>
    obtain ⟨err, herr, hpanic⟩ := hendpoint
    rw [herr, error_bind]
    exact iff_of_true hpanic trivial
  | chosen endpoint =>
    obtain ⟨version, hversion, rfl⟩ := hendpoint
    rw [hversion, ok_bind]
    cases listeners with
    | panics =>
      obtain ⟨err, herr, hpanic⟩ := hlisteners
      rw [herr, error_bind]
      exact iff_of_false (not_not.mpr hpanic) id
    | fails =>
      obtain ⟨err, herr, hpanic⟩ := hlisteners
      rw [herr, error_bind]
      exact iff_of_true hpanic trivial
    | chosen listeners =>
      obtain ⟨versions, hversions, rfl⟩ := hlisteners
      rw [hversions, ok_bind]
      exact acceptable_lbaasIpVersion

theorem choicesFit_ite {readLb readNode chooseLb chooseNode : Prop} [Decidable readLb]
    [Decidable readNode] [Decidable chooseLb] [Decidable chooseNode]
    {endpoint listeners : List IPFamily} :
    ChoicesFit lbSubnets nodeSubnets type
        (if ¬readLb then .panics else if chooseLb then .chosen endpoint else .fails)
        (if ¬readNode then .panics else if chooseNode then .chosen listeners else .fails) ↔
      readLb ∧ (chooseLb → readNode ∧
        (chooseNode → ChosenFit lbSubnets nodeSubnets type endpoint listeners)) := by
  by_cases hreadLb : readLb
  · by_cases hchooseLb : chooseLb
    · by_cases hreadNode : readNode
      · by_cases hchooseNode : chooseNode
        · simp [hreadLb, hchooseLb, hreadNode, hchooseNode, ChoicesFit]
        · simp [hreadLb, hchooseLb, hreadNode, hchooseNode, ChoicesFit]
      · simp [hreadLb, hchooseLb, hreadNode, ChoicesFit]
    · simp [hreadLb, hchooseLb, ChoicesFit]
  · simp [hreadLb, ChoicesFit]

theorem chosenFit_single {family : IPFamily} (hlb : Counted lbSubnets family)
    (hnode : Counted nodeSubnets family) :
    ChosenFit lbSubnets nodeSubnets type [family] [family] ↔
      Offered lbSubnets family ∧ Offered nodeSubnets family := by
  cases family with
  | ipv4 => by_cases htype : type = .lb <;> simp [ChosenFit, FamiliesFit, htype]
  | ipv6 =>
    have hlb := counted_ipv6.mp hlb
    have hnode := counted_ipv6.mp hnode
    by_cases htype : type = .lb <;> simp [ChosenFit, FamiliesFit, htype, hlb, hnode]

theorem chosenFit_dual (hlb : Counted lbSubnets .ipv6) (hnode : Counted nodeSubnets .ipv6) :
    ChosenFit lbSubnets nodeSubnets type [.ipv4, .ipv6] [.ipv4, .ipv6] ↔
      Offered lbSubnets .ipv4 ∧ Offered nodeSubnets .ipv4 := by
  have hlb := counted_ipv6.mp hlb
  have hnode := counted_ipv6.mp hnode
  by_cases htype : type = .lb <;> simp [ChosenFit, FamiliesFit, htype, hlb, hnode]

theorem mem_filter_counted {subnets : List Subnet} {family : IPFamily} :
    family ∈ [.ipv4, .ipv6].filter (fun family => Counted subnets family) ↔
      Counted subnets family := by
  cases family <;> simp

theorem chosenFit_preferred (hlb : Counted lbSubnets .ipv4 ∨ Counted lbSubnets .ipv6)
    (hnode : Counted nodeSubnets .ipv4 ∨ Counted nodeSubnets .ipv6) :
    ChosenFit lbSubnets nodeSubnets type
        ([.ipv4, .ipv6].filter fun family => Counted lbSubnets family)
        ([.ipv4, .ipv6].filter fun family => Counted nodeSubnets family) ↔
      if type = .lb then
        Counted lbSubnets .ipv4 → Offered lbSubnets .ipv4 ∧ Offered nodeSubnets .ipv4
      else ∀ family, (Counted lbSubnets family → Offered lbSubnets family) ∧
        (Counted nodeSubnets family → Counted lbSubnets family ∧ Offered nodeSubnets family) := by
  unfold ChosenFit FamiliesFit
  by_cases htype : type = .lb
  · rw [if_pos htype, if_pos htype]
    by_cases h4 : Counted lbSubnets .ipv4
    · have hipv6 : Counted lbSubnets .ipv6 → Offered lbSubnets .ipv6 := counted_ipv6.mp
      by_cases h6 : Counted lbSubnets .ipv6 <;> simp_all
    · have h6 := hlb.resolve_left h4
      simp [h4, h6]
  · rw [if_neg htype, if_neg htype]
    have hne : ([.ipv4, .ipv6].filter fun family => Counted nodeSubnets family) ≠ [] := by
      rcases hnode with hnode | hnode
      · exact ne_nil_of_mem (mem_filter_counted.mpr hnode)
      · exact ne_nil_of_mem (mem_filter_counted.mpr hnode)
    simp only [subset_def, mem_filter_counted, hne, ne_eq, not_false_eq_true, and_true]
    constructor
    · rintro ⟨hcontained, hendpoint, hlisteners⟩ family
      exact ⟨hendpoint family, fun h => ⟨hcontained h, hlisteners family h⟩⟩
    · intro h
      exact ⟨fun hfamily => ((h _).2 hfamily).1, fun family => (h family).1,
        fun family hfamily => ((h family).2 hfamily).2⟩

/-- Consistent IP versions are chosen exactly if the subnets fit. -/
theorem choosesConsistently_iff (hlb : lbSubnets ≠ []) (hnode : nodeSubnets ≠ []) :
    ChoosesConsistently lbSubnets nodeSubnets svc ↔ SubnetsFit lbSubnets nodeSubnets svc := by
  rw [choosesConsistently_iff_choicesFit hlb hnode]
  unfold choose SubnetsFit
  cases getIpFamilyPolicy svc with
  | singleStack =>
    cases svc.ipFamilies with
    | nil => by_cases hread : Readable lbSubnets <;> simp [hread, ChoicesFit]
    | cons family families =>
      refine choicesFit_ite.trans (and_congr_right fun _ => imp_congr_right fun hlb =>
        and_congr_right fun _ => imp_congr_right fun hnode => ?_)
      exact chosenFit_single hlb hnode
  | requireDualStack =>
    refine choicesFit_ite.trans (and_congr_right fun _ => imp_congr_right fun hlb =>
      and_congr_right fun _ => imp_congr_right fun hnode => ?_)
    exact chosenFit_dual hlb.1 hnode.1
  | preferDualStack =>
    refine choicesFit_ite.trans (and_congr_right fun _ => imp_congr_right fun hlb =>
      and_congr_right fun _ => imp_congr_right fun hnode => ?_)
    exact chosenFit_preferred hlb hnode

end Consistency

def endpointSubnet : Subnet := { id := "ocid1.subnet.lb", cidrBlock := some "10.0.0.0/24" }

def nodeSubnet : Subnet :=
  { id := "ocid1.subnet.node", cidrBlock := some "10.0.1.0/24",
    ipv6CidrBlocks := some ["2001:db8::/64"] }

/-- A service of a network load balancer that prefers both IP families. -/
def preferringService : Service where
  name := "web"
  annotations := .ofPairs [(serviceAnnotationLoadBalancerType, "nlb")]
  ipFamilies := [.ipv4, .ipv6]
  ipFamilyPolicy := some .preferDualStack

/-- In dual-stack subnets everything fits. -/
theorem choosesConsistently_nodeSubnet :
    ChoosesConsistently [nodeSubnet] [nodeSubnet] preferringService := by
  refine (choosesConsistently_iff (by simp) (by simp)).mpr ⟨by decide, ?_⟩
  intro _
  refine ⟨by decide, fun _ => ?_⟩
  rw [if_neg (by decide)]
  intro family
  cases family <;> decide

/-- A network load balancer in an IPv4 subnet gets an IPv4 endpoint. With dual-stack nodes its
listeners are IPv6, too. -/
theorem not_choosesConsistently_ipv4Endpoint :
    getOciIpVersions [some endpointSubnet] [some nodeSubnet] preferringService =
      .ok ⟨[.ipv4, .ipv6], .preferDualStack, .ipv4, [.ipv4, .ipv6]⟩ ∧
    ¬ChoosesConsistently [endpointSubnet] [nodeSubnet] preferringService := by
  have heval : getOciIpVersions [some endpointSubnet] [some nodeSubnet] preferringService =
      .ok ⟨[.ipv4, .ipv6], .preferDualStack, .ipv4, [.ipv4, .ipv6]⟩ := by decide
  refine ⟨heval, fun h => ?_⟩
  unfold ChoosesConsistently at h
  rw [map_singleton, map_singleton, heval] at h
  exact absurd (h.contained .ipv6 (by decide)) (by decide)

end OciCcm.LoadBalancer
