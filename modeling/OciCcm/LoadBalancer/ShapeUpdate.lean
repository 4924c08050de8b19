import OciCcm.LoadBalancer.Provisioning

/-! # Updating the shape of a load balancer

The controller reads the shape of the load balancer, mixes it with the
annotations and sends the result back if it differs. One such round is enough.
The fields that the code reads through pointers are options here, and reading a
nil pointer is an error.
-/

namespace OciCcm.LoadBalancer

open Go Kubernetes

/-! ## Reading and writing the shape -/

structure ShapeDetails where
  minimumBandwidthInMbps : Option Int := none
  maximumBandwidthInMbps : Option Int := none
deriving DecidableEq, Repr

structure GenericShapeDetails where
  minimumBandwidthInMbps : Option Int := none
  maximumBandwidthInMbps : Option Int := none
deriving DecidableEq, Repr

/-- What a `GenericLoadBalancer` says of the shape. -/
structure ShapedLoadBalancer where
  id : Option String
  shapeName : Option String
  shapeDetails : Option GenericShapeDetails := none
deriving DecidableEq, Repr

structure GenericUpdateLoadBalancerShapeDetails where
  shapeName : String
  shapeDetails : Option GenericShapeDetails := none
deriving DecidableEq, Repr

def genericShapeDetailsToShapeDetails : Option GenericShapeDetails → Option ShapeDetails
  | none => none
  | some details => some ⟨details.minimumBandwidthInMbps, details.maximumBandwidthInMbps⟩

/-- A load balancer that is read never lacks the details; they may be empty. -/
def shapeDetailsToGenericShapeDetails : Option ShapeDetails → Option GenericShapeDetails
  | none => some {}
  | some shapeDetails =>
    some ⟨shapeDetails.minimumBandwidthInMbps, shapeDetails.maximumBandwidthInMbps⟩

/-- What a request for another shape has, and what the service keeps of it. -/
structure UpdateLoadBalancerShapeDetails where
  shapeName : String
  shapeDetails : Option ShapeDetails := none
deriving DecidableEq, Repr

/-- The service, which stores the shapes it is sent under the ids of the load balancers. It may
refuse a request, and the work request of one that it takes may fail. -/
structure ShapeClient where
  stored : GoMap UpdateLoadBalancerShapeDetails := ∅
  takes : String → UpdateLoadBalancerShapeDetails → Except String String
  awaitWorkRequest : String → Except String Unit

def GenericUpdateLoadBalancerShapeDetails.request
    (details : GenericUpdateLoadBalancerShapeDetails) : UpdateLoadBalancerShapeDetails where
  shapeName := details.shapeName
  shapeDetails := genericShapeDetailsToShapeDetails details.shapeDetails

def ShapeClient.updateLoadBalancerShape (client : ShapeClient) (lbID : String)
    (details : GenericUpdateLoadBalancerShapeDetails) : Except String String × ShapeClient :=
  match client.takes lbID details.request with
  | .ok wrID => (.ok wrID, { client with stored := client.stored.insert lbID details.request })
  | .error err => (.error err, client)

/-- The load balancer as it is read back. -/
def UpdateLoadBalancerShapeDetails.readBack (shape : UpdateLoadBalancerShapeDetails)
    (lbID : String) : ShapedLoadBalancer :=
  ⟨some lbID, some shape.shapeName, shapeDetailsToGenericShapeDetails shape.shapeDetails⟩

def ShapeClient.getLoadBalancer (client : ShapeClient) (lbID : String) :
    Option ShapedLoadBalancer :=
  (client.stored.lookup lbID).map (·.readBack lbID)

/-- `*p`. -/
def deref {α : Type} : Option α → Except String α
  | some a => .ok a
  | none => .error "runtime error: invalid memory address or nil pointer dereference"

/-- What `getLBShape` reads of an existing load balancer. -/
def ShapedLoadBalancer.existingShape (lb : ShapedLoadBalancer) : Except String ExistingShape := do
  let shapeName ← deref lb.shapeName
  if shapeName = flexible then
    let shapeDetails ← deref lb.shapeDetails
    let minimumBandwidthInMbps ← deref shapeDetails.minimumBandwidthInMbps
    let maximumBandwidthInMbps ← deref shapeDetails.maximumBandwidthInMbps
    .ok { shapeName, minimumBandwidthInMbps, maximumBandwidthInMbps }
  else .ok { shapeName, minimumBandwidthInMbps := 0, maximumBandwidthInMbps := 0 }

/-- `getLBShape` on the load balancer itself, which is not read for a network load balancer. -/
def getLBShapeOf (svc : Service) (existingLB : ShapedLoadBalancer) : Except String Shape :=
  if getLoadBalancerType svc = .nlb then getLBShape svc none
  else do
    let existingShape ← existingLB.existingShape
    getLBShape svc (some existingShape)

def hasLoadbalancerShapeChanged (spec : Shape) (lb : ShapedLoadBalancer) : Except String Bool := do
  if (← deref lb.shapeName) ≠ spec.shape then .ok true
  else match lb.shapeDetails, spec.flexMin, spec.flexMax with
    | some shapeDetails, some flexMin, some flexMax => do
      if (← deref shapeDetails.minimumBandwidthInMbps) ≠ flexMin then .ok true
      else if (← deref shapeDetails.maximumBandwidthInMbps) ≠ flexMax then .ok true
      else .ok false
    | _, _, _ => .ok false

def Shape.details (spec : Shape) : GenericUpdateLoadBalancerShapeDetails where
  shapeName := spec.shape
  shapeDetails := if spec.shape = flexible then some ⟨spec.flexMin, spec.flexMax⟩ else none

/-- The error, and the service afterwards. -/
def updateLoadbalancerShape (client : ShapeClient) (lb : ShapedLoadBalancer) (spec : Shape) :
    Except String Unit × ShapeClient :=
  match deref lb.shapeName, deref lb.id with
  | .error err, _ => (.error err, client)
  | .ok shapeName, lbID =>
    if shapeName = flexible ∧ spec.shape ≠ flexible then
      (.error ("cannot convert LB shape from flexible to fixed shape " ++ spec.shape), client)
    else match lbID with
      | .error err => (.error err, client)
      | .ok lbID =>
        match client.updateLoadBalancerShape lbID spec.details with
        | (.error err, client) =>
          (.error (wrap "failed to create UpdateLoadBalancerShape request" err), client)
        | (.ok wrID, client) => (client.awaitWorkRequest wrID, client)

/-! ## Bandwidths -/

/-- Bandwidths within the limits of the service. -/
structure Bandwidths where
  min : Int
  max : Int
  lower : 10 ≤ min
  ordered : min ≤ max
  upper : max ≤ 8192

def Bandwidths.shape (bandwidths : Bandwidths) : Shape :=
  ⟨flexible, some bandwidths.min, some bandwidths.max⟩

theorem Bandwidths.shape_injective {b b' : Bandwidths} (h : b.shape = b'.shape) : b = b' := by
  cases b
  cases b'
  cases h
  rfl

def Bandwidths.clamp (x y : Int) : Bandwidths where
  min := (clampBandwidths x y).1
  max := (clampBandwidths x y).2
  lower := by grind [clampBandwidths]
  ordered := by grind [clampBandwidths]
  upper := by grind [clampBandwidths]

theorem Bandwidths.clamp_eq {x y x' y' : Int} (hx : x' = x ∨ x' = (clamp x y).min)
    (hy : y' = y ∨ y' = (clamp x y).max) : clamp x' y' = clamp x y := by
  have h : clampBandwidths x' y' = clampBandwidths x y := by
    unfold clamp clampBandwidths at *
    grind
  unfold clamp
  congr 1 <;> rw [h]

theorem parseFlexibleShapeBandwidth_toString {n : Nat} (hn : n < 2 ^ 63) (name : String) :
    parseFlexibleShapeBandwidth (toString n) name = .ok (n : Int) := by
  have hdigits {c : Char} (hc : c ∈ (toString n).toList) : c.isDigit := isDigit_of_mem_toString hc
  have hfilter : (toString n).toList.filter Char.isAlphanum = (toString n).toList :=
    List.filter_eq_self.mpr fun c hc => by simp [Char.isAlphanum, hdigits hc]
  have hsuffix {suffix : String} (hs : 's' ∈ suffix.toList) :
      ¬hasSuffix (toString n) suffix = true := by
    intro h
    have hmem := (of_decide_eq_true h : suffix.toList <:+ _).subset hs
    exact absurd (hdigits hmem) (by decide)
  unfold parseFlexibleShapeBandwidth
  rw [hfilter, String.ofList_toList]
  dsimp only
  rw [if_neg (hsuffix (by decide)), if_neg (hsuffix (by decide)), parseInt_toString hn]

/-! ## The annotations -/

/-- The bandwidth of an annotation, or else of the existing load balancer. -/
def bandwidth (svc : Service) (name existing : String) : Except String Int :=
  parseFlexibleShapeBandwidth ((svc.annotations.lookup name).getD existing) name

variable {svc : Service} {name existing : String} {existingMin existingMax : String}

theorem bandwidth_empty (h : (svc.annotations.lookup name).getD existing = "") {n : Int} :
    bandwidth svc name existing ≠ .ok n := by
  unfold bandwidth
  rw [h]
  exact fun h => by cases h

theorem flexibleShape_ok {shape : Shape} :
    flexibleShape svc existingMin existingMax = .ok shape ↔
      ∃ x y, bandwidth svc serviceAnnotationLoadBalancerShapeFlexMin existingMin = .ok x ∧
        bandwidth svc serviceAnnotationLoadBalancerShapeFlexMax existingMax = .ok y ∧
        shape = (Bandwidths.clamp x y).shape := by
  unfold flexibleShape
  dsimp only
  constructor
  · intro h
    split at h
    · cases h
    · obtain ⟨x, hx, h⟩ := bind_ok h
      obtain ⟨y, hy, h⟩ := bind_ok h
      exact ⟨x, y, hx, hy, (Except.ok.inj h).symm⟩
  · rintro ⟨x, y, hx, hy, rfl⟩
    rw [if_neg (not_or_intro (fun h => bandwidth_empty h hx) fun h => bandwidth_empty h hy)]
    unfold bandwidth at hx hy
    rw [hx, hy]
    rfl

/-- With a bandwidth of the result on the load balancer, the next run reads the annotation again
or that bandwidth. -/
theorem bandwidth_again {x n : Int} (hx : bandwidth svc name existing = .ok x) (hlower : 10 ≤ n)
    (hupper : n ≤ 8192) :
    ∃ x', bandwidth svc name (toString n) = .ok x' ∧ (x' = x ∨ x' = n) := by
  unfold bandwidth at hx ⊢
  cases hlookup : svc.annotations.lookup name with
  | some value =>
    rw [hlookup] at hx
    exact ⟨x, hx, .inl rfl⟩
  | none =>
    obtain ⟨n, rfl⟩ := Int.eq_ofNat_of_zero_le (by omega : 0 ≤ n)
    exact ⟨n, parseFlexibleShapeBandwidth_toString (by omega) name, .inr rfl⟩

theorem flexibleShape_again {bandwidths : Bandwidths}
    (h : flexibleShape svc existingMin existingMax = .ok bandwidths.shape) :
    flexibleShape svc (toString bandwidths.min) (toString bandwidths.max) =
      .ok bandwidths.shape := by
  obtain ⟨x, y, hx, hy, heq⟩ := flexibleShape_ok.mp h
  obtain rfl := Bandwidths.shape_injective heq
  have hlower := (Bandwidths.clamp x y).lower
  have hordered := (Bandwidths.clamp x y).ordered
  have hupper := (Bandwidths.clamp x y).upper
  obtain ⟨x', hx', hxx'⟩ := bandwidth_again hx hlower (hordered.trans hupper)
  obtain ⟨y', hy', hyy'⟩ := bandwidth_again hy (hlower.trans hordered) hupper
  refine flexibleShape_ok.mpr ⟨x', y', hx', hy', ?_⟩
  rw [Bandwidths.clamp_eq hxx' hyy']

/-! ## One round is enough -/

section Rounds

variable {client client' : ShapeClient} {svc : Service} {lb lb' : ShapedLoadBalancer}
  {shape : Shape} {existing : ExistingShape} {lbID : String}

theorem getLBShape_of_fixed (htype : getLoadBalancerType svc = .lb)
    (hname : existing.shapeName ≠ flexible) :
    getLBShape svc (some existing) =
      let shape := (svc.annotations.lookup serviceAnnotationLoadBalancerShape).getD lbDefaultShape
      if toLower shape ≠ flexible then .ok { shape } else flexibleShape svc "" "" := by
  unfold getLBShape
  rw [htype, if_neg (by decide)]
  dsimp only
  rw [if_neg hname]

theorem getLBShape_of_flexible (htype : getLoadBalancerType svc = .lb)
    (hname : existing.shapeName = flexible) :
    getLBShape svc (some existing) =
      let shape := (svc.annotations.lookup serviceAnnotationLoadBalancerShape).getD flexible
      if toLower shape ≠ flexible then .ok { shape }
      else flexibleShape svc (toString existing.minimumBandwidthInMbps)
        (toString existing.maximumBandwidthInMbps) := by
  unfold getLBShape
  rw [htype, if_neg (by decide)]
  dsimp only
  rw [if_pos hname]

/-- The shape that is wanted: a fixed one without bandwidths, or a flexible one with bandwidths
within the limits. A flexible one is asked for by the annotation or was there before. -/
inductive WantedShape (svc : Service) : Shape → Prop
  | fixed {shape : String} : shape ≠ flexible → WantedShape svc { shape }
  | clamped (bandwidths : Bandwidths) {existingMin existingMax : String} :
    toLower ((svc.annotations.lookup serviceAnnotationLoadBalancerShape).getD flexible) =
      flexible →
    flexibleShape svc existingMin existingMax = .ok bandwidths.shape →
    WantedShape svc bandwidths.shape

theorem WantedShape.of_flexibleShape {existingMin existingMax : String}
    (hlower : toLower ((svc.annotations.lookup serviceAnnotationLoadBalancerShape).getD flexible) =
      flexible)
    (h : flexibleShape svc existingMin existingMax = .ok shape) : WantedShape svc shape := by
  obtain ⟨x, y, -, -, rfl⟩ := flexibleShape_ok.mp h
  exact .clamped _ hlower h

theorem ne_flexible_of_toLower {shape : String} (h : toLower shape ≠ flexible) :
    shape ≠ flexible := by
  rintro rfl
  exact h (by decide)

theorem wantedShape_of_getLBShape (htype : getLoadBalancerType svc = .lb)
    (h : getLBShape svc (some existing) = .ok shape) : WantedShape svc shape := by
  by_cases hname : existing.shapeName = flexible
  · rw [getLBShape_of_flexible htype hname] at h
    dsimp only at h
    split at h
    · next hlower =>
        cases h
        exact .fixed (ne_flexible_of_toLower hlower)
    · next hlower => exact .of_flexibleShape (not_not.mp hlower) h
  · rw [getLBShape_of_fixed htype hname] at h
    dsimp only at h
    split at h
    · next hlower =>
        cases h
        exact .fixed (ne_flexible_of_toLower hlower)
    · next hlower =>
        cases hlookup : svc.annotations.lookup serviceAnnotationLoadBalancerShape with
        | none =>
          rw [hlookup] at hlower
          exact absurd (by decide) hlower
        | some value =>
          rw [hlookup] at hlower
          refine .of_flexibleShape ?_ h
          rw [hlookup]
          exact not_not.mp hlower

/-- An update that succeeds was allowed, and its request is what the service has now. -/
theorem updateLoadbalancerShape_ok
    (h : updateLoadbalancerShape client lb shape = (.ok (), client')) :
    ∃ lbID name, lb.id = some lbID ∧ lb.shapeName = some name ∧
      (name = flexible → shape.shape = flexible) ∧
      client'.stored = client.stored.insert lbID shape.details.request := by
  unfold updateLoadbalancerShape ShapeClient.updateLoadBalancerShape at h
  rcases hname : lb.shapeName with _ | name
  · simp [hname, deref] at h
  · rcases hid : lb.id with _ | lbID
    · simp [hname, hid, deref] at h
      split at h <;> cases h
    · simp only [hname, hid, deref] at h
      split at h
      · cases h
      · next hkeep =>
          split at h
          · cases h
          · next heq =>
              split at heq
              · obtain ⟨-, rfl⟩ := Prod.mk.inj heq
                obtain ⟨-, rfl⟩ := Prod.mk.inj h
                exact ⟨lbID, name, rfl, rfl, fun hflexible =>
                  not_not.mp fun hne => hkeep ⟨hflexible, hne⟩, rfl⟩
              · cases heq

theorem getLoadBalancer_of_stored {shape : UpdateLoadBalancerShapeDetails}
    (h : client'.stored = client.stored.insert lbID shape) :
    client'.getLoadBalancer lbID = some (shape.readBack lbID) := by
  rw [ShapeClient.getLoadBalancer, h, AList.lookup_insert]
  rfl

theorem existingShape_of_fixed {name : String} (hlb : lb.shapeName = some name)
    (hname : name ≠ flexible) : lb.existingShape = .ok ⟨name, 0, 0⟩ := by
  unfold ShapedLoadBalancer.existingShape
  rw [hlb]
  exact if_neg hname

theorem existingShape_of_flexible {min max : Int} (hlb : lb.shapeName = some flexible)
    (hdetails : lb.shapeDetails = some ⟨some min, some max⟩) :
    lb.existingShape = .ok ⟨flexible, min, max⟩ := by
  unfold ShapedLoadBalancer.existingShape
  rw [hlb, hdetails]
  simp [deref, Bind.bind, Except.bind]

theorem getLBShapeOf_of_existingShape (htype : getLoadBalancerType svc = .lb)
    (hlb : lb.existingShape = .ok existing) :
    getLBShapeOf svc lb = getLBShape svc (some existing) := by
  unfold getLBShapeOf
  rw [htype, if_neg (by decide), hlb, ok_bind]

theorem getLBShapeOf_ok (htype : getLoadBalancerType svc = .lb)
    (h : getLBShapeOf svc lb = .ok shape) :
    ∃ existing, lb.existingShape = .ok existing ∧ getLBShape svc (some existing) = .ok shape := by
  unfold getLBShapeOf at h
  rw [htype, if_neg (by decide)] at h
  obtain ⟨existing, hlb, h⟩ := bind_ok h
  exact ⟨existing, hlb, h⟩

theorem getLBShapeOf_eq_of_fixed {name name' : String} (htype : getLoadBalancerType svc = .lb)
    (hlb : lb.shapeName = some name) (hname : name ≠ flexible) (hlb' : lb'.shapeName = some name')
    (hname' : name' ≠ flexible) :
    getLBShapeOf svc lb' = getLBShapeOf svc lb := by
  rw [getLBShapeOf_of_existingShape htype (existingShape_of_fixed hlb' hname'),
    getLBShapeOf_of_existingShape htype (existingShape_of_fixed hlb hname),
    getLBShape_of_fixed htype hname', getLBShape_of_fixed htype hname]

theorem shapeName_readBack (bandwidths : Bandwidths) (lbID : String) :
    (bandwidths.shape.details.request.readBack lbID).shapeName = some flexible := rfl

theorem shapeDetails_request (bandwidths : Bandwidths) :
    bandwidths.shape.details.request.shapeDetails =
      some ⟨some bandwidths.min, some bandwidths.max⟩ := by
  unfold GenericUpdateLoadBalancerShapeDetails.request Shape.details
  rw [if_pos (by rfl)]
  rfl

theorem shapeDetails_readBack (bandwidths : Bandwidths) (lbID : String) :
    (bandwidths.shape.details.request.readBack lbID).shapeDetails =
      some ⟨some bandwidths.min, some bandwidths.max⟩ := by
  unfold UpdateLoadBalancerShapeDetails.readBack
  rw [shapeDetails_request]
  rfl

/-- The shape that is wanted of the updated load balancer. A fixed shape does not depend on the
bandwidths there, and those of a flexible one are kept. -/
theorem getLBShapeOf_readBack (htype : getLoadBalancerType svc = .lb)
    (hshape : getLBShapeOf svc lb = .ok shape)
    (hupdate : updateLoadbalancerShape client lb shape = (.ok (), client')) (lbID : String) :
    getLBShapeOf svc (shape.details.request.readBack lbID) = .ok shape := by
  obtain ⟨-, name, -, hname, hkeep, -⟩ := updateLoadbalancerShape_ok hupdate
  obtain ⟨existing, -, hexisting⟩ := getLBShapeOf_ok htype hshape
  cases wantedShape_of_getLBShape htype hexisting with
  | fixed hfixed =>
    rw [← hshape]
    exact getLBShapeOf_eq_of_fixed htype hname (fun h => hfixed (hkeep h)) rfl hfixed
  | clamped bandwidths hlower hflexible =>
    have hread := existingShape_of_flexible (shapeName_readBack bandwidths lbID)
      (shapeDetails_readBack bandwidths lbID)
    rw [getLBShapeOf_of_existingShape htype hread, getLBShape_of_flexible htype rfl]
    dsimp only
    rw [if_neg (not_not.mpr hlower)]
    exact flexibleShape_again hflexible

theorem hasLoadbalancerShapeChanged_readBack (hwanted : WantedShape svc shape) (lbID : String) :
    hasLoadbalancerShapeChanged shape (shape.details.request.readBack lbID) = .ok false := by
  unfold hasLoadbalancerShapeChanged
  cases hwanted with
  | fixed hfixed =>
    simp [deref, Bind.bind, Except.bind, UpdateLoadBalancerShapeDetails.readBack,
      GenericUpdateLoadBalancerShapeDetails.request, Shape.details]
  | clamped bandwidths =>
    rw [shapeName_readBack, shapeDetails_readBack]
    simp [deref, Bind.bind, Except.bind, Bandwidths.shape]

/-- After a successful update the load balancer that the service has stored is given the same shape
again and there is nothing to change. The bandwidths that it was sent are within the limits. -/
theorem shape_settled (htype : getLoadBalancerType svc = .lb)
    (hshape : getLBShapeOf svc lb = .ok shape)
    (hupdate : updateLoadbalancerShape client lb shape = (.ok (), client')) :
    ∃ lbID sent lb', lb.id = some lbID ∧ client'.stored = client.stored.insert lbID sent ∧
      client'.getLoadBalancer lbID = some lb' ∧ getLBShapeOf svc lb' = .ok shape ∧
      hasLoadbalancerShapeChanged shape lb' = .ok false ∧
      (shape.shape = flexible → ∃ min max, sent.shapeDetails = some ⟨some min, some max⟩ ∧
        10 ≤ min ∧ min ≤ max ∧ max ≤ 8192) := by
  obtain ⟨lbID, -, hid, -, -, hstored⟩ := updateLoadbalancerShape_ok hupdate
  obtain ⟨existing, -, hexisting⟩ := getLBShapeOf_ok htype hshape
  have hwanted := wantedShape_of_getLBShape htype hexisting
  refine ⟨lbID, shape.details.request, shape.details.request.readBack lbID, hid, hstored,
    getLoadBalancer_of_stored hstored, getLBShapeOf_readBack htype hshape hupdate lbID,
    hasLoadbalancerShapeChanged_readBack hwanted lbID, fun hflexible => ?_⟩
  cases hwanted with
  | fixed hfixed => exact absurd hflexible hfixed
  | clamped bandwidths =>
    exact ⟨bandwidths.min, bandwidths.max, shapeDetails_request bandwidths, bandwidths.lower,
      bandwidths.ordered, bandwidths.upper⟩

end Rounds

/-- A service that only limits the maximum of a load balancer that was made flexible by hand. -/
def limitedService : Service where
  annotations := .ofPairs [(serviceAnnotationLoadBalancerShapeFlexMax, "20 Mbps")]

def flexibleLoadBalancer : ShapedLoadBalancer where
  id := some "ocid1.loadbalancer.a"
  shapeName := some flexible
  shapeDetails := some ⟨some 50, some 100⟩

/-- A service without load balancers, that takes every request. -/
def acceptingClient : ShapeClient where
  takes _ _ := .ok "ocid1.workrequest.a"
  awaitWorkRequest _ := .ok ()

/-- The maximum is raised to the minimum again, which is kept. -/
theorem limitedService_shape_settled :
    getLBShapeOf limitedService flexibleLoadBalancer = .ok ⟨flexible, some 50, some 50⟩ ∧
      ∃ lbID lb', flexibleLoadBalancer.id = some lbID ∧
        (updateLoadbalancerShape acceptingClient flexibleLoadBalancer
          ⟨flexible, some 50, some 50⟩).2.getLoadBalancer lbID = some lb' ∧
        getLBShapeOf limitedService lb' = .ok ⟨flexible, some 50, some 50⟩ := by
  have hshape : getLBShapeOf limitedService flexibleLoadBalancer =
      .ok ⟨flexible, some 50, some 50⟩ := by decide +kernel
  have hupdate : updateLoadbalancerShape acceptingClient flexibleLoadBalancer
      ⟨flexible, some 50, some 50⟩ = (.ok (), _) := rfl
  obtain ⟨lbID, _, lb', hid, -, hread, hagain, -⟩ := shape_settled (by decide) hshape hupdate
  exact ⟨hshape, lbID, lb', hid, hread, hagain⟩

end OciCcm.LoadBalancer
