import OciCcm.LoadBalancer.Annotations
import OciCcm.Tags

/-! # Visibility, shape, addresses and tags of a load balancer

The settings of a service that concern the load balancer as a whole and not its
listeners and backend sets.
-/

namespace OciCcm.LoadBalancer

open Go Kubernetes Tags

variable {RuleSet : Type}

/-! ## Annotation names -/

def serviceAnnotationLoadBalancerInternal :=
  "service.beta.kubernetes.io/oci-load-balancer-internal"
def serviceAnnotationNetworkLoadBalancerInternal :=
  "oci-network-load-balancer.oraclecloud.com/internal"
def serviceAnnotationLoadBalancerShape := "service.beta.kubernetes.io/oci-load-balancer-shape"
def serviceAnnotationLoadBalancerShapeFlexMin :=
  "service.beta.kubernetes.io/oci-load-balancer-shape-flex-min"
def serviceAnnotationLoadBalancerShapeFlexMax :=
  "service.beta.kubernetes.io/oci-load-balancer-shape-flex-max"
def serviceAnnotationLoadBalancerInitialDefinedTagsOverride :=
  "oci.oraclecloud.com/initial-defined-tags-override"
def serviceAnnotationLoadBalancerInitialFreeformTagsOverride :=
  "oci.oraclecloud.com/initial-freeform-tags-override"
def serviceAnnotationNetworkLoadBalancerDefinedTags :=
  "oci-network-load-balancer.oraclecloud.com/defined-tags"
def serviceAnnotationNetworkLoadBalancerFreeformTags :=
  "oci-network-load-balancer.oraclecloud.com/freeform-tags"
def serviceAnnotationNetworkLoadBalancerInitialDefinedTagsOverride :=
  "oci-network-load-balancer.oraclecloud.com/initial-defined-tags-override"
def serviceAnnotationNetworkLoadBalancerInitialFreeformTagsOverride :=
  "oci-network-load-balancer.oraclecloud.com/initial-freeform-tags-override"
def serviceAnnotationIngressIpMode := "oci.oraclecloud.com/ingress-ip-mode"
def serviceAnnotationNetworkLoadBalancerAssignedPrivateIpV4 :=
  "oci-network-load-balancer.oraclecloud.com/assigned-private-ipv4"
def serviceAnnotationNetworkLoadBalancerAssignedIpV6 :=
  "oci-network-load-balancer.oraclecloud.com/assigned-ipv6"

/-- The functions besides those of `Library` that are called for these settings. `validIP` tells
whether `net.ParseIP` accepts a string. -/
structure ProvisioningLibrary (RuleSet : Type) extends Library RuleSet where
  validIP : String → Bool
  unmarshalFreeformTags : String → Except String (GoMap String)
  unmarshalDefinedTags : String → Except String DefinedTags

/-- A library for worked cases: every address with a dot or a colon is valid, and of the tags it
decodes the empty object. -/
def ProvisioningLibrary.simple : ProvisioningLibrary Unit where
  toLibrary := .simple
  validIP s := (Library.simple.ipFamilyOfString s).isSome
  unmarshalFreeformTags s := if s = "\x7b\x7d" then .ok ∅ else .error "unexpected value"
  unmarshalDefinedTags s := if s = "\x7b\x7d" then .ok ∅ else .error "unexpected value"

/-! ## Visibility and addresses -/

def isInternalLB (svc : Service) : Except String Bool :=
  let annotationString := byType svc serviceAnnotationNetworkLoadBalancerInternal
    serviceAnnotationLoadBalancerInternal
  match svc.annotations.lookup annotationString with
  | none => .ok false
  | some annotationValue =>
    match parseBool annotationValue with
    | some internal => .ok internal
    | none => .error (wrap ("invalid value: " ++ annotationValue ++ " provided for annotation: "
        ++ annotationString)
        ("strconv.ParseBool: parsing " ++ annotationValue.quote ++ ": invalid syntax"))

/-- A reserved address, which only a public load balancer may have. -/
def getLoadBalancerIP (lib : ProvisioningLibrary RuleSet) (svc : Service) : Except String String :=
  let ipAddress := svc.loadBalancerIP
  if ipAddress = "" then .ok ""
  else if !lib.validIP ipAddress then
    .error ("invalid value " ++ ipAddress.quote ++ " provided for LoadBalancerIP")
  else do
    let isInternal ← isInternalLB svc
    if isInternal then
      .error "invalid service: cannot create a private load balancer with Reserved IP"
    else .ok ipAddress

inductive LoadBalancerIPMode where
  | proxy
  | vip
deriving DecidableEq, Repr

def getIngressIpMode (service : Service) : Except String (Option LoadBalancerIPMode) :=
  match service.annotations.lookup serviceAnnotationIngressIpMode with
  | none => .ok none
  | some ipMode =>
    if toLower ipMode = "proxy" then .ok (some .proxy)
    else if toLower ipMode = "vip" then .ok (some .vip)
    else .error "IpMode can only be set as Proxy or VIP"

/-- The two addresses that are assigned to a network load balancer. -/
def getAssignedPrivateIP (svc : Service) : Except String (Option String × Option String) :=
  let ipV4Adress := svc.annotations.lookup serviceAnnotationNetworkLoadBalancerAssignedPrivateIpV4
  let ipV6Adress := svc.annotations.lookup serviceAnnotationNetworkLoadBalancerAssignedIpV6
  if (ipV4Adress.isSome ∨ ipV6Adress.isSome) ∧ getLoadBalancerType svc ≠ .nlb then
    .error ("Private IP assignment via annoations "
      ++ serviceAnnotationNetworkLoadBalancerAssignedPrivateIpV4 ++ " & "
      ++ serviceAnnotationNetworkLoadBalancerAssignedIpV6
      ++ " is supported only in OCI Network Loadbalancer. Set "
      ++ serviceAnnotationLoadBalancerType ++ " to nlb")
  else .ok (ipV4Adress, ipV6Adress)

/-! ## Shape -/

def lbDefaultShape := "100Mbps"
def flexible := "flexible"

/-- A shape, with its bandwidths if it is flexible. -/
structure Shape where
  shape : String
  flexMin : Option Int := none
  flexMax : Option Int := none
deriving DecidableEq, Repr

/-- The shape of a load balancer that exists; the bandwidths are read if it is flexible. -/
structure ExistingShape where
  shapeName : String
  minimumBandwidthInMbps : Int
  maximumBandwidthInMbps : Int

def parseFlexibleShapeBandwidth (shape annotation : String) : Except String Int :=
  let processedString := String.ofList (shape.toList.filter Char.isAlphanum)
  let processedString :=
    if hasSuffix processedString "Mbps" then trimSuffix processedString "Mbps"
    else if hasSuffix processedString "mbps" then trimSuffix processedString "mbps"
    else processedString
  match parseInt processedString with
  | some parsedIntFlexibleShape => .ok parsedIntFlexibleShape
  | none => .error ("invalid format for " ++ annotation ++ " annotation : " ++ shape)

/-- The bandwidths within the limits of the service, the smaller one first. -/
def clampBandwidths (flexShapeMinMbps flexShapeMaxMbps : Int) : Int × Int :=
  let flexShapeMinMbps := min (max flexShapeMinMbps 10) 8192
  let flexShapeMaxMbps := min (max flexShapeMaxMbps 10) 8192
  (flexShapeMinMbps, max flexShapeMinMbps flexShapeMaxMbps)

/-- The bandwidths of a flexible shape: those of the annotations, or else of the load balancer. -/
def flexibleShape (svc : Service) (existingMin existingMax : String) : Except String Shape :=
  let flexMinS := (svc.annotations.lookup serviceAnnotationLoadBalancerShapeFlexMin).getD existingMin
  let flexMaxS := (svc.annotations.lookup serviceAnnotationLoadBalancerShapeFlexMax).getD existingMax
  if flexMinS = "" ∨ flexMaxS = "" then
    .error ("error parsing service annotation: " ++ serviceAnnotationLoadBalancerShape
      ++ "=flexible requires " ++ serviceAnnotationLoadBalancerShapeFlexMin ++ " and "
      ++ serviceAnnotationLoadBalancerShapeFlexMax ++ " to be set")
  else do
    let flexShapeMinMbps ←
      parseFlexibleShapeBandwidth flexMinS serviceAnnotationLoadBalancerShapeFlexMin
    let flexShapeMaxMbps ←
      parseFlexibleShapeBandwidth flexMaxS serviceAnnotationLoadBalancerShapeFlexMax
    let (flexMin, flexMax) := clampBandwidths flexShapeMinMbps flexShapeMaxMbps
    .ok { shape := flexible, flexMin := some flexMin, flexMax := some flexMax }

/-- The shape of an existing flexible load balancer is kept where the annotations are silent. -/
def getLBShape (svc : Service) (existingLB : Option ExistingShape) : Except String Shape :=
  if getLoadBalancerType svc = .nlb then .ok { shape := flexible }
  else
    let (shape, flexMinS, flexMaxS) :=
      match existingLB with
      | none => (lbDefaultShape, "", "")
      | some existingLB =>
        if existingLB.shapeName = flexible then
          (flexible, toString existingLB.minimumBandwidthInMbps,
            toString existingLB.maximumBandwidthInMbps)
        else (lbDefaultShape, "", "")
    let shape := (svc.annotations.lookup serviceAnnotationLoadBalancerShape).getD shape
    if toLower shape ≠ flexible then .ok { shape }
    else flexibleShape svc flexMinS flexMaxS

/-! ## Tags -/

/-- The tags of the configuration that concern load balancers. -/
structure InitialTags where
  loadBalancer : Option TagConfig := none
  common : Option TagConfig := none

/-- The tags of a JSON annotation; without one, or if it is empty, there are none. -/
def tagsAnnotation {V : Type} (unmarshal : String → Except String (GoMap V)) (msg : String)
    (text : Option String) : Except String (GoMap V) :=
  match text with
  | none => .ok ∅
  | some text => if text = "" then .ok ∅ else (unmarshal text).mapError (wrap msg)

/-- The tags of the annotations take the place of all initial tags. -/
def getLoadBalancerTags (lib : ProvisioningLibrary RuleSet) (svc : Service)
    (initialTags : Option InitialTags) : Except String TagConfig := do
  let freeformTagsAnnotation := byType svc
    ((svc.annotations.lookup serviceAnnotationNetworkLoadBalancerInitialFreeformTagsOverride).or
      (svc.annotations.lookup serviceAnnotationNetworkLoadBalancerFreeformTags))
    (svc.annotations.lookup serviceAnnotationLoadBalancerInitialFreeformTagsOverride)
  let definedTagsAnnotation := byType svc
    ((svc.annotations.lookup serviceAnnotationNetworkLoadBalancerInitialDefinedTagsOverride).or
      (svc.annotations.lookup serviceAnnotationNetworkLoadBalancerDefinedTags))
    (svc.annotations.lookup serviceAnnotationLoadBalancerInitialDefinedTagsOverride)
  let freeformTags ← tagsAnnotation lib.unmarshalFreeformTags
    "failed to parse free form tags annotation" freeformTagsAnnotation
  let definedTags ← tagsAnnotation lib.unmarshalDefinedTags
    "failed to parse defined tags annotation" definedTagsAnnotation
  .ok (if freeformTags.toPairs ≠ [] ∨ definedTags.toPairs ≠ [] then
      { freeformTags := if freeformTags.toPairs ≠ [] then some freeformTags else none
        definedTags := if definedTags.toPairs ≠ [] then some definedTags else none }
    else (initialTags.bind (·.loadBalancer)).getD {})

def okeSystemTagNamesapce := "orcl-containerengine"

/-- The tags of the configuration that track the resources of a cluster. -/
def getResourceTrackingSystemTagsFromConfig (initialTags : Option InitialTags) :
    Option DefinedTags :=
  ((initialTags.bind (·.common)).bind (·.namespaceTags okeSystemTagNamesapce)).map fun tag =>
    .ofPairs [(okeSystemTagNamesapce, tag)]

/-- The tags of a load balancer with the common ones, if the controller sets system tags. -/
def withCommonTags (enableOkeSystemTags : Bool) (initialLBTags : Option InitialTags)
    (lbTags : TagConfig) : TagConfig :=
  match initialLBTags.bind (·.common) with
  | some common => if enableOkeSystemTags then mergeTagConfig lbTags common else lbTags
  | none => lbTags

end OciCcm.LoadBalancer
