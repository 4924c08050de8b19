import OciCcm.Client
import OciCcm.Go.Pages
import OciCcm.LoadBalancer.Conversion

/-! # Looking up a load balancer by its name

Both clients remember the identifier of every load balancer that they have found
by its name. A remembered identifier may be out of date: the load balancer may
have been deleted, renamed or moved to another compartment since. The clients
therefore check what they get for it, and list the compartment if it is not the
load balancer they look for.
-/

namespace OciCcm.LoadBalancer

open Client Go Pages List

/-- A load balancer as the rest of the program sees it. -/
structure GenericLoadBalancer where
  id : Option String
  compartmentId : Option String
  displayName : Option String
  lifecycleState : Option String
  subnetIds : List String
  networkSecurityGroupIds : List String
  listeners : GoMap Listener
  backendSets : GoMap BackendSetDetails
  ipVersion : Option IpVersion := none

/-! ## The two services -/

namespace LbService

/-- A `LoadBalancer` of the service. -/
structure Resource where
  id : String
  compartmentId : String
  displayName : String
  lifecycleState : String
  subnetIds : List String
  networkSecurityGroupIds : List String
  listeners : GoMap (Stored ListenerDetails)
  backendSets : GoMap (Stored BackendSetDetails)

def loadbalancerToGenericLoadbalancer (lb : Resource) : GenericLoadBalancer where
  id := some lb.id
  compartmentId := some lb.compartmentId
  displayName := some lb.displayName
  lifecycleState := some lb.lifecycleState
  subnetIds := lb.subnetIds
  networkSecurityGroupIds := lb.networkSecurityGroupIds
  listeners := listenersToGenericListenerDetails lb.listeners
  backendSets := backendSetsToGenericBackendSetDetails lb.backendSets

end LbService

namespace NlbService

/-- A `NetworkLoadBalancer` of the service. -/
structure Resource where
  id : String
  compartmentId : String
  displayName : String
  lifecycleState : String
  subnetId : String
  networkSecurityGroupIds : List String
  listeners : GoMap ListenerDetails
  backendSets : GoMap BackendSet
  nlbIpVersion : String

/-- A `NetworkLoadBalancerSummary` of the service. -/
structure Summary where
  id : String
  compartmentId : String
  displayName : String
  lifecycleState : String
  subnetId : String
  networkSecurityGroupIds : List String
  listeners : GoMap ListenerDetails
  backendSets : GoMap BackendSet
  nlbIpVersion : String

/-- The summary that the service lists for a network load balancer. -/
def Resource.summary (nlb : Resource) : Summary := { nlb with }

def networkLoadbalancerToGenericLoadbalancer (nlb : Resource) : GenericLoadBalancer where
  id := some nlb.id
  compartmentId := some nlb.compartmentId
  displayName := some nlb.displayName
  lifecycleState := some nlb.lifecycleState
  subnetIds := [nlb.subnetId]
  networkSecurityGroupIds := nlb.networkSecurityGroupIds
  listeners := listenersToGenericListenerDetails nlb.listeners
  backendSets := backendSetsToGenericBackendSetDetails nlb.backendSets
  ipVersion := genericIpVersion nlb.nlbIpVersion

def networkLoadbalancerSummaryToGenericLoadbalancer (nlb : Summary) : GenericLoadBalancer where
  id := some nlb.id
  compartmentId := some nlb.compartmentId
  displayName := some nlb.displayName
  lifecycleState := some nlb.lifecycleState
  subnetIds := [nlb.subnetId]
  networkSecurityGroupIds := nlb.networkSecurityGroupIds
  listeners := listenersToGenericListenerDetails nlb.listeners
  backendSets := backendSetsToGenericBackendSetDetails nlb.backendSets
  ipVersion := genericIpVersion nlb.nlbIpVersion

end NlbService

/-- What the lookup uses of a service. A listed item says of a load balancer what a get says. -/
structure Api where
  Resource : Type
  Item : Type
  id : Resource → String
  compartmentId : Resource → String
  displayName : Resource → String
  listedAs : Resource → Item
  itemId : Item → String
  itemDisplayName : Item → String
  toGeneric : Resource → GenericLoadBalancer
  itemToGeneric : Item → GenericLoadBalancer
  itemDisplayName_listedAs : ∀ lb, itemDisplayName (listedAs lb) = displayName lb
  itemToGeneric_listedAs : ∀ lb, itemToGeneric (listedAs lb) = toGeneric lb
  displayName_toGeneric : ∀ lb, (toGeneric lb).displayName = some (displayName lb)
  compartmentId_toGeneric : ∀ lb, (toGeneric lb).compartmentId = some (compartmentId lb)

def LbService.api : Api where
  Resource := Resource
  Item := Resource
  id := Resource.id
  compartmentId := Resource.compartmentId
  displayName := Resource.displayName
  listedAs := fun lb => lb
  itemId := Resource.id
  itemDisplayName := Resource.displayName
  toGeneric := loadbalancerToGenericLoadbalancer
  itemToGeneric := loadbalancerToGenericLoadbalancer
  itemDisplayName_listedAs _ := rfl
  itemToGeneric_listedAs _ := rfl
  displayName_toGeneric _ := rfl
  compartmentId_toGeneric _ := rfl

def NlbService.api : Api where
  Resource := Resource
  Item := Summary
  id := Resource.id
  compartmentId := Resource.compartmentId
  displayName := Resource.displayName
  listedAs := Resource.summary
  itemId := Summary.id
  itemDisplayName := Summary.displayName
  toGeneric := networkLoadbalancerToGenericLoadbalancer
  itemToGeneric := networkLoadbalancerSummaryToGenericLoadbalancer
  itemDisplayName_listedAs _ := rfl
  itemToGeneric_listedAs _ := rfl
  displayName_toGeneric _ := rfl
  compartmentId_toGeneric _ := rfl

/-! ## The lookup -/

namespace Api

/-- The calls that a client makes. -/
structure Calls (api : Api) where
  get : String → Except ClientError api.Resource
  /-- The pages of the list for a compartment and a display name. -/
  list : String → String → Server ClientError api.Item

variable {api : Api}

def getLoadBalancer (calls : api.Calls) (id : String) : Except ClientError GenericLoadBalancer :=
  (calls.get id).map api.toGeneric

/-- Does the load balancer have this compartment and this display name? -/
def isNamed (compartmentID name : String) (lb : GenericLoadBalancer) : Bool :=
  match lb.displayName, lb.compartmentId with
  | some displayName, some compartmentId => displayName = name && compartmentId = compartmentID
  | _, _ => false

/-- The first part of `GetLoadBalancerByName`: the load balancer that the cache leads to, and
the cache after that. Only a load balancer that does not exist is forgotten. -/
def getCached (calls : api.Calls) (compartmentID name : String) (nameToOcid : GoMap String) :
    Option GenericLoadBalancer × GoMap String :=
  match nameToOcid.lookup name with
  | none => (none, nameToOcid)
  | some ocid =>
    match getLoadBalancer calls ocid with
    | .ok lb => (if isNamed compartmentID name lb then some lb else none, nameToOcid)
    | .error err => (none, if isNotFound err then nameToOcid.erase name else nameToOcid)

/-- The second part: the first listed load balancer with the display name. -/
def findListed (api : Api) (name : String) :
    Loop ClientError api.Item Unit (Except ClientError api.Item) where
  passesToken := true
  start := ()
  visit _ lb := if api.itemDisplayName lb = name then .inr (.ok lb) else .inl ()
  failed _ err := .error err
  finish _ := .error .errNotFound

/-- The load balancer, and the cache after the lookup. -/
def getLoadBalancerByName (calls : api.Calls) (fuel : Nat) (compartmentID name : String)
    (nameToOcid : GoMap String) : Option (Except ClientError GenericLoadBalancer × GoMap String) :=
  match getCached calls compartmentID name nameToOcid with
  | (some lb, nameToOcid) => some (.ok lb, nameToOcid)
  | (none, nameToOcid) =>
    ((findListed api name).run (calls.list compartmentID name) fuel 0 none ()).map fun
      | (.ok lb, _) => (.ok (api.itemToGeneric lb), nameToOcid.insert name (api.itemId lb))
      | (.error err, _) => (.error err, nameToOcid)

end Api

def LbService.getLoadBalancerByName (calls : LbService.api.Calls) (fuel : Nat)
    (compartmentID name : String) (nameToOcid : GoMap String) :
    Option (Except ClientError GenericLoadBalancer × GoMap String) :=
  Api.getLoadBalancerByName calls fuel compartmentID name nameToOcid

def NlbService.getLoadBalancerByName (calls : NlbService.api.Calls) (fuel : Nat)
    (compartmentID name : String) (nameToOcid : GoMap String) :
    Option (Except ClientError GenericLoadBalancer × GoMap String) :=
  Api.getLoadBalancerByName calls fuel compartmentID name nameToOcid

/-- The service of a type of load balancers. -/
def LBType.api : LBType → Api
  | lb => LbService.api
  | nlb => NlbService.api

/-- The lookup of the client for a type of load balancers. Each client has a cache of its own. -/
def getLoadBalancerByName : (type : LBType) → type.api.Calls → Nat → String → String →
    GoMap String → Option (Except ClientError GenericLoadBalancer × GoMap String)
  | .lb => LbService.getLoadBalancerByName
  | .nlb => NlbService.getLoadBalancerByName

theorem getLoadBalancerByName_eq (type : LBType) (calls : type.api.Calls) :
    getLoadBalancerByName type calls = Api.getLoadBalancerByName calls := by
  cases type <;> rfl

/-! ## The server -/

/-- The load balancers on the server. A display name belongs to at most one of a compartment. -/
structure Fleet (api : Api) where
  loadBalancers : List api.Resource
  unique : ∀ lb ∈ loadBalancers, ∀ lb' ∈ loadBalancers,
    api.compartmentId lb = api.compartmentId lb' → api.displayName lb = api.displayName lb' →
      lb = lb'

namespace Fleet

variable {api : Api}

/-- The answer to a get, which may also fail. -/
def get (fleet : Fleet api) (fault : Option ClientError) (id : String) :
    Except ClientError api.Resource :=
  match fault with
  | some err => .error err
  | none =>
    match fleet.loadBalancers.find? fun lb => api.id lb = id with
    | some lb => .ok lb
    | none => .error (.serviceError 404 "NotAuthorizedOrNotFound")

/-- The load balancer that a listing of the compartment finds under the name. -/
def named (fleet : Fleet api) (compartmentID name : String) : Option api.Resource :=
  fleet.loadBalancers.find? fun lb =>
    api.compartmentId lb = compartmentID && api.displayName lb = name

/-- What a lookup in a full listing of the compartment returns. -/
def lookup (fleet : Fleet api) (compartmentID name : String) :
    Except ClientError GenericLoadBalancer :=
  match fleet.named compartmentID name with
  | some lb => .ok (api.toGeneric lb)
  | none => .error .errNotFound

/-- The pages list load balancers of the compartment, among them all with the name. -/
def Lists (fleet : Fleet api) (compartmentID name : String) (pages : Split api.Item) : Prop :=
  ∃ lbs : List api.Resource, pages.items = lbs.map api.listedAs ∧
    (∀ lb ∈ lbs, lb ∈ fleet.loadBalancers ∧ api.compartmentId lb = compartmentID) ∧
    ∀ lb ∈ fleet.loadBalancers, api.compartmentId lb = compartmentID →
      api.displayName lb = name → lb ∈ lbs

variable {fleet : Fleet api} {compartmentID name : String} {lb : api.Resource}

theorem named_eq_some_iff : fleet.named compartmentID name = some lb ↔
    lb ∈ fleet.loadBalancers ∧ api.compartmentId lb = compartmentID ∧
      api.displayName lb = name := by
  have hnamed : ∀ {lb'}, fleet.named compartmentID name = some lb' →
      api.compartmentId lb' = compartmentID ∧ api.displayName lb' = name := by
    intro lb' h
    simpa using List.find?_some h
  constructor
  · intro h
    exact ⟨mem_of_find?_eq_some h, hnamed h⟩
  · rintro ⟨hmem, hcompartment, hname⟩
    cases hfind : fleet.named compartmentID name with
    | none =>
      have hnot := List.find?_eq_none.mp hfind lb hmem
      simp [hcompartment, hname] at hnot
    | some lb' =>
      obtain ⟨hcompartment', hname'⟩ := hnamed hfind
      rw [fleet.unique lb hmem lb' (mem_of_find?_eq_some hfind)
        (hcompartment.trans hcompartment'.symm) (hname.trans hname'.symm)]

theorem mem_of_get {fault : Option ClientError} {id : String} (h : fleet.get fault id = .ok lb) :
    lb ∈ fleet.loadBalancers := by
  unfold get at h
  cases fault with
  | some err => cases h
  | none =>
    cases hfind : fleet.loadBalancers.find? fun lb => api.id lb = id with
    | none =>
      rw [hfind] at h
      cases h
    | some lb' =>
      rw [hfind] at h
      cases h
      exact mem_of_find?_eq_some hfind

end Fleet

/-! ## The lookup agrees with a listing -/

namespace Api

variable {api : Api} {calls : api.Calls} {fleet : Fleet api} {compartmentID name : String}
  {nameToOcid : GoMap String} {nameToOcid' : GoMap String}

theorem isNamed_toGeneric {lb : api.Resource}
    (h : isNamed compartmentID name (api.toGeneric lb) = true) :
    api.compartmentId lb = compartmentID ∧ api.displayName lb = name := by
  rw [isNamed, api.displayName_toGeneric, api.compartmentId_toGeneric, Bool.and_eq_true,
    decide_eq_true_eq, decide_eq_true_eq] at h
  exact h.symm

theorem lookup_of_getCached {fault : Option ClientError} {lb : GenericLoadBalancer}
    (hget : calls.get = fleet.get fault)
    (h : getCached calls compartmentID name nameToOcid = (some lb, nameToOcid')) :
    fleet.lookup compartmentID name = .ok lb := by
  unfold getCached getLoadBalancer at h
  rw [hget] at h
  cases hocid : nameToOcid.lookup name with
  | none =>
    rw [hocid] at h
    cases h
  | some ocid =>
    rw [hocid] at h
    dsimp only at h
    cases hlb : fleet.get fault ocid with
    | error err =>
      rw [hlb] at h
      cases h
    | ok lb' =>
      rw [hlb] at h
      have hif := (Prod.mk.inj h).1
      split at hif
      · next hnamed =>
        cases hif
        have hfound : fleet.named compartmentID name = some lb' :=
          Fleet.named_eq_some_iff.mpr ⟨Fleet.mem_of_get hlb, isNamed_toGeneric hnamed⟩
        rw [Fleet.lookup, hfound]
      · cases hif

theorem result_findListed (items : List api.Item) : (findListed api name).result () items =
    match items.find? fun lb => api.itemDisplayName lb = name with
    | some lb => .ok lb
    | none => .error .errNotFound := by
  induction items with
  | nil => rfl
  | cons lb items ih =>
    by_cases hlb : api.itemDisplayName lb = name
    · rw [List.find?_cons_of_pos (by simpa using hlb)]
      simp only [Loop.result, Loop.visitAll, findListed, if_pos hlb]
    · rw [List.find?_cons_of_neg (by simpa using hlb), ← ih]
      simp only [Loop.result, Loop.visitAll, findListed, if_neg hlb]

theorem find?_of_lists {pages : Split api.Item} (h : fleet.Lists compartmentID name pages) :
    (pages.items.find? fun lb => api.itemDisplayName lb = name) =
      (fleet.named compartmentID name).map api.listedAs := by
  obtain ⟨lbs, hitems, hlisted, hall⟩ := h
  rw [hitems, List.find?_map]
  congr 1
  cases hfind : lbs.find? ((fun lb => decide (api.itemDisplayName lb = name)) ∘ api.listedAs) with
  | some lb =>
    obtain ⟨hmem, hcompartment⟩ := hlisted lb (mem_of_find?_eq_some hfind)
    have hname : api.displayName lb = name := by
      simpa [api.itemDisplayName_listedAs] using List.find?_some hfind
    exact (Fleet.named_eq_some_iff.mpr ⟨hmem, hcompartment, hname⟩).symm
  | none =>
    cases hnamed : fleet.named compartmentID name with
    | none => rfl
    | some lb =>
      obtain ⟨hmem, hcompartment, hname⟩ := Fleet.named_eq_some_iff.mp hnamed
      have hnot := List.find?_eq_none.mp hfind lb (hall lb hmem hcompartment hname)
      simp [api.itemDisplayName_listedAs, hname] at hnot

/-- The calls of a lookup are answered from the fleet: the get may fail, the list calls succeed. -/
structure Served (calls : api.Calls) (fleet : Fleet api) (compartmentID name : String) : Prop where
  get : ∃ fault, calls.get = fleet.get fault
  list : ∃ pages unknown, calls.list compartmentID name = pages.serve unknown ∧
    fleet.Lists compartmentID name pages

theorem exists_run_findListed (h : Served calls fleet compartmentID name) : ∃ fuel requests,
    (findListed api name).run (calls.list compartmentID name) fuel 0 none () =
      some (match fleet.named compartmentID name with
        | some lb => .ok (api.listedAs lb)
        | none => .error .errNotFound, requests) := by
  obtain ⟨pages, unknown, hlist, hlists⟩ := h.list
  have htoken : (findListed api name).passesToken = true := rfl
  obtain ⟨fuel, requests, hrun, -⟩ : ∃ fuel requests,
      (findListed api name).run (pages.serve unknown) fuel 0 none () =
        some ((findListed api name).result () pages.items, requests) ∧ requests.Nodup :=
    Split.run_of_passesToken htoken
  refine ⟨fuel, requests, ?_⟩
  rw [hlist, hrun, result_findListed, find?_of_lists hlists]
  cases fleet.named compartmentID name <;> rfl

theorem lookup_of_getLoadBalancerByName (h : Served calls fleet compartmentID name) {fuel : Nat}
    {result : Except ClientError GenericLoadBalancer}
    (hresult : getLoadBalancerByName calls fuel compartmentID name nameToOcid =
      some (result, nameToOcid')) : result = fleet.lookup compartmentID name := by
  obtain ⟨fault, hget⟩ := h.get
  unfold getLoadBalancerByName at hresult
  rcases hcached : getCached calls compartmentID name nameToOcid with ⟨_ | lb, cache⟩
  · rw [hcached] at hresult
    obtain ⟨⟨found, requests⟩, hrun, heq⟩ := Option.map_eq_some_iff.mp hresult
    obtain ⟨fuel', requests', hrun'⟩ := exists_run_findListed h
    obtain rfl := (Prod.mk.inj (Loop.run_unique hrun hrun')).1
    rw [Fleet.lookup]
    cases hnamed : fleet.named compartmentID name with
    | none =>
      rw [hnamed] at heq
      exact (Prod.mk.inj heq).1.symm
    | some lb =>
      rw [hnamed] at heq
      rw [← (Prod.mk.inj heq).1, api.itemToGeneric_listedAs]
  · rw [hcached] at hresult
    obtain ⟨rfl, -⟩ := Prod.mk.inj (Option.some.inj hresult)
    exact (lookup_of_getCached hget hcached).symm

theorem exists_getLoadBalancerByName (h : Served calls fleet compartmentID name)
    (nameToOcid : GoMap String) : ∃ fuel answer,
    getLoadBalancerByName calls fuel compartmentID name nameToOcid = some answer := by
  rcases hcached : getCached calls compartmentID name nameToOcid with ⟨_ | lb, cache⟩
  · obtain ⟨fuel, requests, hrun⟩ := exists_run_findListed h
    refine ⟨fuel, ?_⟩
    rw [getLoadBalancerByName, hcached]
    dsimp only
    rw [hrun]
    exact ⟨_, rfl⟩
  · refine ⟨0, (.ok lb, cache), ?_⟩
    rw [getLoadBalancerByName, hcached]

end Api

/-! ## Histories -/

/-- A lookup of a history: the server at its time, the calls, what it was asked and what it
returned. -/
structure Lookup (type : LBType) where
  fleet : Fleet type.api
  calls : type.api.Calls
  compartmentID : String
  name : String
  result : Except ClientError GenericLoadBalancer

/-- The server and the cache of the client after a finite history, with the lookups of the
history. -/
inductive History (type : LBType) :
    Fleet type.api → GoMap String → List (Lookup type) → Prop
  | start (fleet : Fleet type.api) : History type fleet ∅ []
  /-- Load balancers are created, deleted, renamed or moved. -/
  | change {fleet : Fleet type.api} {nameToOcid : GoMap String} {lookups : List (Lookup type)}
      (h : History type fleet nameToOcid lookups) (fleet' : Fleet type.api) :
      History type fleet' nameToOcid lookups
  /-- A lookup, with any answers to its calls. -/
  | lookup {fleet : Fleet type.api} {nameToOcid nameToOcid' : GoMap String}
      {lookups : List (Lookup type)} (h : History type fleet nameToOcid lookups)
      (calls : type.api.Calls) (fuel : Nat) (compartmentID name : String)
      {result : Except ClientError GenericLoadBalancer}
      (hresult : getLoadBalancerByName type calls fuel compartmentID name nameToOcid =
        some (result, nameToOcid')) :
      History type fleet nameToOcid' (⟨fleet, calls, compartmentID, name, result⟩ :: lookups)

/-- Every lookup of a history has returned what a full listing would have returned at its time,
and the next lookup ends and returns what a full listing returns. -/
theorem lookups_agree_with_listing (type : LBType) {fleet : Fleet type.api}
    {nameToOcid : GoMap String} {lookups : List (Lookup type)}
    (h : History type fleet nameToOcid lookups) :
    (∀ l ∈ lookups, Api.Served l.calls l.fleet l.compartmentID l.name →
      l.result = l.fleet.lookup l.compartmentID l.name) ∧
    ∀ (calls : type.api.Calls) (compartmentID name : String),
      Api.Served calls fleet compartmentID name → ∃ fuel nameToOcid',
        getLoadBalancerByName type calls fuel compartmentID name nameToOcid =
          some (fleet.lookup compartmentID name, nameToOcid') := by
  constructor
  · induction h with
    | start fleet => simp
    | change h fleet' ih => exact ih
    | lookup h calls fuel compartmentID name hresult ih =>
      intro l hl hserved
      rcases mem_cons.mp hl with rfl | hl
      · rw [getLoadBalancerByName_eq] at hresult
        exact Api.lookup_of_getLoadBalancerByName hserved hresult
      · exact ih l hl hserved
  · intro calls compartmentID name hserved
    obtain ⟨fuel, ⟨result, nameToOcid'⟩, hresult⟩ :=
      Api.exists_getLoadBalancerByName hserved nameToOcid
    refine ⟨fuel, nameToOcid', ?_⟩
    rw [getLoadBalancerByName_eq, hresult, Api.lookup_of_getLoadBalancerByName hserved hresult]

/-- A network load balancer without listeners. -/
def webNlb (id : String) : NlbService.Resource where
  id
  compartmentId := "compartment"
  displayName := "web"
  lifecycleState := "ACTIVE"
  subnetId := "subnet"
  networkSecurityGroupIds := []
  listeners := ∅
  backendSets := ∅
  nlbIpVersion := "IPV4"

/-- A server with one network load balancer. -/
def webFleet (id : String) : Fleet NlbService.api where
  loadBalancers := [webNlb id]
  unique _ hlb _ hlb' _ _ :=
    (mem_singleton.mp hlb).trans (mem_singleton.mp hlb').symm

/-- The calls to this server, all load balancers on one page. -/
def webCalls (id : String) (fault : Option ClientError) : NlbService.api.Calls where
  get := (webFleet id).get fault
  list _ _ := (Split.single [(webNlb id).summary]).serve .errNotFound

theorem served_webCalls (id : String) (fault : Option ClientError) :
    Api.Served (webCalls id fault) (webFleet id) "compartment" "web" where
  get := ⟨fault, rfl⟩
  list := by
    refine ⟨Split.single [(webNlb id).summary], .errNotFound, rfl, [webNlb id], rfl, ?_, ?_⟩
    · intro lb hlb
      exact ⟨hlb, by rw [mem_singleton.mp hlb]; rfl⟩
    · exact fun lb hlb _ _ => hlb

/-- A load balancer is found, deleted and created anew. The get for the old identifier fails with
an internal error, so that the stale entry stays, and the new load balancer is found by the list. -/
theorem lookup_after_recreation : ∃ fuel nameToOcid',
    getLoadBalancerByName .nlb (webCalls "new" (some (.serviceError 500 "InternalError"))) fuel
        "compartment" "web" ((∅ : GoMap String).insert "web" "old") =
      some ((webFleet "new").lookup "compartment" "web", nameToOcid') := by
  have hfound : getLoadBalancerByName .nlb (webCalls "old" none) 1 "compartment" "web" ∅ =
      some ((webFleet "old").lookup "compartment" "web", (∅ : GoMap String).insert "web" "old") :=
    rfl
  have hstart : History .nlb (webFleet "old") ∅ [] := .start _
  have hhistory : History .nlb (webFleet "new") ((∅ : GoMap String).insert "web" "old") _ :=
    .change (.lookup hstart (webCalls "old" none) 1 "compartment" "web" hfound) (webFleet "new")
  exact (lookups_agree_with_listing .nlb hhistory).2 _ _ _ (served_webCalls "new" _)

end OciCcm.LoadBalancer
