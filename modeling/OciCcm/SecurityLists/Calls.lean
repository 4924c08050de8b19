import OciCcm.Go.Refines
import OciCcm.SecurityLists.Passes

/-! # The calls of the security list managers

`Manager` describes the loops over subnets as functions on the stored lists. Here
they are programs that read a list together with its etag and pass the etag on
when they write it back. A write is carried out only where the etag is still the
list's own. A program that runs alone does what the functions say, so what is
known about them holds of it.
-/

namespace OciCcm.SecurityLists

open Go Kubernetes LoadBalancer
open Program (Ensures Refines)

/-- The security lists that the networking service holds, each with its etag and with the
etags that it had before. -/
structure Lists where
  store : Store
  etag : String → String
  past : String → List String := fun _ => []

inductive Call where
  | getSecurityList (id : String)
  | updateSecurityList (id etag : String) (ingressRules egressRules : List SecurityRule)

/-- What a call returns. The managers ignore the list that an update returns. -/
abbrev Answer : Call → Type
  | .getSecurityList _ => Except String (SecurityList × String)
  | .updateSecurityList .. => Except String PUnit

/-- What the service is free to choose: whether a call fails, whether a write is carried out
though it fails, and the new etag. -/
structure Reply where
  error : Option String := none
  carriedOut : Bool := false
  etag : String := ""

namespace Lists

/-- Every etag that the list has had up to now. -/
def etags (lists : Lists) (id : String) : List String := lists.etag id :: lists.past id

/-- The lists after the rules of one of them have been replaced. -/
def write (lists : Lists) (id etag : String) (secList : SecurityList) : Lists where
  store := lists.store.insert id secList
  etag := Function.update lists.etag id etag
  past := Function.update lists.past id (lists.etags id)

variable {lists : Lists} {id id' etag : String} {secList : SecurityList}

@[simp] theorem etag_write_self : (lists.write id etag secList).etag id = etag :=
  Function.update_self ..

@[simp] theorem etag_write_of_ne (h : id' ≠ id) :
    (lists.write id etag secList).etag id' = lists.etag id' :=
  Function.update_of_ne h ..

@[simp] theorem etags_write_self :
    (lists.write id etag secList).etags id = etag :: lists.etags id := by
  simp [etags, write]

@[simp] theorem etags_write_of_ne (h : id' ≠ id) :
    (lists.write id etag secList).etags id' = lists.etags id' := by
  simp [etags, write, h]

@[simp] theorem lookup_write_self :
    (lists.write id etag secList).store.lookup id = some secList :=
  AList.lookup_insert _

@[simp] theorem lookup_write_of_ne (h : id' ≠ id) :
    (lists.write id etag secList).store.lookup id' = lists.store.lookup id' :=
  AList.lookup_insert_ne h

end Lists

def SecurityList.withRules (secList : SecurityList)
    (rules : List SecurityRule × List SecurityRule) : SecurityList :=
  { secList with ingressSecurityRules := rules.1, egressSecurityRules := rules.2 }

def listNotFound (id : String) : String := "security list " ++ id ++ " not found"

/-- The list as it is if a write to it is carried out. -/
def Lists.accepts (lists : Lists) (id etag : String) (f : Reply) : Option SecurityList :=
  if lists.etag id = etag ∧ (f.error = none ∨ f.carriedOut = true) then lists.store.lookup id
  else none

theorem Lists.of_accepts {lists : Lists} {id etag : String} {f : Reply} {secList : SecurityList}
    (h : lists.accepts id etag f = some secList) :
    lists.etag id = etag ∧ lists.store.lookup id = some secList := by
  unfold accepts at h
  split at h
  · next hok => exact ⟨hok.1, h⟩
  · cases h

def Lists.answer (lists : Lists) (id etag : String) (f : Reply) : Except String PUnit :=
  match f.error, lists.store.lookup id with
  | some err, _ => .error err
  | none, none => .error (listNotFound id)
  | none, some _ => if lists.etag id = etag then .ok ⟨⟩ else .error "NoEtagMatch"

def serve (lists : Lists) : (q : Call) → Reply → Lists × Answer q
  | .getSecurityList id, f =>
    (lists, match f.error, lists.store.lookup id with
      | some err, _ => .error err
      | none, none => .error (listNotFound id)
      | none, some secList => .ok (secList, lists.etag id))
  | .updateSecurityList id etag ingressRules egressRules, f =>
    (match lists.accepts id etag f with
      | some secList => lists.write id f.etag (secList.withRules (ingressRules, egressRules))
      | none => lists, lists.answer id etag f)

namespace Calls

abbrev Program := Go.Program Call Answer String

/-- A security list as it was read. -/
structure Response where
  id : String
  secList : SecurityList
  etag : String

def response (id : String) : Program Response :=
  .call (.getSecurityList id) fun r =>
    .done (r.map fun (secList, etag) => { id, secList, etag })

def responses : List String → Program (List Response)
  | [] => pure []
  | id :: ids => do
    let r ← response id
    let rs ← responses ids
    pure (r :: rs)

variable (s : BaseSecurityListManager)

def getSecurityList (subnet : SubnetWithLists) : Program Response :=
  match subnet.securityListIds with
  | [] => .done (.error "no security lists")
  | id₀ :: ids =>
    match (s.securityLists.lookup subnet.id).filter (· ∈ id₀ :: ids) with
    | some id => response id
    | none => do
      let r ← response id₀
      let rs ← responses ids
      pure (oldest Response.secList r rs)

/-- The list that was read is written back with its new rules if they changed. -/
def writeBack (kind : String) (rewrite : SecurityList → List SecurityRule × List SecurityRule)
    (subnet : SubnetWithLists) (r : Response) : Program PUnit :=
  let rules := rewrite r.secList
  if securityListRulesChanged r.secList rules.1 rules.2 then
    .call (.updateSecurityList r.id r.etag rules.1 rules.2) fun answer =>
      .done (answer.mapError (wrap ("update " ++ kind ++ "security list rules " ++ quote r.id ++
        " for subnet " ++ quote subnet.id)))
  else pure ⟨⟩

/-- The common body of the two loops over subnets. -/
def rewriteStep (kind : String) (rewrite : SecurityList → List SecurityRule × List SecurityRule)
    (subnet : SubnetWithLists) : Program PUnit := do
  let r ← (getSecurityList s subnet).mapError
    (wrap ("get " ++ kind ++ "security list for subnet " ++ quote subnet.id))
  writeBack kind rewrite subnet r

def updateBackendRules (lbSubnets nodeSubnets : List SubnetWithLists)
    (actualPorts : Option PortSpec) (desiredPorts : PortSpec) (sourceCIDRs : List String)
    (isPreserveSource : Bool) (ipFamilies : List IpVersion) : Program PUnit :=
  nodeSubnets.forM (rewriteStep s ""
    (s.backendRules lbSubnets actualPorts desiredPorts sourceCIDRs isPreserveSource ipFamilies))

def updateLoadBalancerRules (lbSubnets nodeSubnets : List SubnetWithLists)
    (sourceCIDRs : List String) (actualPorts : Option PortSpec) (desiredPorts : PortSpec)
    (ipFamilies : List IpVersion) : Program PUnit :=
  lbSubnets.forM (rewriteStep s "lb "
    (s.loadBalancerRules nodeSubnets sourceCIDRs actualPorts desiredPorts ipFamilies))

def frontendUpdate (sc : SecurityRuleComponents) : Program PUnit :=
  updateLoadBalancerRules s sc.lbSubnets [] sc.sourceCIDRs sc.actualPorts sc.desiredPorts
    sc.ipFamilies

def frontendDelete (sc : SecurityRuleComponents) : Program PUnit :=
  updateLoadBalancerRules s sc.lbSubnets [] [] (some sc.desiredPorts) sc.desiredPorts
    sc.ipFamilies

def defaultUpdate (sc : SecurityRuleComponents) : Program PUnit := do
  updateLoadBalancerRules s sc.lbSubnets sc.backendSubnets sc.sourceCIDRs sc.actualPorts
    sc.desiredPorts sc.ipFamilies
  updateBackendRules s sc.lbSubnets sc.backendSubnets sc.actualPorts sc.desiredPorts
    sc.sourceCIDRs sc.isPreserveSource sc.ipFamilies

def defaultDelete (sc : SecurityRuleComponents) : Program PUnit := do
  updateLoadBalancerRules s sc.lbSubnets [] [] (some sc.desiredPorts) sc.desiredPorts
    sc.ipFamilies
  updateBackendRules s [] sc.backendSubnets (some sc.desiredPorts) sc.desiredPorts []
    sc.isPreserveSource sc.ipFamilies

/-- `Update` of the manager for the mode. -/
def update (mode : ManagementMode) (sc : SecurityRuleComponents) : Program PUnit :=
  match mode with
  | .all => defaultUpdate s sc
  | .frontend => frontendUpdate s sc
  | .none | .nsg => pure ⟨⟩

/-- `Delete` of the manager for the mode. -/
def delete (mode : ManagementMode) (sc : SecurityRuleComponents) : Program PUnit :=
  match mode with
  | .all => defaultDelete s sc
  | .frontend => frontendDelete s sc
  | .none | .nsg => pure ⟨⟩

/-! ## Reading a list -/

theorem makes_response (id : String) :
    (response id).Makes (fun q => ∃ id, q = .getSecurityList id) :=
  ⟨⟨id, rfl⟩, fun _ => trivial⟩

theorem makes_responses (ids : List String) :
    (responses ids).Makes (fun q => ∃ id, q = .getSecurityList id) := by
  induction ids with
  | nil => trivial
  | cons id ids ih => exact (makes_response id).bind fun _ => ih.bind fun _ => trivial

theorem makes_getSecurityList (subnet : SubnetWithLists) :
    (getSecurityList s subnet).Makes (fun q => ∃ id, q = .getSecurityList id) := by
  unfold getSecurityList
  cases subnet.securityListIds with
  | nil => trivial
  | cons id₀ ids =>
    dsimp only
    split
    · exact makes_response _
    · exact (makes_response id₀).bind fun _ => (makes_responses ids).bind fun _ => trivial

/-! ## A program that runs alone -/

/-- The manager whose calls do not fail. -/
def reliable : BaseSecurityListManager := { s with client := {} }

/-- No call fails. -/
def NoErrors (_ : Lists) (_ : Call) (f : Reply) : Prop := f.error = none

theorem response_reliable_of_none {store : Store} {id : String} (h : store.lookup id = none) :
    (reliable s).response store id = .error (listNotFound id) := by
  unfold BaseSecurityListManager.response NetworkingClient.getSecurityList
  rw [h]
  rfl

theorem response_reliable_of_some {store : Store} {id : String} {secList : SecurityList}
    (h : store.lookup id = some secList) : (reliable s).response store id = .ok (id, secList) := by
  unfold BaseSecurityListManager.response NetworkingClient.getSecurityList
  rw [h]
  rfl

/-- What was read is what is stored, with the etag that it has there. -/
structure Reads (lists : Lists) (r : Response) (r' : String × SecurityList) : Prop where
  eq : r' = (r.id, r.secList)
  stored : lists.store.lookup r.id = some r.secList
  etag : r.etag = lists.etag r.id

variable {s} {lists : Lists} {May : Lists → Call → Reply → Prop} {Failed : Prop}
  (hfail : ∀ lists q f err, May lists q f → f.error = some err → Failed)

include hfail

theorem refines_response (id : String) :
    Refines serve May Failed (fun r lists' r' => lists' = lists ∧ Reads lists r r')
      ((reliable s).response lists.store id) (response id) lists := by
  intro f hf
  refine ⟨trivial, ?_⟩
  cases herr : f.error with
  | some err =>
    simpa [serve, herr, Except.map, Ensures] using .inr (hfail _ _ _ _ hf herr)
  | none =>
    cases hl : lists.store.lookup id with
    | none =>
      simp only [serve, herr, hl, Except.map, Ensures]
      exact .inl (response_reliable_of_none s hl)
    | some secList =>
      simp only [serve, herr, hl, Except.map, Ensures]
      exact ⟨_, response_reliable_of_some s hl, trivial, rfl, hl, rfl⟩

theorem refines_responses (ids : List String) :
    Refines serve May Failed
      (fun rs lists' rs' => lists' = lists ∧ List.Forall₂ (Reads lists) rs rs')
      (ids.mapM ((reliable s).response lists.store)) (responses ids) lists := by
  induction ids with
  | nil => exact ⟨[], rfl, rfl, .nil⟩
  | cons id ids ih =>
    rw [List.mapM_cons]
    refine (refines_response hfail id).bind ?_
    rintro r _ r' ⟨rfl, hr⟩
    refine ih.bind ?_
    rintro rs _ rs' ⟨rfl, hrs⟩
    exact ⟨r' :: rs', rfl, rfl, .cons hr hrs⟩

theorem refines_getSecurityList (subnet : SubnetWithLists) :
    Refines serve May Failed (fun r lists' r' => lists' = lists ∧ Reads lists r r')
      ((reliable s).getSecurityList lists.store subnet) (getSecurityList s subnet) lists := by
  unfold BaseSecurityListManager.getSecurityList getSecurityList
  cases subnet.securityListIds with
  | nil => exact .inl rfl
  | cons id₀ ids =>
    change Refines serve May Failed _
      (match (s.securityLists.lookup subnet.id).filter (· ∈ id₀ :: ids) with
        | some id => (reliable s).response lists.store id
        | none => _) (match (s.securityLists.lookup subnet.id).filter (· ∈ id₀ :: ids) with
        | some id => response id
        | none => _) lists
    cases (s.securityLists.lookup subnet.id).filter (· ∈ id₀ :: ids) with
    | some id => exact refines_response hfail id
    | none =>
      refine (refines_response hfail id₀).bind ?_
      rintro r _ r' ⟨rfl, hr⟩
      refine (refines_responses hfail ids).bind ?_
      rintro rs _ rs' ⟨rfl, hrs⟩
      exact ⟨_, rfl, rfl, rel_oldest (fun _ _ h => by rw [h.eq]) hr hrs⟩

/-- One round of a loop. The etag is that of the list when it was read, and so it is when the
list is written. -/
theorem refines_rewriteStep (kind : String)
    (rewrite : SecurityList → List SecurityRule × List SecurityRule) (subnet : SubnetWithLists) :
    Refines serve May Failed (fun _ lists' store => lists'.store = store)
      ((reliable s).rewriteStep kind rewrite lists.store subnet)
      (rewriteStep s kind rewrite subnet) lists := by
  refine (refines_getSecurityList hfail subnet).mapError.bind ?_
  rintro r _ _ ⟨rfl, rfl, hstored, hetag⟩
  unfold writeBack
  dsimp only
  split
  · intro f hf
    refine ⟨trivial, ?_⟩
    cases herr : f.error with
    | some err =>
      simpa [serve, Lists.answer, herr, Except.mapError, Ensures] using
        .inr (hfail _ _ _ _ hf herr)
    | none =>
      simp [serve, Lists.answer, Lists.accepts, herr, hstored, hetag, reliable,
        NetworkingClient.updateSecurityList, Except.mapError, Ensures, Lists.write,
        SecurityList.withRules]
  · exact ⟨_, rfl, rfl⟩

/-- The loops of `updateLoadBalancerRules` and `updateBackendRules`. -/
theorem refines_loop (kind : String)
    (rewrite : SecurityList → List SecurityRule × List SecurityRule)
    (subnets : List SubnetWithLists) :
    Refines serve May Failed (fun _ lists' store => lists'.store = store)
      (subnets.foldlM ((reliable s).rewriteStep kind rewrite) lists.store)
      (subnets.forM (rewriteStep s kind rewrite)) lists := by
  refine .forM rfl ?_
  rintro subnet lists' _ rfl
  exact refines_rewriteStep hfail ..

omit hfail in
/-- In every mode, `Update` and `Delete` of a manager that runs alone do call by call what the
functions say on the stored lists, and fail as they do unless a call has failed. -/
theorem refines_manager (s : BaseSecurityListManager) (mode : ManagementMode)
    (sc : SecurityRuleComponents) (lists : Lists) (Failed : Prop) :
    Refines serve (fun _ _ f => f.error ≠ none → Failed) Failed
        (fun _ lists' store => lists'.store = store)
        ((reliable s).update mode sc lists.store) (update s mode sc) lists ∧
      Refines serve (fun _ _ f => f.error ≠ none → Failed) Failed
        (fun _ lists' store => lists'.store = store)
        ((reliable s).delete mode sc lists.store) (delete s mode sc) lists := by
  have hfail : ∀ (lists : Lists) (q : Call) (f : Reply) err, (f.error ≠ none → Failed) →
      f.error = some err → Failed := by
    intro lists q f err h herr
    exact h (by simp [herr])
  cases mode with
  | all =>
    refine ⟨(refines_loop hfail ..).bind ?_, (refines_loop hfail ..).bind ?_⟩
    all_goals
      rintro _ lists' _ rfl
      exact refines_loop hfail ..
  | frontend => exact ⟨refines_loop hfail .., refines_loop hfail ..⟩
  | none | nsg => exact ⟨⟨_, rfl, rfl⟩, ⟨_, rfl, rfl⟩⟩

end Calls

end OciCcm.SecurityLists
