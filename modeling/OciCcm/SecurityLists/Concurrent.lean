import OciCcm.Go.Rely
import OciCcm.SecurityLists.Calls

/-! # Security list updates at the same time

Any number of loops over subnets run at the same time, on subnets that may share
lists. No update is lost: what a list holds in the end is what the loops that have
written it compute from each other's results, in the order of their writes.

The argument is about one loop and an etag that it has read. The list may have
been written since, but then it has another etag for good, and a write with the
old one is rejected. So a write that is carried out replaces the very rules from
which the new ones were computed.
-/

namespace OciCcm.SecurityLists.Calls

open Go Kubernetes LoadBalancer
open Interleaving (Config move run trace)

/-- A write that is carried out gives the list an etag that it has not had before. -/
def Legal (lists : Lists) : Call → Reply → Prop
  | .getSecurityList _, _ => True
  | .updateSecurityList id etag _ _, f =>
    (lists.accepts id etag f).isSome → f.etag ∉ lists.etags id

instance (lists : Lists) (q : Call) (f : Reply) : Decidable (Legal lists q f) := by
  unfold Legal
  split <;> infer_instance

/-- A run of one of the two loops. -/
inductive Job where
  | updateBackendRules (s : BaseSecurityListManager) (lbSubnets nodeSubnets : List SubnetWithLists)
      (actualPorts : Option PortSpec) (desiredPorts : PortSpec) (sourceCIDRs : List String)
      (isPreserveSource : Bool) (ipFamilies : List IpVersion)
  | updateLoadBalancerRules (s : BaseSecurityListManager)
      (lbSubnets nodeSubnets : List SubnetWithLists) (sourceCIDRs : List String)
      (actualPorts : Option PortSpec) (desiredPorts : PortSpec) (ipFamilies : List IpVersion)

namespace Job

def program : Job → Program PUnit
  | .updateBackendRules s lbSubnets nodeSubnets actualPorts desiredPorts sourceCIDRs
      isPreserveSource ipFamilies =>
    Calls.updateBackendRules s lbSubnets nodeSubnets actualPorts desiredPorts sourceCIDRs
      isPreserveSource ipFamilies
  | .updateLoadBalancerRules s lbSubnets nodeSubnets sourceCIDRs actualPorts desiredPorts
      ipFamilies =>
    Calls.updateLoadBalancerRules s lbSubnets nodeSubnets sourceCIDRs actualPorts desiredPorts
      ipFamilies

/-- The rules that the job computes for a list. -/
def rules : Job → SecurityList → List SecurityRule × List SecurityRule
  | .updateBackendRules s lbSubnets _ actualPorts desiredPorts sourceCIDRs isPreserveSource
      ipFamilies =>
    s.backendRules lbSubnets actualPorts desiredPorts sourceCIDRs isPreserveSource ipFamilies
  | .updateLoadBalancerRules s _ nodeSubnets sourceCIDRs actualPorts desiredPorts ipFamilies =>
    s.loadBalancerRules nodeSubnets sourceCIDRs actualPorts desiredPorts ipFamilies

def rewrite (job : Job) (secList : SecurityList) : SecurityList :=
  secList.withRules (job.rules secList)

end Job

variable {ι : Type} [DecidableEq ι]

def start (jobs : ι → Job) (lists : Lists) : Config ι Lists (Program PUnit) where
  shared := lists
  locals i := (jobs i).program

/-- Where the jobs are after the given moves. -/
def after (jobs : ι → Job) (lists : Lists) (moves : List (ι × Reply)) :
    Config ι Lists (Program PUnit) :=
  run (Separation.step serve) (start jobs lists) moves

/-- The process that moves, if it writes to the list and its write is carried out. -/
def commits (id : String) (c : Config ι Lists (Program PUnit)) (m : ι × Reply) : List ι :=
  match c.locals m.1 with
  | .call (.updateSecurityList id' etag _ _) _ =>
    if id' = id ∧ (c.shared.accepts id' etag m.2).isSome then [m.1] else []
  | _ => []

/-- Does the process that moves want to write to a list, and is its write not carried out? -/
def rejected (c : Config ι Lists (Program PUnit)) (m : ι × Reply) : Bool :=
  match c.locals m.1 with
  | .call (.updateSecurityList id etag _ _) _ => (c.shared.accepts id etag m.2).isNone
  | _ => false

/-! ## How the lists change -/

/-- `lists'` can come after `lists`: a list that has an etag from then still has it and is
unchanged. -/
structure Later (lists lists' : Lists) : Prop where
  etags : ∀ id, ∀ etag ∈ lists.etags id, etag ∈ lists'.etags id
  unchanged : ∀ id, lists'.etag id ∈ lists.etags id →
    lists'.etag id = lists.etag id ∧ lists'.store.lookup id = lists.store.lookup id

theorem later_write {lists : Lists} {id etag : String} {secList : SecurityList}
    (hnew : etag ∉ lists.etags id) : Later lists (lists.write id etag secList) := by
  constructor <;> intro id' <;> by_cases hid : id' = id
  · subst hid
    intro e he
    rw [Lists.etags_write_self]
    exact List.mem_cons_of_mem _ he
  · intro e he
    rwa [Lists.etags_write_of_ne hid]
  · subst hid
    rw [Lists.etag_write_self]
    exact fun he => absurd he hnew
  · exact fun _ => ⟨Lists.etag_write_of_ne hid, Lists.lookup_write_of_ne hid⟩

theorem rely : Program.Rely serve Legal Later where
  refl _ := ⟨fun _ _ h => h, fun _ _ => ⟨rfl, rfl⟩⟩
  trans h h' := by
    refine ⟨fun id e he => h'.etags id e (h.etags id e he), fun id hid => ?_⟩
    obtain ⟨hetag', hlookup'⟩ := h'.unchanged id (h.etags id _ hid)
    obtain ⟨hetag, hlookup⟩ := h.unchanged id (hetag' ▸ hid)
    exact ⟨hetag'.trans hetag, hlookup'.trans hlookup⟩
  serve := by
    rintro lists (id | ⟨id, etag, ingressRules, egressRules⟩) f hf
    · exact ⟨fun _ _ h => h, fun _ _ => ⟨rfl, rfl⟩⟩
    · dsimp only [serve]
      cases haccepts : lists.accepts id etag f with
      | none => exact ⟨fun _ _ h => h, fun _ _ => ⟨rfl, rfl⟩⟩
      | some secList => exact later_write (hf (by rw [haccepts]; rfl))

/-! ## What a job knows about a list that it has read -/

/-- The list still is as it was read, if it still has the etag that it had then. -/
structure Seen (lists : Lists) (r : Response) : Prop where
  known : r.etag ∈ lists.etags r.id
  stored : lists.etag r.id = r.etag → lists.store.lookup r.id = some r.secList

theorem Seen.later {lists lists' : Lists} {r : Response} (h : Seen lists r)
    (hlater : Later lists lists') : Seen lists' r := by
  refine ⟨hlater.etags _ _ h.known, fun hetag => ?_⟩
  obtain ⟨hetag', hlookup⟩ := hlater.unchanged r.id (hetag ▸ h.known)
  exact hlookup.trans (h.stored (hetag'.symm.trans hetag))

/-- A write is of rules that were computed from a list as it was read. -/
def Computed (rules : SecurityList → List SecurityRule × List SecurityRule) (lists : Lists) :
    Call → Prop
  | .getSecurityList _ => True
  | .updateSecurityList id etag ingressRules egressRules =>
    ∃ secList, Seen lists ⟨id, secList, etag⟩ ∧ (ingressRules, egressRules) = rules secList

variable {rules : SecurityList → List SecurityRule × List SecurityRule} {lists : Lists}
  {c : Config ι Lists (Program PUnit)}

theorem guards_response (id : String) :
    Program.Guards serve Legal Later (Computed rules)
      (fun x lists => ∀ r, x = .ok r → Seen lists r) (response id) lists := by
  refine fun lists' _ => ⟨trivial, fun f _ lists'' hlater r hr => ?_⟩
  refine Seen.later ?_ hlater
  cases herr : f.error with
  | some err => simp [serve, herr, Except.map] at hr
  | none =>
    cases hl : lists'.store.lookup id with
    | none => simp [serve, herr, hl, Except.map] at hr
    | some secList =>
      simp only [serve, herr, hl, Except.map, Except.ok.injEq] at hr
      subst hr
      exact ⟨List.mem_cons_self, fun _ => hl⟩

theorem guards_responses (ids : List String) :
    Program.Guards serve Legal Later (Computed rules)
      (fun x lists => ∀ rs, x = .ok rs → ∀ r ∈ rs, Seen lists r) (responses ids) lists := by
  induction ids generalizing lists with
  | nil =>
    rintro lists' - _ hrs r hr
    cases hrs
    cases hr
  | cons id ids ih =>
    refine .bind rely ((guards_response id).mono ?_)
    rintro (err | r) lists' hr
    · exact fun _ h => nomatch h
    · refine .bind rely ((ih.frame rely (I := (Seen · r)) (fun _ _ => Seen.later) (hr r rfl)).mono ?_)
      rintro (err | rs) lists'' ⟨hrs, hr⟩
      · exact fun _ h => nomatch h
      · rintro lists₃ hlater _ ⟨⟩ r' hmem
        rcases List.mem_cons.mp hmem with rfl | hmem
        · exact hr.later hlater
        · exact (hrs rs rfl r' hmem).later hlater

theorem guards_getSecurityList (s : BaseSecurityListManager) (subnet : SubnetWithLists) :
    Program.Guards serve Legal Later (Computed rules)
      (fun x lists => ∀ r, x = .ok r → Seen lists r) (getSecurityList s subnet) lists := by
  unfold getSecurityList
  cases subnet.securityListIds with
  | nil => exact fun _ _ _ h => nomatch h
  | cons id₀ ids =>
    dsimp only
    split
    · exact guards_response _
    · refine .bind rely ((guards_response id₀).mono ?_)
      rintro (err | r) lists' hr
      · exact fun _ h => nomatch h
      · refine .bind rely (((guards_responses ids).frame rely (I := (Seen · r))
          (fun _ _ => Seen.later) (hr r rfl)).mono ?_)
        rintro (err | rs) lists'' ⟨hrs, hr⟩
        · exact fun _ h => nomatch h
        · rintro lists₃ hlater _ ⟨⟩
          rcases List.mem_cons.mp (oldest_mem (f := Response.secList) r rs) with heq | hmem
          · rw [heq]
            exact hr.later hlater
          · exact (hrs rs rfl _ hmem).later hlater

theorem guards_rewriteStep (s : BaseSecurityListManager) (kind : String)
    (subnet : SubnetWithLists) :
    Program.Guards serve Legal Later (Computed rules) (fun _ _ => True)
      (rewriteStep s kind rules subnet) lists := by
  refine .bind rely (.mapError ((guards_getSecurityList s subnet).mono ?_))
  rintro (err | r) lists' hr
  · trivial
  · change Program.Guards serve Legal Later (Computed rules) (fun _ _ => True)
      (writeBack kind rules subnet r) lists'
    unfold writeBack
    dsimp only
    split
    · intro lists'' hlater
      exact ⟨⟨r.secList, (hr r rfl).later hlater, rfl⟩, fun _ _ _ _ => trivial⟩
    · exact fun _ _ => trivial

/-- Whatever the other jobs do, a job writes rules that it has computed from what it read. -/
theorem guards_program (job : Job) :
    Program.Guards serve Legal Later (Computed job.rules) (fun _ _ => True) job.program lists := by
  cases job with
  | updateBackendRules => exact .forM rely fun _ _ => guards_rewriteStep ..
  | updateLoadBalancerRules => exact .forM rely fun _ _ => guards_rewriteStep ..

/-! ## Rejected writes -/

/-- The answer says that a write has failed. -/
def FailedWrite : (q : Call) → Answer q → Prop
  | .getSecurityList _, _ => False
  | .updateSecurityList .., answer => ∃ err, answer = .error err

theorem failsOn_rewriteStep (s : BaseSecurityListManager) (kind : String)
    (subnet : SubnetWithLists) : (rewriteStep s kind rules subnet).FailsOn FailedWrite := by
  refine .bind (.mapError ((makes_getSecurityList s subnet).failsOn ?_)) fun r => ?_
  · rintro _ _ ⟨id, rfl⟩ h
    exact h
  · unfold writeBack
    dsimp only
    split
    · refine fun answer => ⟨?_, trivial⟩
      rintro ⟨err, rfl⟩
      exact ⟨_, rfl⟩
    · trivial

theorem failsOn_program (job : Job) : job.program.FailsOn FailedWrite := by
  cases job with
  | updateBackendRules => exact .forM fun _ => failsOn_rewriteStep ..
  | updateLoadBalancerRules => exact .forM fun _ => failsOn_rewriteStep ..

theorem failedWrite_of_accepts_eq_none {id etag : String} {f : Reply}
    (h : lists.accepts id etag f = none) : ∃ err, lists.answer id etag f = .error err := by
  unfold Lists.accepts at h
  unfold Lists.answer
  split
  · exact ⟨_, rfl⟩
  · exact ⟨_, rfl⟩
  · next herr hl =>
    rw [if_neg]
    · exact ⟨_, rfl⟩
    · intro hetag
      rw [if_pos ⟨hetag, .inl herr⟩, hl] at h
      cases h

/-! ## All jobs together -/

/-- Every job writes rules that it has computed from what it read. -/
def Guarded (jobs : ι → Job) (c : Config ι Lists (Program PUnit)) : Prop :=
  ∀ i, (c.locals i).Guards serve Legal Later (Computed (jobs i).rules) (fun _ _ => True) c.shared

/-- What one move does to a list. -/
theorem Guarded.lookup_move {jobs : ι → Job} {m : ι × Reply} (h : Guarded jobs c) (id : String) :
    (move (Separation.step serve) c m).shared.store.lookup id =
      (commits id c m).foldl (fun secList i => secList.map (jobs i).rewrite)
        (c.shared.store.lookup id) := by
  have hself := h m.1
  change ((c.locals m.1).step serve c.shared m.2).1.store.lookup id = _
  unfold commits
  revert hself
  cases c.locals m.1 with
  | done r => exact fun _ => rfl
  | call q next =>
    intro hself
    cases q with
    | getSecurityList id' => rfl
    | updateSecurityList id' etag ingressRules egressRules =>
      obtain ⟨secList, hseen, hrules⟩ := (hself _ (rely.refl _)).1
      dsimp only [Program.step, serve]
      cases haccepts : c.shared.accepts id' etag m.2 with
      | none => simp
      | some secList' =>
        obtain ⟨hetag, hlookup⟩ := Lists.of_accepts haccepts
        obtain rfl : secList' = secList :=
          Option.some.inj (hlookup.symm.trans (hseen.stored hetag))
        by_cases hid : id' = id
        · subst hid
          simp [hlookup, Job.rewrite, hrules]
        · simp [hid, Ne.symm hid]

theorem failsOn_after (jobs : ι → Job) (moves : List (ι × Reply)) (i : ι) :
    ((after jobs lists moves).locals i).FailsOn FailedWrite := by
  suffices h : ∀ c : Config ι Lists (Program PUnit), (∀ i, (c.locals i).FailsOn FailedWrite) →
      ((run (Separation.step serve) c moves).locals i).FailsOn FailedWrite from
    h _ fun i => failsOn_program (jobs i)
  induction moves with
  | nil => exact fun _ h => h i
  | cons m moves ih =>
    refine fun c h => ih _ (Interleaving.forall_move
      (P := fun _ _ (p : Program PUnit) => p.FailsOn FailedWrite) ?_ fun j _ => h j)
    exact (h m.1).step m.2

theorem move_of_rejected {m : ι × Reply} (hfails : (c.locals m.1).FailsOn FailedWrite)
    (h : rejected c m) :
    (move (Separation.step serve) c m).shared = c.shared ∧
      ∃ err, (move (Separation.step serve) c m).locals m.1 = .done (.error err) := by
  rw [Interleaving.locals_move_self]
  change ((c.locals m.1).step serve c.shared m.2).1 = _ ∧
    ∃ err, ((c.locals m.1).step serve c.shared m.2).2 = _
  unfold rejected at h
  revert hfails h
  cases c.locals m.1 with
  | done r => exact fun _ h => nomatch h
  | call q next =>
    intro hfails h
    cases q with
    | getSecurityList id => cases h
    | updateSecurityList id etag ingressRules egressRules =>
      have hnone : c.shared.accepts id etag m.2 = none := Option.isNone_iff_eq_none.mp h
      refine ⟨?_, (hfails _).1 (failedWrite_of_accepts_eq_none hnone)⟩
      dsimp only [Program.step, serve]
      rw [hnone]

/-- No update is lost. At every point of every interleaving a list holds what the jobs that
have written it make of it one after the other, in the order of their writes. A write that is
rejected changes nothing, and its job returns an error. -/
theorem store_after_eq_commits (jobs : ι → Job) (lists : Lists) (moves : List (ι × Reply))
    (hmay : Interleaving.Along (Separation.step serve) (Separation.MayMove Legal)
      (start jobs lists) moves) :
    (∀ id, (after jobs lists moves).shared.store.lookup id =
      (trace (Separation.step serve) (commits id) (start jobs lists) moves).foldl
        (fun secList i => secList.map (jobs i).rewrite) (lists.store.lookup id)) ∧
    ∀ m, rejected (after jobs lists moves) m →
      (move (Separation.step serve) (after jobs lists moves) m).shared =
        (after jobs lists moves).shared ∧
      ∃ err, (move (Separation.step serve) (after jobs lists moves) m).locals m.1 =
        .done (.error err) := by
  refine ⟨fun id => ?_, fun m hm => move_of_rejected (failsOn_after jobs moves m.1) hm⟩
  have hstart : Guarded jobs (start jobs lists) := fun i => guards_program (jobs i)
  refine Interleaving.foldl_trace (fun lists : Lists => lists.store.lookup id) (fun c m h hm => ?_)
    hstart hmay
  exact ⟨Rely.guards_move rely h hm, h.lookup_move id⟩

/-- A job for one subnet that opens a listener port. -/
def openPort (listenerPort : Nat) : Job :=
  .updateLoadBalancerRules { serviceLister := .ok [] }
    [{ id := "subnet", securityListIds := ["list"] }] [] ["0.0.0.0/0"] none
    { listenerPort, backendPort := 30080, healthCheckerPort := 10256 } [.ipv4]

def oneList : Lists where
  store := GoMap.ofPairs [("list", ⟨[], [], 0⟩)]
  etag _ := "e0"

/-- Two services read a list at the same time, and one of them writes it. The list then holds
its rules, and the write of the other one is rejected. -/
theorem store_after_commit :
    (after (fun i : Fin 2 => openPort (80 + i)) oneList
      [(0, {}), (1, {}), (0, { etag := "e1" })]).shared.store.lookup "list" =
        some ((openPort 80).rewrite ⟨[], [], 0⟩) ∧
    ∃ err, (move (Separation.step serve) (after (fun i : Fin 2 => openPort (80 + i)) oneList
      [(0, {}), (1, {}), (0, { etag := "e1" })]) (1, { etag := "e2" })).locals 1 =
        .done (.error err) := by
  obtain ⟨hstore, hrejected⟩ := store_after_eq_commits (fun i : Fin 2 => openPort (80 + i)) oneList
    [(0, {}), (1, {}), (0, { etag := "e1" })] (by decide +kernel)
  have hcommits : trace (Separation.step serve) (commits "list")
      (start (fun i : Fin 2 => openPort (80 + i)) oneList)
      [(0, {}), (1, {}), (0, { etag := "e1" })] = [0] := by decide +kernel
  refine ⟨(hstore "list").trans ?_, (hrejected (1, { etag := "e2" }) (by decide +kernel)).2⟩
  rw [hcommits]
  rfl

end OciCcm.SecurityLists.Calls
