import Mathlib.Data.List.Forall2
import OciCcm.Csi.LustreCommands
import OciCcm.Go.Locks

/-! # Is a staged volume staged with its parameters?

`NodeStageVolume` is called again until it succeeds. If the parameters cannot be
set it unmounts the volume again, but it does not look at whether that succeeds;
and a volume that is mounted is taken to be staged. What an attempt has left
behind therefore decides on what the success of a later one means.
-/

namespace OciCcm.Csi.Lustre

open Go Program List

/-! ## The node -/

/-- What the calls have done to a staging path. -/
structure StagingState where
  mounted : Bool
  /-- The parameters that were set since the last mount. -/
  applied : List (String × String)
  /-- Has an unmount failed? -/
  unmountFailed : Bool
deriving DecidableEq, Repr

def StagingState.unmounted : StagingState := ⟨false, [], false⟩

/-- What is open in the answers of the node. -/
structure Reply where
  output : Except String String := .ok ""
  interfaces : Except String (List NetInterface) := .ok []
  pathError : Option PathError := none
  result : Except String Unit := .ok ()

/-- A path that is mounted exists. -/
def mountPointAnswer (mounted : Bool) : Option PathError → Except PathError Bool
  | none => .ok mounted
  | some err => if err.isNotExist && mounted then .ok true else .error err

def StagingState.executed (s : StagingState) : Command → StagingState
  | .lctlSetParam key value => { s with applied := s.applied ++ [(key, value)] }
  | _ => s

def serve (s : StagingState) (call : Call) (reply : Reply) : StagingState × Answer call :=
  match call with
  | .command c => (if reply.output.isOk then s.executed c else s, reply.output)
  | .getNetInterfacesInSubnet _ => (s, reply.interfaces)
  | .isMountPoint _ => (s, mountPointAnswer s.mounted reply.pathError)
  | .mkdirAll _ => (s, reply.result)
  | .mount .. =>
    (if reply.result.isOk then { s with mounted := true, applied := [] } else s, reply.result)
  | .unmount _ =>
    (if reply.result.isOk then { s with mounted := false, applied := [] }
      else { s with unmountFailed := true }, reply.result)

/-! ## Attempts -/

/-- A complete attempt. The order in which the parameters are set, whether the volume is locked
and the answers of the node are open. -/
def Attempted (d : LustreNodeDriver) (req : NodeStageVolumeRequest) (s : StagingState)
    (result : Except Status Unit) (s' : StagingState) : Prop :=
  ∃ applyOrder acquired replies,
    exec serve (nodeStageVolume { d with applyOrder } req acquired) s replies =
      (s', .done (.ok result))

/-- The results of attempts, one after the other. -/
inductive Attempts (d : LustreNodeDriver) (req : NodeStageVolumeRequest) (s : StagingState) :
    List (Except Status Unit) → StagingState → Prop
  | none : Attempts d req s [] s
  | more {results : List (Except Status Unit)} {result : Except Status Unit}
      {s₁ s₂ : StagingState} (before : Attempts d req s results s₁)
      (last : Attempted d req s₁ result s₂) : Attempts d req s (results ++ [result]) s₂

/-- The parameters of a volume, as they stand in the commands. -/
def parameterTexts (lib : Library) (o : RangeOrder.{0}) (lustreParamsJson : String) :
    List (String × String) :=
  if lustreParamsJson = "" then []
  else match lib.unmarshalParameters lustreParamsJson with
    | .ok lustreParams => (visited o lustreParams).map fun (key, value) => (key, value.text)
    | .error _ => []

/-- The volume is mounted, and since then all its parameters were set. -/
def ParametersApplied (lib : Library) (lustreParamsJson : String) (s : StagingState) : Prop :=
  s.mounted ∧ s.applied.Perm (parameterTexts lib .stored lustreParamsJson)

/-- After attempts: the parameters of a volume that is mounted are set, unless it is one that could
not be unmounted. -/
def Consistent (lib : Library) (lustreParamsJson : String) (s : StagingState) : Prop :=
  if s.mounted then
    s.applied.Perm (parameterTexts lib .stored lustreParamsJson) ↔ s.unmountFailed = false
  else s.unmountFailed = false

theorem visited_perm (o : RangeOrder.{0}) (lustreParams : List Parameter) :
    (visited o lustreParams).Perm (visited .stored lustreParams) := by
  unfold visited
  refine List.Perm.flatten_congr ?_
  rw [forall₂_iff_get]
  simp [o.perm, RangeOrder.stored]

theorem parameterTexts_perm (lib : Library) (o : RangeOrder.{0}) (json : String) :
    (parameterTexts lib o json).Perm (parameterTexts lib .stored json) := by
  unfold parameterTexts
  split
  · exact .refl _
  · split
    · exact (visited_perm o _).map _
    · exact .refl _

section Attempt

variable {d : LustreNodeDriver} {req : NodeStageVolumeRequest} {json : String}
  {s s' : StagingState}

/-- What is ensured of a program whatever the node answers. -/
abbrev Always {α : Type} (p : NodeProgram α) (s : StagingState)
    (post : Except String α → StagingState → Prop) : Prop :=
  Ensures serve (fun _ _ _ => True) (fun _ _ _ => True) post p s

theorem always_call {α : Type} {call : Call} {next : Answer call → NodeProgram α}
    {post : Except String α → StagingState → Prop}
    (h : ∀ reply, Always (next (serve s call reply).2) (serve s call reply).1 post) :
    Always (.call call next) s post :=
  fun reply _ => ⟨trivial, h reply⟩

/-- The calls that do nothing to the staging path. -/
def Call.Unrelated : Call → Prop
  | .command (.lctlSetParam ..) | .mount .. | .unmount _ => False
  | _ => True

theorem serve_of_unrelated {call : Call} (h : call.Unrelated) (reply : Reply) :
    (serve s call reply).1 = s := by
  cases call with
  | command c =>
    cases c with
    | lctlSetParam key value => exact absurd h id
    | _ => exact ite_self s
  | mount | unmount => exact absurd h id
  | _ => rfl

theorem unrelated_setupLnet (lustreSubnetCIDR lnetLabel : String) :
    (setupLnet d lustreSubnetCIDR lnetLabel).Makes Call.Unrelated := by
  refine makes_setupLnet trivial ?_ (makes_getLnetInfoByLnetLabel_iff.mpr trivial) ?_
  · intro c hc
    cases c with
    | lctlSetParam key value => cases hc
    | _ => trivial
  · intro interfaces netInfo
    exact makes_configureLnet trivial fun _ => trivial

/-- The network of a volume has nothing to do with its staging path. -/
theorem always_setupLnet (lustreSubnetCIDR lnetLabel : String) :
    Always (setupLnet d lustreSubnetCIDR lnetLabel) s fun _ s' => s' = s := by
  refine (unrelated_setupLnet lustreSubnetCIDR lnetLabel).ensures rfl ?_
  rintro s₁ call reply hcall rfl -
  exact ⟨serve_of_unrelated hcall reply, trivial⟩

theorem always_orInternal {step : NodeProgram Unit} {message : String → String}
    {next : NodeProgram (Except Status Unit)}
    {post : Except String (Except Status Unit) → StagingState → Prop}
    (h : Always step s fun r s' => match r with
      | .ok () => Always next s' post
      | .error _ => ∀ status, post (.ok (.error status)) s') :
    Always (orInternal step message next) s post := by
  refine Ensures.bind (Ensures.attempt (h.mono (fun _ _ _ h => h) ?_))
  rintro (err | ⟨⟩) s' h
  · exact h _
  · exact h

/-! ## Setting the parameters -/

/-- All parameters are set, or an error ends it before the last one. -/
theorem always_applyLustreParameters
    (hjson : json = "" ∨ ∃ lustreParams, d.lib.unmarshalParameters json = .ok lustreParams)
    (hs : s.applied = []) :
    Always (applyLustreParameters d json) s fun r s' => match r with
      | .ok () => s' = { s with applied := parameterTexts d.lib d.applyOrder json }
      | .error _ => ∃ before, s' = { s with applied := before } ∧
          before.length < (parameterTexts d.lib d.applyOrder json).length := by
  unfold applyLustreParameters parameterTexts
  split
  · have hsame : s = { s with applied := [] } := by rw [← hs]
    exact hsame
  · next hne =>
    obtain ⟨lustreParams, hparams⟩ := hjson.resolve_left hne
    rw [hparams, done_ok_bind]
    dsimp only
    generalize visited d.applyOrder lustreParams = entries
    refine Ensures.forM (J := fun before s' =>
      s' = { s with applied := before.map fun (key, value) => (key, value.text) }) ?_ ?_ ?_
    · have hsame : s = { s with applied := [] } := by rw [← hs]
      exact hsame
    · rintro before ⟨key, value⟩ after s' hentries rfl
      refine Ensures.bind (always_call fun reply => ?_)
      rcases reply with ⟨_ | output, _, _, _⟩
      · -- The command fails: this entry and those after it are missing.
        refine ⟨_, rfl, ?_⟩
        simp [hentries]
      · have hnext : StagingState.executed
            { s with applied := before.map fun (key, value) => (key, value.text) }
              (.lctlSetParam key value.text) =
            { s with applied :=
              (before ++ [(key, value)]).map fun (key, value) => (key, value.text) } := by
          simp [StagingState.executed]
        exact hnext
    · intro s' h
      exact h

/-! ## One attempt -/

/-- How an attempt ends. A volume that was mounted stays so, and success means that it is. -/
def Ends (lib : Library) (json : String) (s : StagingState)
    (r : Except String (Except Status Unit)) (s' : StagingState) : Prop :=
  ∃ result, r = .ok result ∧ Consistent lib json s' ∧ (s.mounted ∨ result = .ok () → s'.mounted)

theorem Ends.of_error {s₀ : StagingState} (h : Consistent d.lib json s)
    (hs : s₀.mounted → s.mounted) (status : Status) : Ends d.lib json s₀ (.ok (.error status)) s := by
  refine ⟨_, rfl, h, ?_⟩
  rintro (hmounted | hok)
  · exact hs hmounted
  · cases hok

theorem not_perm_of_length_lt {before : List (String × String)}
    (h : before.length < (parameterTexts d.lib d.applyOrder json).length) :
    ¬before.Perm (parameterTexts d.lib .stored json) := by
  intro hperm
  have hlength := (parameterTexts_perm d.lib d.applyOrder json).length_eq
  rw [← hperm.length_eq] at hlength
  omega

theorem always_mountVolume (hreq : postMountParameters d req = some json)
    (hjson : json = "" ∨ ∃ lustreParams, d.lib.unmarshalParameters json = .ok lustreParams)
    (hmounted : s.mounted = false) (hfailed : s.unmountFailed = false) (source : String) :
    Always (mountVolume d req source) s (Ends d.lib json s) := by
  have hconsistent : Consistent d.lib json s := by
    simp [Consistent, hmounted, hfailed]
  refine always_orInternal (always_call fun reply => ?_)
  rcases reply with ⟨_, _, _, err | ⟨⟩⟩
  · exact Ends.of_error hconsistent id
  · rw [hreq]
    refine Ensures.bind (Ensures.attempt
      ((always_applyLustreParameters hjson rfl).mono (fun _ _ _ h => h) ?_))
    rintro (err | ⟨⟩) s₁ h
    · obtain ⟨before, rfl, hlength⟩ := h
      refine Ensures.bind (Ensures.attempt (always_call fun reply => ?_))
      rcases reply with ⟨_, _, _, err' | ⟨⟩⟩
      · -- The volume stays mounted, without some of its parameters.
        refine Ends.of_error ?_ (fun _ => rfl) _
        have hnot := not_perm_of_length_lt hlength
        simp [Consistent, serve, Except.isOk, Except.toBool, hnot]
      · refine Ends.of_error ?_ (fun h => absurd h (by simp [hmounted])) _
        simp [Consistent, serve, Except.isOk, Except.toBool, hfailed]
    · subst h
      refine ⟨_, rfl, ?_, fun _ => rfl⟩
      have hperm := parameterTexts_perm d.lib d.applyOrder json
      simp [Consistent, serve, Except.isOk, Except.toBool, hperm, hfailed]

theorem mountPointAnswer_ok {mounted b : Bool} {pathError : Option PathError}
    (h : mountPointAnswer mounted pathError = .ok b) : mounted = b := by
  unfold mountPointAnswer at h
  split at h
  · exact Except.ok.inj h
  · split at h
    · next hboth =>
      rw [← Except.ok.inj h]
      exact (Bool.and_eq_true_iff.mp hboth).2
    · cases h

theorem mountPointAnswer_error {mounted : Bool} {pathError : Option PathError} {err : PathError}
    (h : mountPointAnswer mounted pathError = .error err) (hexist : err.isNotExist) :
    mounted = false := by
  unfold mountPointAnswer at h
  split at h
  · cases h
  · split at h
    · cases h
    · next hnot =>
      obtain rfl := Except.error.inj h
      simpa [hexist] using hnot

theorem Consistent.unmountFailed_eq (h : Consistent d.lib json s) (hmounted : s.mounted = false) :
    s.unmountFailed = false := by
  simpa [Consistent, hmounted] using h

section

variable (hreq : postMountParameters d req = some json)

include hreq

theorem always_mountIfNeeded
    (hjson : json = "" ∨ ∃ lustreParams, d.lib.unmarshalParameters json = .ok lustreParams)
    (h : Consistent d.lib json s) (source : String) :
    Always (mountIfNeeded d req source) s (Ends d.lib json s) := by
  have hmount (hmounted : s.mounted = false) :
      Always (mountVolume d req source) s (Ends d.lib json s) :=
    always_mountVolume hreq hjson hmounted (h.unmountFailed_eq hmounted) source
  refine always_call fun reply => ?_
  cases hanswer : mountPointAnswer s.mounted reply.pathError with
  | ok mountPoint =>
    have hmounted := mountPointAnswer_ok hanswer
    simp only [serve, hanswer]
    cases mountPoint with
    | true => exact ⟨_, rfl, h, fun _ => hmounted⟩
    | false => exact hmount hmounted
  | error err =>
    simp only [serve, hanswer]
    split
    · next hexist =>
      refine always_orInternal (always_call fun reply => ?_)
      rcases reply with ⟨_, _, _, err' | ⟨⟩⟩
      · exact Ends.of_error h id
      · exact hmount (mountPointAnswer_error hanswer hexist)
    · exact Ends.of_error h id _

theorem unmarshalParameters_of_checkStageRequest {acquired : Bool} {source lnetLabel : String}
    (h : checkStageRequest d req acquired = .ok (source, lnetLabel)) :
    json = "" ∨ ∃ lustreParams, d.lib.unmarshalParameters json = .ok lustreParams := by
  have hvalid : validateLustreParameters d.lib d.validateOrder json = .ok () := by
    have hparameters := (checkStageRequest_ok h).2
    rw [hreq] at hparameters
    exact hparameters
  unfold validateLustreParameters at hvalid
  split at hvalid
  · next hempty => exact .inl hempty
  · obtain ⟨lustreParams, hparams, -⟩ := bind_ok hvalid
    exact .inr ⟨lustreParams, hparams⟩

theorem always_nodeStageVolume (h : Consistent d.lib json s) (acquired : Bool) :
    Always (nodeStageVolume d req acquired) s (Ends d.lib json s) := by
  unfold nodeStageVolume
  split
  · exact Ends.of_error h id _
  · next source lnetLabel hcheck =>
    have hjson := unmarshalParameters_of_checkStageRequest hreq hcheck
    split
    · refine always_orInternal ((always_setupLnet _ lnetLabel).mono (fun _ _ _ h => h) ?_)
      rintro (err | ⟨⟩) s₁ rfl
      · exact Ends.of_error h id
      · exact always_mountIfNeeded hreq hjson h source
    · exact always_mountIfNeeded hreq hjson h source

/-! ## All attempts -/

theorem Attempted.ends {result : Except Status Unit} (h : Consistent d.lib json s)
    (hattempt : Attempted d req s result s') :
    Consistent d.lib json s' ∧ (s.mounted ∨ result = .ok () → s'.mounted) := by
  obtain ⟨applyOrder, acquired, replies, hexec⟩ := hattempt
  have hends := (always_nodeStageVolume (d := { d with applyOrder }) hreq h acquired).of_exec
    (Along.of_forall fun _ _ _ => trivial) hexec
  obtain ⟨result', heq, hends⟩ := hends
  cases heq
  exact hends

theorem Attempts.consistent {results : List (Except Status Unit)}
    (h : Attempts d req .unmounted results s) :
    Consistent d.lib json s ∧ (.ok () ∈ results → s.mounted) := by
  induction h with
  | none =>
    constructor
    · rfl
    · intro hok
      cases hok
  | more before last ih =>
    obtain ⟨hconsistent, hmounted⟩ := ih
    obtain ⟨hconsistent', hmounted'⟩ := last.ends hreq hconsistent
    refine ⟨hconsistent', fun hok => hmounted' ?_⟩
    rcases mem_append.mp hok with hok | hok
    · exact .inl (hmounted hok)
    · exact .inr (mem_singleton.mp hok).symm

end

theorem Consistent.parametersApplied_iff_of_mounted {lib : Library} {json : String}
    {s : StagingState} (h : Consistent lib json s) (hmounted : s.mounted) :
    ParametersApplied lib json s ↔ s.unmountFailed = false := by
  unfold Consistent at h
  rw [if_pos hmounted] at h
  rw [ParametersApplied, h]
  exact and_iff_right hmounted

/-- Once an attempt has succeeded the parameters of the volume are set, unless an unmount has
failed before. -/
theorem parametersApplied_iff {results : List (Except Status Unit)}
    (hreq : postMountParameters d req = some json) (h : Attempts d req .unmounted results s)
    (hok : .ok () ∈ results) :
    ParametersApplied d.lib json s ↔ s.unmountFailed = false := by
  obtain ⟨hconsistent, hmounted⟩ := h.consistent hreq
  exact hconsistent.parametersApplied_iff_of_mounted (hmounted hok)

end Attempt

/-- A driver for which every volume has one parameter. -/
def oneParameter : LustreNodeDriver := driverWith (GoMap.ofPairs [("at_min", .number "40")])

def stageRequest : NodeStageVolumeRequest where
  volumeId := "10.0.1.10@tcp1:/lustrefs"
  stagingTargetPath := "/staging"
  fsType := some "lustre"
  volumeContext := .ofPairs [("lustrePostMountParameters", "[\x7b\"at_min\":40\x7d]")]

/-- The first attempt fails to set the parameter, the second one succeeds. -/
theorem parametersApplied_retry :
    ∃ results, Attempts oneParameter stageRequest .unmounted results
        ⟨true, [("at_min", "40")], false⟩ ∧ .ok () ∈ results ∧
      ParametersApplied oneParameter.lib "[\x7b\"at_min\":40\x7d]"
        ⟨true, [("at_min", "40")], false⟩ := by
  have hfirst : Attempted oneParameter stageRequest .unmounted (.error _) .unmounted :=
    ⟨.stored, true, [{}, {}, { output := .error "no" }, {}], rfl⟩
  have hsecond : Attempted oneParameter stageRequest .unmounted (.ok ())
      ⟨true, [("at_min", "40")], false⟩ := ⟨.stored, true, [{}, {}, {}], rfl⟩
  have hattempts := (Attempts.none.more hfirst).more hsecond
  refine ⟨_, hattempts, mem_append_right _ (mem_singleton_self _), ?_⟩
  exact (parametersApplied_iff rfl hattempts
    (mem_append_right _ (mem_singleton_self _))).mpr rfl

/-- The first attempt fails to set the parameter and to unmount the volume. The second one finds it
mounted and succeeds. -/
theorem not_parametersApplied_retry :
    ∃ results s, Attempts oneParameter stageRequest .unmounted results s ∧ .ok () ∈ results ∧
      ¬ParametersApplied oneParameter.lib "[\x7b\"at_min\":40\x7d]" s := by
  have hfirst : Attempted oneParameter stageRequest .unmounted (.error _) ⟨true, [], true⟩ :=
    ⟨.stored, true, [{}, {}, { output := .error "no" }, { result := .error "busy" }], rfl⟩
  have hsecond : Attempted oneParameter stageRequest ⟨true, [], true⟩ (.ok ()) ⟨true, [], true⟩ :=
    ⟨.stored, true, [{}], rfl⟩
  refine ⟨_, _, (Attempts.none.more hfirst).more hsecond,
    mem_append_right _ (mem_singleton_self _), ?_⟩
  rintro ⟨-, hperm⟩
  exact absurd hperm.length_eq (by decide)

/-! ## Attempts that overlap -/

section Overlap

variable {ι : Type} [DecidableEq ι] (d : LustreNodeDriver) (reqs : ι → NodeStageVolumeRequest)
  (orders : ι → RangeOrder.{0}) (json : String → String)

/-- Requests to stage volumes in any interleaving, from a node on which nothing is mounted. Every
volume has a staging path and a lock. A request that is refused before it gets to the lock is one
that makes no call with it. -/
def staged (moves : List (ι × Reply)) :=
  Interleaving.run (Locks.step serve (fun i => (reqs i).volumeId) fun i =>
    nodeStageVolume { d with applyOrder := orders i } (reqs i) true)
    (Locks.start fun _ => .unmounted) moves

variable (hreq : ∀ i, postMountParameters d (reqs i) = some (json (reqs i).volumeId))

include hreq

omit [DecidableEq ι] in
theorem keeps_nodeStageVolume :
    Locks.Keeps serve (fun i => (reqs i).volumeId)
      (fun i => nodeStageVolume { d with applyOrder := orders i } (reqs i) true)
      (fun _ _ => True) (fun _ _ _ (_ : Reply) => True) (fun _ _ => True)
      (fun volume results s =>
        Consistent d.lib (json volume) s ∧ (.ok (.ok ()) ∈ results → s.mounted)) := by
  rintro i results s - ⟨hs, hmounted⟩
  have hends := always_nodeStageVolume (d := { d with applyOrder := orders i }) (hreq i) hs true
  refine hends.mono (fun _ _ _ h => h) ?_
  rintro r s' ⟨result, rfl, hs', hmounted'⟩
  refine ⟨hs', fun hok => hmounted' ?_⟩
  rcases mem_cons.mp hok with hok | hok
  · exact .inr (Except.ok.inj hok).symm
  · exact .inl (hmounted hok)

/-- However requests overlap: no two are under way for one volume, and when none is and one has
succeeded, the parameters of the volume are set, unless an unmount has failed. -/
theorem parametersApplied_staged (moves : List (ι × Reply)) :
    let c := staged d reqs orders moves
    (∀ i j p p', c.locals i = .running p → c.locals j = .running p' →
      (reqs i).volumeId = (reqs j).volumeId → i = j) ∧
    ∀ volume ∉ c.shared.locks, .ok (.ok ()) ∈ c.shared.results volume →
      (ParametersApplied d.lib (json volume) (c.shared.state volume) ↔
        (c.shared.state volume).unmountFailed = false) := by
  intro c
  have hinv := Locks.inv_run (keeps_nodeStageVolume d reqs orders json hreq)
    (fun _ => .unmounted) (fun _ => trivial) (fun _ => ⟨rfl, nofun⟩) (Interleaving.Along.of_forall
      (Locks.may_of_forall (fun _ _ => trivial) fun _ _ _ _ => trivial) moves)
  refine ⟨hinv.alone, fun volume hfree hok => ?_⟩
  obtain ⟨hconsistent, hmounted⟩ := hinv.free volume hfree
  exact hconsistent.parametersApplied_iff_of_mounted (hmounted hok)

end Overlap

/-- A second request comes while the first one is under way. -/
def overlapping : List (Bool × Reply) :=
  [(true, {}), (false, {}), (true, {}), (true, {}), (true, {}), (true, {})]

theorem parametersApplied_overlapping :
    ParametersApplied oneParameter.lib "[\x7b\"at_min\":40\x7d]"
      ((staged oneParameter (fun _ : Bool => stageRequest) (fun _ => .stored)
        overlapping).shared.state stageRequest.volumeId) := by
  have hfree : stageRequest.volumeId ∉ (staged oneParameter (fun _ : Bool => stageRequest)
      (fun _ => .stored) overlapping).shared.locks := by decide +kernel
  exact ((parametersApplied_staged oneParameter _ _ (fun _ => _) (fun _ => rfl) overlapping).2 _ hfree
    (mem_singleton_self _)).mpr rfl

end OciCcm.Csi.Lustre
