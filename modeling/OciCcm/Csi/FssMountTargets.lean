import OciCcm.Csi.FssTags

/-! # Whose mount target do the tags of a file system name?

Any number of requests for volumes with different names are made at once, in any
interleaving. As long as no request writes the tags of the cluster while another
one needs them, every file system carries the tags of its own request, and the
deletion of a volume leaves the mount targets of the others alone.
-/

namespace OciCcm.Csi.Fss

open Client Go List

/-! ## Runs -/

/-- The mount target that the request has decided to use. -/
def Phase.mountTarget : Phase → Option String
  | awaitMountTarget mountTargetOCID _ => some mountTargetOCID
  | provision mt _ => some mt.mountTargetOCID
  | _ => none

def Phase.fileSystemPhase : Phase → Option FileSystemPhase
  | provision _ phase => some phase
  | _ => none

/-- Has the request read its parameters? -/
def Phase.started : Phase → Bool
  | checkRequest | failed _ => false
  | _ => true

section Runs

variable {n : Nat} (d : FSSControllerDriver) (exportSetId : String → Option String)
  (reqs : Fin n → CreateVolumeRequest)

/-- All requests, with the world they share. -/
abbrev Requests (n : Nat) := Interleaving.Config (Fin n) World Local

def requestStep : Interleaving.Step (Fin n) World Local Answer :=
  fun i => createVolume d exportSetId (reqs i)

def start (w : World) : Requests n where
  shared := w
  locals _ := {}

/-- A list of mount targets by name has no others, and a new mount target has a new OCID. -/
def Answers (c : Requests n) (m : Fin n × Answer) : Prop :=
  match (c.locals m.1).phase with
  | .findMountTarget => ∀ s ∈ m.2.items, ∃ x ∈ c.shared.mountTargets,
      x.id = s.id ∧ x.displayName = (reqs m.1).name
  | .createMountTarget => ∀ x ∈ c.shared.mountTargets, x.id ≠ m.2.id
  | _ => True

/-- No user has supplied the mount target that the request creates. -/
def NotSupplied (c : Requests n) (m : Fin n × Answer) : Prop :=
  match (c.locals m.1).phase with
  | .createMountTarget => ∀ j, suppliedMountTarget (reqs j) ≠ "" →
      m.2.id ≠ suppliedMountTarget (reqs j)
  | _ => True

/-- The request neither makes new tags for the cluster nor writes into those there are while
another request needs them, unless the user has supplied the same mount target to both. -/
def Undisturbed (c : Requests n) (m : Fin n × Answer) : Prop :=
  ∀ j, j ≠ m.1 → usesClusterTags d (reqs m.1) → usesClusterTags d (reqs j) →
    (c.locals j).phase.fileSystemPhase.any (·.needsTags) →
      ¬(c.locals m.1).phase.fileSystemPhase.any (·.makesTags) ∧
        ((c.locals m.1).phase.fileSystemPhase.any (·.writesTag) →
          suppliedMountTarget (reqs m.1) ≠ "" ∧
            suppliedMountTarget (reqs j) = suppliedMountTarget (reqs m.1))

/-- A move that the cloud allows and that does not disturb other requests. -/
structure Considerate (c : Requests n) (m : Fin n × Answer) : Prop where
  answers : Answers reqs c m
  notSupplied : NotSupplied reqs c m
  undisturbed : Undisturbed d reqs c m

/-- Before the first request: the configuration of the cluster is in memory, OCIDs are unique,
and no user supplies a mount target with the name of a volume. -/
structure Start (w : World) : Prop where
  wellFormed : w.WellFormed
  clusterTags : ∀ q, d.clusterTags = some q → q < w.configs.next
  mountTargets : ∀ x ∈ w.mountTargets, ∀ y ∈ w.mountTargets, x.id = y.id → x = y
  notSupplied : ∀ x ∈ w.mountTargets, ∀ i, x.displayName = (reqs i).name →
    ∀ j, suppliedMountTarget (reqs j) ≠ "" → x.id ≠ suppliedMountTarget (reqs j)

/-! ## What a move can do -/

/-- What a move of `CreateVolume` can do. -/
inductive Moves (req : CreateVolumeRequest) (a : Answer) (w : World) (l : Local) :
    World → Local → Prop
  | stays : Moves req a w l w l
  | fails {status : Status} (hphase : l.phase.fileSystemPhase = none) :
      Moves req a w l w { l with phase := .failed status }
  | starts {p : StorageClassParameters} {w' : World} {phase : Phase}
      (hphase : l.phase = .checkRequest) (hfinds : FindsTags d req w p.scTags w')
      (hsupplied : p.mountTargetOcid = suppliedMountTarget req)
      (hnext : p.mountTargetOcid ≠ "" ∧ phase = .awaitMountTarget p.mountTargetOcid true ∨
        p.mountTargetOcid = "" ∧ phase = .findMountTarget) :
      Moves req a w l w' { parameters := p, phase := phase }
  | chooses {s : Summary} (hphase : l.phase = .findMountTarget) (hs : s ∈ a.items) :
      Moves req a w l w { l with phase := .awaitMountTarget s.id true }
  | misses (hphase : l.phase = .findMountTarget) :
      Moves req a w l w { l with phase := .createMountTarget }
  | creates {x : MountTarget} {phase : Phase} (hphase : l.phase = .createMountTarget)
      (hid : x.id = a.id) (hname : x.displayName = req.name)
      (hnext : phase = .awaitMountTarget a.id false ∨ ∃ status, phase = .failed status) :
      Moves req a w l { w with mountTargets := w.mountTargets ++ [x] } { l with phase := phase }
  | gets {mt : ProvisionedMountTarget} {isExisting : Bool}
      (hphase : l.phase = .awaitMountTarget mt.mountTargetOCID isExisting)
      (hexport : exportSetId mt.mountTargetOCID = some mt.exportSetId) :
      Moves req a w l w { l with phase := .provision mt .readTags }
  | provisions {mt : ProvisionedMountTarget} {phase : FileSystemPhase}
      (hphase : l.phase = .provision mt phase) :
      Moves req a w l (fileSystemMove req l.parameters mt a w phase).1
        { l with phase := .provision mt (fileSystemMove req l.parameters mt a w phase).2 }

variable {d exportSetId}

theorem existing_ok {resource : String} {duplicate : Status}
    {found : Bool × List Summary × Option ClientError} {id : String}
    (h : existing resource duplicate found = .ok (some id)) : ∃ s ∈ found.2.1, s.id = id := by
  obtain ⟨foundConflicting, summaries, err⟩ := found
  simp only [existing] at h
  split at h
  · cases h
  · split at h
    · cases h
    · next s => exact ⟨s, mem_singleton_self s, Option.some.inj (Except.ok.inj h)⟩
    · cases h

theorem existingMountTarget_ok {volumeName id : String} {a : Answer}
    (h : existingMountTarget volumeName a = .ok (some id)) : ∃ s ∈ a.items, s.id = id := by
  obtain ⟨s, hs, hid⟩ := existing_ok h
  refine ⟨s, ?_, hid⟩
  simp only [getMountTargetSummaryByDisplayName] at hs
  split at hs
  · simp at hs
  · split at hs
    · exact hs
    · exact mem_of_mem_filter hs

theorem activeMountTarget_ok {mountTargetOCID : String} {isExisting : Bool} {e : Option String}
    {a : Answer} {mt : ProvisionedMountTarget}
    (h : activeMountTarget d mountTargetOCID isExisting e a = .ok mt) :
    mt.mountTargetOCID = mountTargetOCID ∧ e = some mt.exportSetId := by
  unfold activeMountTarget at h
  split at h
  · cases h
  · cases h
  · obtain ⟨_, -, h⟩ := bind_ok h
    split at h
    · cases h
    · split at h
      · cases h
      · next he =>
          cases h
          exact ⟨rfl, (Option.filter_eq_some_iff.mp he).1⟩

theorem moves_createVolume (req : CreateVolumeRequest) (a : Answer) (w : World) (l : Local) :
    Moves d exportSetId req a w l (createVolume d exportSetId req a w l).1
      (createVolume d exportSetId req a w l).2 := by
  obtain ⟨p, phase⟩ := l
  cases phase with
  | checkRequest =>
    simp only [createVolume]
    split
    · exact .fails rfl
    · next p' w' hok =>
        obtain ⟨hsupplied, -, hfinds⟩ := checkRequest_ok hok
        refine .starts rfl hfinds hsupplied ?_
        split
        · next hne => exact .inl ⟨hne, rfl⟩
        · next heq => exact .inr ⟨not_not.mp heq, rfl⟩
  | findMountTarget =>
    simp only [createVolume]
    split
    · exact .fails rfl
    · next id hid =>
        obtain ⟨s, hs, rfl⟩ := existingMountTarget_ok hid
        exact .chooses rfl hs
    · split
      · split
        · exact .fails rfl
        · exact .misses rfl
      · exact .misses rfl
  | createMountTarget =>
    simp only [createVolume, provisionMountTarget]
    by_cases hcreates : a.creates
    · rw [if_pos hcreates]
      refine .creates rfl rfl rfl ?_
      cases a.error with
      | none => exact .inl rfl
      | some err => exact .inr ⟨_, rfl⟩
    · rw [if_neg hcreates]
      cases herr : a.error with
      | none => exact absurd (by simp [Answer.creates, herr]) hcreates
      | some err => exact .fails rfl
  | awaitMountTarget mountTargetOCID isExisting =>
    simp only [createVolume]
    split
    · exact .fails rfl
    · next mt hmt =>
        obtain ⟨rfl, hexport⟩ := activeMountTarget_ok hmt
        exact .gets rfl hexport
  | failed status => exact .stays
  | provision mt phase => exact .provisions rfl

/-! ## The invariant -/

variable (d exportSetId)

/-- What is known about the parameters of a request. -/
structure HasParameters (i : Fin n) (w : World) (p : StorageClassParameters) : Prop where
  scTags_lt : p.scTags < w.configs.next
  supplied : p.mountTargetOcid = suppliedMountTarget (reqs i)
  cluster : d.clusterTags = some p.scTags → usesClusterTags d (reqs i)

/-- A request uses the mount target that the user has supplied, or one with its name. -/
def Chosen (i : Fin n) (w : World) (p : StorageClassParameters) (id : String) : Prop :=
  if p.mountTargetOcid ≠ "" then id = p.mountTargetOcid
  else ∃ x ∈ w.mountTargets, x.id = id ∧ x.displayName = (reqs i).name

/-- The invariant of one request. -/
structure RequestInv (i : Fin n) (w : World) (l : Local) : Prop where
  parameters : l.phase.started → HasParameters d reqs i w l.parameters
  searching : l.phase = .findMountTarget ∨ l.phase = .createMountTarget →
    l.parameters.mountTargetOcid = ""
  chosen : ∀ id, l.phase.mountTarget = some id → Chosen reqs i w l.parameters id
  provisions : ∀ mt phase, l.phase = .provision mt phase →
    exportSetId mt.mountTargetOCID = some mt.exportSetId ∧ Relies w l.parameters mt phase

/-- The tags of the file system are those that the request has computed. -/
def CarriesTags (f : FileSystem) (l : Local) : Prop :=
  ∃ mt phase, l.phase = .provision mt phase ∧ Has f.freeformTags (volumeTags l.parameters mt)

/-- The invariant of a run that starts from the world `w₀`. -/
structure Inv (w₀ : World) (c : Requests n) : Prop where
  start : Start d reqs c.shared
  requests : ∀ i, RequestInv d exportSetId reqs i c.shared (c.locals i)
  apart : ∀ i j, i ≠ j → (c.locals i).phase.started → (c.locals j).phase.started →
    (c.locals i).parameters.scTags = (c.locals j).parameters.scTags → usesClusterTags d (reqs i)
  fileSystems : ∀ f ∈ c.shared.fileSystems, f ∈ w₀.fileSystems ∨
    ∃ i, f.displayName = (reqs i).name ∧ CarriesTags f (c.locals i)

variable {d exportSetId reqs} {a : DeleteAnswers}

section Step

variable {i j : Fin n} {a : Answer} {w w' : World} {l l' : Local} {req : CreateVolumeRequest}
  {p : StorageClassParameters}

theorem RequestInv.relies {mt : ProvisionedMountTarget} {phase : FileSystemPhase}
    (hinv : RequestInv d exportSetId reqs i w l) (hphase : l.phase = .provision mt phase) :
    Relies w l.parameters mt phase := (hinv.provisions mt phase hphase).2

theorem next_le_of_moves (hinv : RequestInv d exportSetId reqs i w l)
    (hmoves : Moves d exportSetId (reqs i) a w l w' l') : w.configs.next ≤ w'.configs.next := by
  cases hmoves with
  | starts _ hfinds => exact next_le_of_findsTags hfinds
  | provisions hphase =>
    exact Nat.le_of_eq (next_of_writes (writes_fileSystemMove (hinv.relies hphase))).symm
  | _ => exact Nat.le_refl _

theorem mountTargets_of_findsTags {r : Pointer} (h : FindsTags d req w r w') :
    w'.mountTargets = w.mountTargets := by
  cases h <;> rfl

theorem fileSystems_of_findsTags {r : Pointer} (h : FindsTags d req w r w') :
    w'.fileSystems = w.fileSystems := by
  cases h <;> rfl

theorem mem_mountTargets_of_moves (hmoves : Moves d exportSetId (reqs i) a w l w' l')
    {x : MountTarget} (hx : x ∈ w.mountTargets) : x ∈ w'.mountTargets := by
  cases hmoves with
  | starts _ hfinds => exact (mountTargets_of_findsTags hfinds).symm ▸ hx
  | creates => exact mem_append_left _ hx
  | provisions => exact mountTargets_fileSystemMove.symm ▸ hx
  | _ => exact hx

theorem Chosen.mono {id : String} (hmts : ∀ x ∈ w.mountTargets, x ∈ w'.mountTargets)
    (h : Chosen reqs i w p id) :
    Chosen reqs i w' p id := by
  unfold Chosen at h ⊢
  by_cases hsupplied : p.mountTargetOcid ≠ ""
  · rw [if_pos hsupplied] at h ⊢
    exact h
  · rw [if_neg hsupplied] at h ⊢
    obtain ⟨x, hx, hid, hname⟩ := h
    exact ⟨x, hmts x hx, hid, hname⟩

theorem HasParameters.mono (hnext : w.configs.next ≤ w'.configs.next)
    (h : HasParameters d reqs i w p) :
    HasParameters d reqs i w' p :=
  { h with scTags_lt := Nat.lt_of_lt_of_le h.scTags_lt hnext }

theorem volumeTags_eq {p q : StorageClassParameters} {mt nt : ProvisionedMountTarget}
    (hp : HasParameters d reqs i w p) (hq : HasParameters d reqs j w q)
    (hmt : Chosen reqs i w p mt.mountTargetOCID) (hnt : Chosen reqs j w q nt.mountTargetOCID)
    (hme : exportSetId mt.mountTargetOCID = some mt.exportSetId)
    (hne : exportSetId nt.mountTargetOCID = some nt.exportSetId)
    (hsupplied : suppliedMountTarget (reqs i) ≠ "")
    (hsame : suppliedMountTarget (reqs j) = suppliedMountTarget (reqs i)) :
    volumeTags p mt = volumeTags q nt := by
  have hps : p.mountTargetOcid ≠ "" := hp.supplied.symm ▸ hsupplied
  have hpq : q.mountTargetOcid = p.mountTargetOcid := by
    rw [hq.supplied, hsame, hp.supplied]
  unfold Chosen at hmt hnt
  rw [if_pos hps] at hmt
  rw [hpq, if_pos hps] at hnt
  have hexport : mt.exportSetId = nt.exportSetId := by
    rw [hmt] at hme
    rw [hnt] at hne
    exact Option.some.inj (hme.symm.trans hne)
  simp only [volumeTags, isDeleteMountTarget, hpq, hmt, hnt, hexport]

/-- The request that moves. -/
theorem requestInv_of_moves (hinv : RequestInv d exportSetId reqs i w l) (hstart : Start d reqs w)
    (hanswers : l.phase = .findMountTarget → ∀ s ∈ a.items, ∃ x ∈ w.mountTargets,
      x.id = s.id ∧ x.displayName = (reqs i).name)
    (hmoves : Moves d exportSetId (reqs i) a w l w' l') :
    RequestInv d exportSetId reqs i w' l' := by
  cases hmoves with
  | stays => exact hinv
  | fails => exact ⟨nofun, nofun, nofun, nofun⟩
  | @starts p w' phase hphase hfinds hsupplied hnext =>
    have hparameters : HasParameters d reqs i w' p := by
      refine ⟨?_, hsupplied, fun hcluster => ?_⟩
      · revert hfinds
        generalize p.scTags = r
        rintro (⟨-, hq⟩ | -)
        · exact hstart.clusterTags r hq
        · exact Nat.lt_succ_self _
      · revert hfinds hcluster
        generalize p.scTags = r
        rintro (⟨huses, -⟩ | -) hcluster
        · exact huses
        · exact absurd (hstart.clusterTags _ hcluster) (Nat.lt_irrefl _)
    rcases hnext with ⟨hne, rfl⟩ | ⟨heq, rfl⟩
    · refine ⟨fun _ => hparameters, nofun, fun id hid => ?_, nofun⟩
      cases hid
      exact (if_pos hne).mpr rfl
    · exact ⟨fun _ => hparameters, fun _ => heq, nofun, nofun⟩
  | @chooses s hphase hs =>
    have hsearching := hinv.searching (.inl hphase)
    refine ⟨fun _ => hinv.parameters (hphase ▸ rfl), nofun, fun id hid => ?_, nofun⟩
    cases hid
    exact (if_neg (not_not.mpr hsearching)).mpr (hanswers hphase s hs)
  | misses hphase =>
    exact ⟨fun _ => hinv.parameters (hphase ▸ rfl), fun _ => hinv.searching (.inl hphase), nofun, nofun⟩
  | @creates x phase hphase hid hname hnext =>
    have hsearching := hinv.searching (.inr hphase)
    obtain ⟨hlt, hsupplied, hcluster⟩ := hinv.parameters (hphase ▸ rfl)
    rcases hnext with rfl | ⟨status, rfl⟩
    · refine ⟨fun _ => ⟨hlt, hsupplied, hcluster⟩, nofun, fun id h => ?_, nofun⟩
      cases h
      exact (if_neg (not_not.mpr hsearching)).mpr
        ⟨x, mem_append_right _ (mem_singleton_self x), hid, hname⟩
    · exact ⟨nofun, nofun, nofun, nofun⟩
  | @gets mt isExisting hphase hexport =>
    have hchosen := hinv.chosen mt.mountTargetOCID (by rw [hphase]; rfl)
    refine ⟨fun _ => hinv.parameters (hphase ▸ rfl), nofun, fun id hid => ?_, fun mt' phase hmt => ?_⟩
    · cases hid
      exact hchosen
    · obtain ⟨rfl, rfl⟩ := Phase.provision.inj hmt
      exact ⟨hexport, relies_of_idle rfl rfl⟩
  | @provisions mt phase hphase =>
    have hchosen := hinv.chosen mt.mountTargetOCID (by rw [hphase]; rfl)
    obtain ⟨hexport, hrelies⟩ := hinv.provisions mt phase hphase
    have hnext := next_of_writes (@writes_fileSystemMove (reqs i) _ _ a _ _ hrelies)
    refine ⟨fun _ => (hinv.parameters (hphase ▸ rfl)).mono (Nat.le_of_eq hnext.symm), nofun,
      fun id hid => ?_, fun mt' phase' hmt => ?_⟩
    · cases hid
      exact hchosen.mono fun x hx => mountTargets_fileSystemMove.symm ▸ hx
    · obtain ⟨rfl, rfl⟩ := Phase.provision.inj hmt
      exact ⟨hexport, relies_fileSystemMove hrelies⟩

/-- A request that does not move. -/
theorem requestInv_of_others (hinv : RequestInv d exportSetId reqs i w l)
    {k : Local} (hother : RequestInv d exportSetId reqs j w k) (hstart : Start d reqs w)
    (hapart : l.phase.started → k.phase.started → l.parameters.scTags = k.parameters.scTags →
      usesClusterTags d (reqs i) ∧ usesClusterTags d (reqs j))
    (hundisturbed : usesClusterTags d (reqs i) → usesClusterTags d (reqs j) →
      k.phase.fileSystemPhase.any (·.needsTags) →
        ¬l.phase.fileSystemPhase.any (·.makesTags) ∧
          (l.phase.fileSystemPhase.any (·.writesTag) → suppliedMountTarget (reqs i) ≠ "" ∧
            suppliedMountTarget (reqs j) = suppliedMountTarget (reqs i)))
    (hmoves : Moves d exportSetId (reqs i) a w l w' l') :
    RequestInv d exportSetId reqs j w' k := by
  have hnext := next_le_of_moves hinv hmoves
  refine ⟨fun h => (hother.parameters h).mono hnext, hother.searching,
    fun id hid => (hother.chosen id hid).mono fun x => mem_mountTargets_of_moves hmoves,
    fun nt phase' hk => ?_⟩
  obtain ⟨hnexport, hnrelies⟩ := hother.provisions nt phase' hk
  refine ⟨hnexport, ?_⟩
  have hkstarted : k.phase.started := by rw [hk]; rfl
  have hkparameters := hother.parameters hkstarted
  cases hmoves with
  | starts _ hfinds =>
    exact relies_of_findsTags hstart.wellFormed hfinds hkparameters.scTags_lt hnrelies
  | creates => exact hnrelies.frame rfl fun _ _ _ hhas => hhas
  | @provisions mt phase hl =>
    have hstarted : l.phase.started := by rw [hl]; rfl
    have hparameters := hinv.parameters hstarted
    obtain ⟨hexport, hrelies⟩ := hinv.provisions mt phase hl
    refine relies_of_writes hstart.wellFormed hparameters.scTags_lt hkparameters.scTags_lt
      (writes_fileSystemMove hrelies) hnrelies fun hshared hneeds => ?_
    obtain ⟨huses, huses'⟩ := hapart hstarted hkstarted hshared
    have hsafe := hundisturbed huses huses' (by rw [hk]; exact hneeds)
    rw [hl] at hsafe
    refine ⟨hsafe.1, fun hwrites => ?_⟩
    obtain ⟨hsupplied, hsame⟩ := hsafe.2 hwrites
    exact volumeTags_eq hparameters hkparameters (hinv.chosen _ (by rw [hl]; rfl))
      (hother.chosen _ (by rw [hk]; rfl)) hexport hnexport hsupplied hsame
  | _ => exact hnrelies

theorem start_of_moves (hinv : RequestInv d exportSetId reqs i w l) (hstart : Start d reqs w)
    (hnew : l.phase = .createMountTarget → ∀ x ∈ w.mountTargets, x.id ≠ a.id)
    (hnot : l.phase = .createMountTarget → ∀ j, suppliedMountTarget (reqs j) ≠ "" →
      a.id ≠ suppliedMountTarget (reqs j))
    (hmoves : Moves d exportSetId (reqs i) a w l w' l') : Start d reqs w' := by
  have hnext := next_le_of_moves hinv hmoves
  have hcluster : ∀ q, d.clusterTags = some q → q < w'.configs.next :=
    fun q hq => Nat.lt_of_lt_of_le (hstart.clusterTags q hq) hnext
  cases hmoves with
  | starts _ hfinds =>
    refine ⟨wellFormed_of_findsTags hstart.wellFormed hfinds, hcluster, ?_, ?_⟩ <;>
      rw [mountTargets_of_findsTags hfinds]
    · exact hstart.mountTargets
    · exact hstart.notSupplied
  | provisions hphase =>
    refine ⟨wellFormed_of_writes hstart.wellFormed (writes_fileSystemMove (hinv.relies hphase)),
      hcluster, ?_, ?_⟩ <;> rw [mountTargets_fileSystemMove]
    · exact hstart.mountTargets
    · exact hstart.notSupplied
  | @creates x phase hphase hid hname hnext =>
    have hnew := hnew hphase
    refine ⟨⟨hstart.wellFormed.allocated, hstart.wellFormed.separate⟩, hcluster, ?_, ?_⟩
    · intro y hy z hz heq
      rcases mem_append.mp hy with hyold | hynew <;>
        rcases mem_append.mp hz with hzold | hznew
      · exact hstart.mountTargets y hyold z hzold heq
      · obtain rfl := mem_singleton.mp hznew
        exact absurd (heq.trans hid) (hnew y hyold)
      · obtain rfl := mem_singleton.mp hynew
        exact absurd (heq.symm.trans hid) (hnew z hzold)
      · rw [mem_singleton.mp hynew, mem_singleton.mp hznew]
    · intro y hy k hk j hj
      rcases mem_append.mp hy with hyold | hynew
      · exact hstart.notSupplied y hyold k hk j hj
      · obtain rfl := mem_singleton.mp hynew
        exact hid ▸ hnot hphase j hj
  | _ => exact hstart

theorem started_of_moves (hmoves : Moves d exportSetId (reqs i) a w l w' l')
    (hstarted : l'.phase.started) :
    l.phase.started ∧ l'.parameters = l.parameters ∨
      FindsTags d (reqs i) w l'.parameters.scTags w' := by
  cases hmoves with
  | stays => exact .inl ⟨hstarted, rfl⟩
  | fails => exact nomatch hstarted
  | starts _ hfinds => exact .inr hfinds
  | chooses hphase | misses hphase | creates hphase | gets hphase | provisions hphase =>
    exact .inl ⟨by rw [hphase]; rfl, rfl⟩

theorem usesClusterTags_of_moves {k : Local} (hother : RequestInv d exportSetId reqs j w k)
    (hapart : l.phase.started → k.phase.started → l.parameters.scTags = k.parameters.scTags →
      usesClusterTags d (reqs i) ∧ usesClusterTags d (reqs j))
    (hmoves : Moves d exportSetId (reqs i) a w l w' l') (hstarted : l'.phase.started)
    (hk : k.phase.started) (hshared : l'.parameters.scTags = k.parameters.scTags) :
    usesClusterTags d (reqs i) ∧ usesClusterTags d (reqs j) := by
  rcases started_of_moves hmoves hstarted with ⟨hl, hparameters⟩ | hfinds
  · exact hapart hl hk (hparameters ▸ hshared)
  · obtain ⟨hlt, -, hcluster⟩ := hother.parameters hk
    rw [hshared] at hfinds
    revert hfinds hlt hcluster
    generalize k.parameters.scTags = r
    rintro (⟨huses, hq⟩ | -) hlt hcluster
    · exact ⟨huses, hcluster hq⟩
    · exact absurd hlt (Nat.lt_irrefl _)

theorem fileSystems_of_moves (hinv : RequestInv d exportSetId reqs i w l)
    (hmoves : Moves d exportSetId (reqs i) a w l w' l') {f : FileSystem}
    (hf : f ∈ w'.fileSystems) :
    f ∈ w.fileSystems ∨ f.displayName = (reqs i).name ∧ CarriesTags f l' := by
  cases hmoves with
  | starts _ hfinds => exact .inl (fileSystems_of_findsTags hfinds ▸ hf)
  | @provisions mt phase hphase =>
    rcases fileSystems_fileSystemMove (hinv.relies hphase) hf with hold | ⟨hname, hhas⟩
    · exact .inl hold
    · exact .inr ⟨hname, mt, _, rfl, hhas⟩
  | _ => exact .inl hf

theorem carriesTags_of_moves (hmoves : Moves d exportSetId (reqs i) a w l w' l')
    {f : FileSystem} (hcarries : CarriesTags f l) : CarriesTags f l' := by
  obtain ⟨mt, phase, hphase, hhas⟩ := hcarries
  cases hmoves with
  | stays => exact ⟨mt, phase, hphase, hhas⟩
  | fails hnone => simp [hphase, Phase.fileSystemPhase] at hnone
  | @provisions mt' phase' hphase' =>
    obtain ⟨rfl, rfl⟩ := Phase.provision.inj (hphase.symm.trans hphase')
    exact ⟨mt, _, rfl, hhas⟩
  | starts h | chooses h | misses h | creates h | gets h => simp [h] at hphase

end Step

/-- Every considerate move keeps the invariant. -/
theorem inv_move {w₀ : World} {c : Requests n} {m : Fin n × Answer}
    (hinv : Inv d exportSetId reqs w₀ c) (hm : Considerate d reqs c m) :
    Inv d exportSetId reqs w₀ (Interleaving.move (requestStep d exportSetId reqs) c m) := by
  obtain ⟨i, a⟩ := m
  have hmoves := @moves_createVolume d exportSetId (reqs i) a c.shared (c.locals i)
  have hself := hinv.requests i
  obtain ⟨hanswers, hnot, hundisturbed⟩ := hm
  have hstart : Start d reqs (createVolume d exportSetId (reqs i) a c.shared (c.locals i)).1 := by
    refine start_of_moves hself hinv.start (fun h => ?_) (fun h => ?_) hmoves
    · simpa only [Answers, h] using hanswers
    · simpa only [NotSupplied, h] using hnot
  have hapart : ∀ j, j ≠ i → (c.locals i).phase.started → (c.locals j).phase.started →
      (c.locals i).parameters.scTags = (c.locals j).parameters.scTags →
        usesClusterTags d (reqs i) ∧ usesClusterTags d (reqs j) := fun j hj hi hk heq =>
    ⟨hinv.apart i j hj.symm hi hk heq, hinv.apart j i hj hk hi heq.symm⟩
  refine ⟨hstart, ?_, ?_, ?_⟩
  · refine Interleaving.forall_move ?_ fun j hj => ?_
    · refine requestInv_of_moves hself hinv.start (fun h => ?_) hmoves
      simpa only [Answers, h] using hanswers
    · exact requestInv_of_others hself (hinv.requests j) hinv.start (hapart j hj)
        (hundisturbed j hj) hmoves
  · intro i' j' hne hi' hj' hshared
    by_cases hi : i' = i
    · subst hi
      rw [Interleaving.locals_move_self] at hi' hshared
      rw [Interleaving.locals_move_of_ne hne.symm] at hj' hshared
      exact (usesClusterTags_of_moves (hinv.requests j') (hapart j' hne.symm) hmoves hi' hj'
        hshared).1
    rw [Interleaving.locals_move_of_ne hi] at hi' hshared
    by_cases hj : j' = i
    · subst hj
      rw [Interleaving.locals_move_self] at hj' hshared
      exact (usesClusterTags_of_moves (hinv.requests i') (hapart i' hne) hmoves hj' hi'
        hshared.symm).2
    · rw [Interleaving.locals_move_of_ne hj] at hj' hshared
      exact hinv.apart i' j' hne hi' hj' hshared
  · intro f hf
    rcases fileSystems_of_moves hself hmoves hf with hold | ⟨hname, hcarries⟩
    · rcases hinv.fileSystems f hold with h₀ | ⟨j, hname, hcarries⟩
      · exact .inl h₀
      · refine .inr ⟨j, hname, ?_⟩
        by_cases hj : j = i
        · subst hj
          rw [Interleaving.locals_move_self]
          exact carriesTags_of_moves hmoves hcarries
        · rw [Interleaving.locals_move_of_ne hj]
          exact hcarries
    · refine .inr ⟨i, hname, ?_⟩
      rw [Interleaving.locals_move_self]
      exact hcarries

theorem inv_start {w : World} (hstart : Start d reqs w) :
    Inv d exportSetId reqs w (start w) where
  start := hstart
  requests _ := ⟨nofun, nofun, nofun, nofun⟩
  apart _ _ _ h := nomatch h
  fileSystems _ hf := .inl hf

/-! ## Deleting a volume -/

theorem mountTarget_notMem_deleteFileSystem {volumeId filesystemOcid id : String} :
    .mountTarget id ∉ (deleteFileSystem volumeId filesystemOcid a).2 := by
  simp only [deleteFileSystem, thenCalls]
  split <;> simp

theorem mountTarget_mem_deleteExport {exportPath exportSetId id : String}
    {rest : Except Status Unit × List DeleteCall}
    (h : .mountTarget id ∈ (deleteExport exportPath exportSetId a rest).2) :
    .mountTarget id ∈ rest.2 := by
  unfold deleteExport at h
  split at h
  · exact h
  · split at h
    · simp only [thenCalls] at h
      split at h
      · simp at h
      · simpa using h
    · exact h
    · simp only [thenCalls] at h
      split at h
      · simp at h
      · simpa using h

/-- `DeleteVolume` deletes no mount target but the one in the tags. -/
theorem mountTarget_mem_deleteVolume {volumeId id : String} {handler : FSSVolumeHandler}
    {f : FileSystem} (hf : a.getFileSystem = .ok f)
    (h : .mountTarget id ∈ (deleteVolume volumeId handler a).2) :
    f.freeformTags.lookup "isDeleteMountTarget" = some "true" ∧
      id = (f.freeformTags.lookup "mountTargetOCID").getD "" := by
  have hrest : ∀ exportSetId, DeleteCall.mountTarget id ∉ (deleteExport handler.fsExportPath
      exportSetId a (deleteFileSystem volumeId handler.filesystemOcid a)).2 := fun e hmem =>
    mountTarget_notMem_deleteFileSystem (mountTarget_mem_deleteExport hmem)
  unfold deleteVolume at h
  split at h
  · simp at h
  · split at h
    · simp at h
    · rw [hf] at h
      simp only [deleteMountTarget] at h
      split at h
      · next htrue =>
          have hid : id = (f.freeformTags.lookup "mountTargetOCID").getD "" := by
            simp only [thenCalls] at h
            split at h
            · simpa using h
            · rcases mem_append.mp h with hmem | hmem
              · simpa using hmem
              · exact absurd hmem (hrest _)
          refine ⟨?_, hid⟩
          cases htag : f.freeformTags.lookup "isDeleteMountTarget" with
          | none => simp [htag] at htrue
          | some value => simpa [htag] using htrue
      · exact absurd h (hrest _)

/-! ## Own mount targets -/

variable (reqs) in
/-- The file system of a request carries the tags of the request, and its deletion deletes
neither the mount target of another request nor one that a user has supplied. -/
structure OwnMountTarget (c : Requests n) (i : Fin n) (f : FileSystem) : Prop where
  carries : CarriesTags f (c.locals i)
  deletes : ∀ volumeId handler (a : DeleteAnswers) id, a.getFileSystem = .ok f →
    .mountTarget id ∈ (deleteVolume volumeId handler a).2 →
      (∀ j, suppliedMountTarget (reqs j) ≠ "" → id ≠ suppliedMountTarget (reqs j)) ∧
        ∀ j, j ≠ i → (c.locals j).phase.mountTarget ≠ some id

variable (reqs) in
/-- The file systems that the requests have created have mount targets of their own. -/
def NoMixUp (w₀ : World) (c : Requests n) : Prop :=
  ∀ f ∈ c.shared.fileSystems, f ∉ w₀.fileSystems → ∀ i, f.displayName = (reqs i).name →
    OwnMountTarget reqs c i f

theorem noMixUp_of_inv {w₀ : World} {c : Requests n} (hinv : Inv d exportSetId reqs w₀ c)
    (hnames : Function.Injective fun i => (reqs i).name) : NoMixUp reqs w₀ c := by
  intro f hf hnew i hname
  have hcarries : CarriesTags f (c.locals i) := by
    rcases hinv.fileSystems f hf with hold | ⟨i', hname', hcarries⟩
    · exact absurd hold hnew
    · obtain rfl : i' = i := hnames (hname'.symm.trans hname)
      exact hcarries
  refine ⟨hcarries, fun volumeId handler a id hget hmem => ?_⟩
  obtain ⟨mt, phase, hphase, hhas⟩ := hcarries
  obtain ⟨hdelete, hid⟩ := mountTarget_mem_deleteVolume hget hmem
  have htag := hhas ("isDeleteMountTarget", isDeleteMountTarget (c.locals i).parameters)
    (by simp [volumeTags])
  have hocid := hhas ("mountTargetOCID", mt.mountTargetOCID) (by simp [volumeTags])
  obtain rfl : id = mt.mountTargetOCID := by
    rw [hid, hocid]
    rfl
  -- the tag says that the request has found or created its mount target by name
  have hown : (c.locals i).parameters.mountTargetOcid = "" := by
    by_contra hne
    rw [isDeleteMountTarget, if_pos hne] at htag
    exact absurd (htag.symm.trans hdelete) (by simp)
  have hchosen := (hinv.requests i).chosen mt.mountTargetOCID (by rw [hphase]; rfl)
  rw [Chosen, if_neg (not_not.mpr hown)] at hchosen
  obtain ⟨x, hx, hxid, hxname⟩ := hchosen
  have hsupplied : ∀ j, suppliedMountTarget (reqs j) ≠ "" →
      mt.mountTargetOCID ≠ suppliedMountTarget (reqs j) := fun j hj =>
    hxid ▸ hinv.start.notSupplied x hx i hxname j hj
  refine ⟨hsupplied, fun j hj hmount => ?_⟩
  have hstarted : (c.locals j).phase.started := by
    revert hmount
    generalize (c.locals j).phase = phase
    cases phase <;> simp [Phase.mountTarget, Phase.started]
  have hparameters := (hinv.requests j).parameters hstarted
  have hchosen := (hinv.requests j).chosen mt.mountTargetOCID hmount
  unfold Chosen at hchosen
  split at hchosen
  · next hne =>
      rw [hparameters.supplied] at hne hchosen
      exact hsupplied j hne hchosen
  · obtain ⟨y, hy, hyid, hyname⟩ := hchosen
    obtain rfl := hinv.start.mountTargets x hx y hy (hxid.trans hyid.symm)
    exact hj (hnames (hyname.symm.trans hxname))

/-- In any interleaving of requests for volumes with different names in which no request
disturbs another, no two volumes mix up their mount targets. -/
theorem noMixUp_of_considerate (d : FSSControllerDriver) (exportSetId : String → Option String)
    (reqs : Fin n → CreateVolumeRequest) (hnames : Function.Injective fun i => (reqs i).name)
    (w : World) (hstart : Start d reqs w) (moves : List (Fin n × Answer))
    (hmoves : Interleaving.Along (requestStep d exportSetId reqs) (Considerate d reqs) (start w)
      moves) :
    NoMixUp reqs w (Interleaving.run (requestStep d exportSetId reqs) (start w) moves) :=
  noMixUp_of_inv (Interleaving.invariant_run (fun _ _ => inv_move) (inv_start hstart) hmoves)
    hnames

instance (c : Requests n) (m : Fin n × Answer) : Decidable (Answers reqs c m) := by
  unfold Answers
  split <;> infer_instance

instance (c : Requests n) (m : Fin n × Answer) : Decidable (NotSupplied reqs c m) := by
  unfold NotSupplied
  split <;> infer_instance

instance (c : Requests n) (m : Fin n × Answer) : Decidable (Undisturbed d reqs c m) := by
  unfold Undisturbed
  infer_instance

instance (c : Requests n) (m : Fin n × Answer) : Decidable (Considerate d reqs c m) :=
  decidable_of_iff (Answers reqs c m ∧ NotSupplied reqs c m ∧ Undisturbed d reqs c m)
    ⟨fun h => ⟨h.1, h.2.1, h.2.2⟩, fun h => ⟨h.answers, h.notSupplied, h.undisturbed⟩⟩

end Runs

/-! ## Two volumes -/

/-- A driver for a cluster with tags for file storage. -/
def taggedDriver : FSSControllerDriver where
  compartmentID := "compartment"
  clusterTags := some 0
  unmarshal := ⟨fun _ => none, fun _ => none, fun _ => false, fun _ => false⟩

/-- The tags of the cluster, and nothing in the cloud. -/
def taggedWorld : World where
  configs := ⟨fun _ => ⟨some 0, none⟩, 1⟩
  maps := ⟨fun _ => GoMap.ofPairs [("env", "prod")], 1⟩
  mountTargets := []
  fileSystems := []
  exports := []

/-- A volume on the user's mount target, and one with a mount target of its own. -/
def twoVolumes : Fin 2 → CreateVolumeRequest
  | 0 =>
    { name := "pvc-a"
      volumeCapabilities := [{ accessMode := .multiNodeMultiWriter }]
      parameters := GoMap.ofPairs
        [("availabilityDomain", "AD-1"), ("mountTargetOcid", "ocid1.mounttarget.user")] }
  | 1 =>
    { name := "pvc-b"
      volumeCapabilities := [{ accessMode := .multiNodeMultiWriter }]
      parameters := GoMap.ofPairs
        [("availabilityDomain", "AD-1"), ("mountTargetSubnetOcid", "ocid1.subnet")] }

/-- Every mount target has an export set. -/
def exportSetOf (mountTargetOCID : String) : Option String := some ("exportset." ++ mountTargetOCID)

/-- The first request, up to its last tag and from there to its file system. -/
def tagsFirst : List (Fin 2 × Answer) :=
  [(0, {}), (0, { privateIpIds := ["ip"], privateIp := .ok "10.0.0.1" }), (0, {}), (0, {}), (0, {}),
    (0, {}), (0, {})]

def createsFirst : List (Fin 2 × Answer) := [(0, {}), (0, {}), (0, { id := "ocid1.filesystem.a" })]

/-- The second request, up to its file system. -/
def tagsSecond : List (Fin 2 × Answer) :=
  [(1, {}), (1, {}), (1, { id := "ocid1.mounttarget.b" }),
    (1, { privateIpIds := ["ip"], privateIp := .ok "10.0.0.2" }), (1, {}), (1, {}), (1, {}),
    (1, {}), (1, {})]

def createsSecond : List (Fin 2 × Answer) :=
  [(1, {}), (1, {}), (1, { id := "ocid1.filesystem.b" })]

theorem start_taggedWorld : Start taggedDriver twoVolumes taggedWorld where
  wellFormed := ⟨fun _ _ _ hm => Option.some.inj hm ▸ Nat.zero_lt_one,
    fun _ hq _ hq' _ _ _ => (Nat.lt_one_iff.mp hq).trans (Nat.lt_one_iff.mp hq').symm⟩
  clusterTags _ hq := Option.some.inj hq ▸ Nat.zero_lt_one
  mountTargets := nofun
  notSupplied := nofun

/-- The two volumes share the tags of the cluster, but the second writes its own only after
the first has its file system. -/
theorem twoVolumes_noMixUp :
    (Interleaving.run (requestStep taggedDriver exportSetOf twoVolumes) (start taggedWorld)
      (tagsFirst ++ createsFirst ++ tagsSecond ++ createsSecond)).shared.fileSystems.map (·.id) =
        ["ocid1.filesystem.a", "ocid1.filesystem.b"] ∧
      NoMixUp twoVolumes taggedWorld
        (Interleaving.run (requestStep taggedDriver exportSetOf twoVolumes) (start taggedWorld)
          (tagsFirst ++ createsFirst ++ tagsSecond ++ createsSecond)) := by
  have hnames : ∀ i j, (twoVolumes i).name = (twoVolumes j).name → i = j := by decide
  refine ⟨by decide +kernel, noMixUp_of_considerate _ _ _ hnames _ start_taggedWorld _ ?_⟩
  decide +kernel

/-- The file system of the first volume, with the mount target of the second. -/
def mixedUp : FileSystem where
  id := "ocid1.filesystem.a"
  displayName := "pvc-a"
  compartmentId := "compartment"
  availabilityDomain := ""
  freeformTags := (((GoMap.ofPairs [("env", "prod")]).insert "isDeleteMountTarget" "true").insert
    "mountTargetOCID" "ocid1.mounttarget.b").insert "exportSetId" "exportset.ocid1.mounttarget.b"
  definedTags := none

/-- The second request writes its tags before the first has its file system. -/
theorem twoVolumes_mixUp :
    Start taggedDriver twoVolumes taggedWorld ∧
      Interleaving.Along (requestStep taggedDriver exportSetOf twoVolumes)
        (fun c m => Answers twoVolumes c m ∧ NotSupplied twoVolumes c m) (start taggedWorld)
        (tagsFirst ++ tagsSecond ++ createsFirst) ∧
      ¬NoMixUp twoVolumes taggedWorld
        (Interleaving.run (requestStep taggedDriver exportSetOf twoVolumes) (start taggedWorld)
          (tagsFirst ++ tagsSecond ++ createsFirst)) := by
  refine ⟨start_taggedWorld, by decide +kernel, fun h => ?_⟩
  have hcreated : (Interleaving.run (requestStep taggedDriver exportSetOf twoVolumes)
      (start taggedWorld) (tagsFirst ++ tagsSecond ++ createsFirst)).shared.fileSystems =
        [mixedUp] := by rfl
  have hown := h mixedUp (hcreated ▸ mem_singleton_self _) (by simp [taggedWorld]) 0 rfl
  -- deleting the first volume deletes the mount target of the second
  have hdeletes := hown.deletes "" ⟨"ocid1.filesystem.a", "10.0.0.1", "/pvc-a"⟩
    { getFileSystem := .ok mixedUp } "ocid1.mounttarget.b" rfl (by decide +kernel)
  exact hdeletes.2 1 (by decide) (by decide +kernel)

end OciCcm.Csi.Fss
