import OciCcm.Csi.BlockVolume
import OciCcm.Go.Runs

/-! # Retries create no second volume

A request is retried until it succeeds. A retry must find what an earlier attempt
has created, also if that attempt failed. The lookup by name takes a volume or a
backup into account only in some of the states that lead to `AVAILABLE`.
-/

namespace OciCcm.Csi.BlockVolume

open Client Go List

/-! ## Attempts -/

/-- Every complete listing shows each of the resources, in a state that is all right. -/
def Shows {α : Type} (id : α → String) (ok : α → Bool) (server : Pages.Server ClientError α)
    (created : List α) : Prop :=
  ∀ items n, Pages.Listed server 0 none items n → ∀ x ∈ created, ∃ y ∈ items, id y = id x ∧ ok y

/-- One attempt: the order of the parameters, how long the listing may take, and the answers. -/
structure Attempt (α : Type) where
  order : RangeOrder.{0}
  fuel : Nat
  answers : α

/-- The volumes created so far, after one more attempt. -/
def attemptVolume (d : BlockVolumeControllerDriver) (req : CreateVolumeRequest)
    (created : List Volume) (e : Attempt VolumeAnswers) : List Volume :=
  created ++ ((createVolume d e.order e.fuel req e.answers).map Prod.snd).getD []

def attemptSnapshot (d : BlockVolumeControllerDriver) (req : CreateSnapshotRequest)
    (created : List VolumeBackup) (e : Attempt SnapshotAnswers) : List VolumeBackup :=
  created ++ ((createSnapshot d e.order e.fuel req e.answers).map Prod.snd).getD []

/-- The lookup sees every volume that was created, and a call that fails because of the system
tags has not been accepted. -/
def VolumesSeen (created : List Volume) (e : Attempt VolumeAnswers) : Prop :=
  Shows Volume.id isListedVolume e.answers.listVolumes created ∧
    (e.answers.create.error.isSome ∧ e.answers.create.isSystemTagError →
      ¬e.answers.create.accepted)

/-- The lookup sees every backup that was created. -/
def BackupsSeen (created : List VolumeBackup) (e : Attempt SnapshotAnswers) : Prop :=
  Shows VolumeBackup.id isListedBackup e.answers.listVolumeBackups created

/-! ## Lookups -/

section Lookup

variable {α : Type} {id : α → String} {ok : α → Bool} {server : Pages.Server ClientError α}
  {created : List α}

theorem ne_nil_of_shows (hshows : Shows id ok server created) (hne : created ≠ []) {fuel n : Nat}
    {found : List α} (h : Pages.collect server ok fuel 0 none [] = some (.ok found, n)) :
    found ≠ [] := by
  obtain ⟨items, hlisted, rfl⟩ := Pages.listed_of_collect h
  obtain ⟨x, hx⟩ := exists_mem_of_ne_nil created hne
  obtain ⟨y, hy, -, hok⟩ := hshows items n hlisted x hx
  exact ne_nil_of_mem (mem_append_right _ (mem_filter.mpr ⟨hy, hok⟩))

theorem length_creates_le_one (c : CreateAnswer α) : c.creates.length ≤ 1 := by
  unfold CreateAnswer.creates
  split
  · exact Nat.le_refl 1
  · exact Nat.zero_le 1

end Lookup

/-- A step that creates at most one resource, and only if there is none, never creates a
second one. -/
theorem length_le_one_of_along {α : Type} {E : Type 1} {new : E → List α} {May : List α → E → Prop}
    (hone : ∀ created e, May created e → (new e).length ≤ 1)
    (hnone : ∀ created e, May created e → created ≠ [] → new e = []) {es : List E}
    (hmay : Runs.Along (fun created e => created ++ new e) May [] es) :
    (es.foldl (fun created e => created ++ new e) []).length ≤ 1 := by
  refine @Runs.invariant_foldl _ _ _ May _ _ (fun created => created.length ≤ 1)
    (fun created e hle he => ?_) (Nat.zero_le 1) hmay
  by_cases hnil : created = []
  · subst hnil
    rw [nil_append]
    exact hone [] e he
  · rw [hnone created e he hnil, append_nil]
    exact hle

/-! ## Volumes -/

section Volumes

variable {d : BlockVolumeControllerDriver} {req : CreateVolumeRequest} {o : RangeOrder.{0}}
  {fuel : Nat} {a : VolumeAnswers}

theorem created_createVolume :
    ((createVolume d o fuel req a).map Prod.snd).getD [] = [] ∨
      ∃ c volumes n, Pages.collect a.listVolumes isListedVolume fuel 0 none [] =
          some (.ok volumes, n) ∧
        ((createVolume d o fuel req a).map Prod.snd).getD [] =
          (findOrProvisionVolume d req c a volumes).2 := by
  unfold createVolume
  cases hchecked : checkVolume d o req a with
  | error status => exact .inl rfl
  | ok c =>
    unfold getVolumesByName
    cases hcollect : Pages.collect a.listVolumes isListedVolume fuel 0 none [] with
    | none => exact .inl rfl
    | some r =>
      obtain ⟨result, n⟩ := r
      cases result with
      | error err => exact .inl rfl
      | ok volumes =>
        refine .inr ⟨c, volumes, n, rfl, ?_⟩
        generalize hfound : findOrProvisionVolume d req c a volumes = found
        obtain ⟨v, created⟩ := found
        cases v with
        | error status => simp [hfound]
        | ok v => cases a.await <;> simp [hfound]

theorem created_findOrProvisionVolume (c : Checked) (volumes : List Volume) :
    (findOrProvisionVolume d req c a volumes).2 = [] ∨
      volumes = [] ∧ (findOrProvisionVolume d req c a volumes).2 = (provisionVolume a).2 := by
  unfold findOrProvisionVolume
  split
  · exact .inl rfl
  · split
    · exact .inl rfl
    · exact .inr ⟨rfl, rfl⟩
  · exact .inl rfl

theorem length_provisionVolume
    (htags : a.create.error.isSome ∧ a.create.isSystemTagError → ¬a.create.accepted) :
    (provisionVolume a).2.length ≤ 1 := by
  unfold provisionVolume
  split
  · next hsystem =>
      have hnone : a.create.creates = [] := by
        have haccepted := htags hsystem
        cases herr : a.create.error with
        | none => simp [herr] at hsystem
        | some err => simp [CreateAnswer.creates, herr, haccepted]
      rw [hnone, nil_append]
      exact length_creates_le_one a.createAgain
  · exact length_creates_le_one a.create

end Volumes

/-! ## Backups -/

theorem created_createSnapshot {d : BlockVolumeControllerDriver} {req : CreateSnapshotRequest}
    {o : RangeOrder.{0}} {fuel : Nat} {a : SnapshotAnswers} :
    ((createSnapshot d o fuel req a).map Prod.snd).getD [] = [] ∨
      (∃ n, Pages.collect a.listVolumeBackups isListedBackup fuel 0 none [] = some (.ok [], n)) ∧
        ((createSnapshot d o fuel req a).map Prod.snd).getD [] = a.create.creates := by
  unfold createSnapshot
  split
  · exact .inl rfl
  split
  · exact .inl rfl
  split
  · exact .inl rfl
  unfold getVolumeBackupsByName
  cases hcollect : Pages.collect a.listVolumeBackups isListedBackup fuel 0 none [] with
  | none => exact .inl rfl
  | some r =>
    obtain ⟨result, n⟩ := r
    cases result with
    | error err => exact .inl rfl
    | ok backups =>
      cases backups with
      | cons backup rest =>
        cases rest with
        | cons => exact .inl rfl
        | nil =>
          simp only [Option.map_some, Option.getD_some]
          split <;> exact .inl rfl
      | nil =>
        simp only [Option.map_some, Option.getD_some, provisionSnapshot]
        split
        · exact .inl rfl
        · refine .inr ⟨⟨n, rfl⟩, ?_⟩
          split <;> rfl

/-! ## At most one -/

/-- In every run of identical requests in which each lookup sees what was created before, at
most one volume and at most one backup is created. -/
theorem length_created_le_one (d : BlockVolumeControllerDriver) (req : CreateVolumeRequest)
    (req' : CreateSnapshotRequest) :
    (∀ attempts, Runs.Along (attemptVolume d req) VolumesSeen [] attempts →
        (attempts.foldl (attemptVolume d req) []).length ≤ 1) ∧
      ∀ attempts, Runs.Along (attemptSnapshot d req') BackupsSeen [] attempts →
        (attempts.foldl (attemptSnapshot d req') []).length ≤ 1 := by
  constructor
  · intro attempts hseen
    refine length_le_one_of_along (fun created e h => ?_) (fun created e h hne => ?_) hseen
    · rcases @created_createVolume d req e.order e.fuel e.answers with hnil | ⟨c, vs, -, -, heq⟩
      · simp [hnil]
      · rw [heq]
        rcases @created_findOrProvisionVolume d req e.answers c vs with hnil | ⟨-, heq⟩
        · simp [hnil]
        · rw [heq]
          exact length_provisionVolume h.2
    · rcases @created_createVolume d req e.order e.fuel e.answers with
        hnil | ⟨c, vs, n, hcollect, heq⟩
      · exact hnil
      · have hfound : vs ≠ [] := ne_nil_of_shows h.1 hne hcollect
        rcases @created_findOrProvisionVolume d req e.answers c vs with hnil | ⟨hvs, -⟩
        · rw [heq, hnil]
        · exact absurd hvs hfound
  · intro attempts hseen
    refine length_le_one_of_along (fun created e h => ?_) (fun created e h hne => ?_) hseen
    · rcases @created_createSnapshot d req' e.order e.fuel e.answers with hnil | ⟨-, heq⟩
      · simp [hnil]
      · rw [heq]
        exact length_creates_le_one e.answers.create
    · rcases @created_createSnapshot d req' e.order e.fuel e.answers with
        hnil | ⟨⟨n, hcollect⟩, -⟩
      · exact hnil
      · exact absurd rfl (ne_nil_of_shows h hne hcollect)

/-- A server that answers a listing with one page. -/
def onePage {α : Type} (items : List α) : Pages.Server ClientError α := fun _ _ => .ok (items, none)

theorem shows_onePage {α : Type} {id : α → String} {ok : α → Bool} {items created : List α}
    (h : ∀ x ∈ created, ∃ y ∈ items, id y = id x ∧ ok y) :
    Shows id ok (onePage items) created := by
  intro items' n hlisted
  obtain ⟨rfl, -⟩ := hlisted.unique (.last rfl)
  exact h

def plainDriver : BlockVolumeControllerDriver where
  compartmentID := "compartment"

/-- A volume from a snapshot. -/
def restoreRequest : CreateVolumeRequest where
  name := "pvc-1"
  volumeCapabilities := [⟨some .mount, .singleNodeWriter⟩]
  volumeContentSource := some (.snapshot "backup")
  accessibilityRequirements :=
    some { preferred := [GoMap.ofPairs [(labelTopologyZone, "AD-1")]] }

def snapshotRequest : CreateSnapshotRequest where
  name := "snapshot-1"
  sourceVolumeId := "volume"

def restored (id : String) (state : VolumeLifecycleState) : Volume := ⟨id, state, 51200, "AD-1"⟩

def backedUp (id : String) (state : VolumeBackupLifecycleState) : VolumeBackup :=
  ⟨id, state, some "volume", 51200⟩

/-- The call that creates the volume times out after it was accepted, and the retry finds the
given volumes. -/
def volumeAttempts (found : List Volume) : List (Attempt VolumeAnswers) :=
  [⟨.stored, 1,
    { getVolumeBackup := .ok 51200
      listVolumes := onePage []
      create :=
        { error := some (.other "timeout"), accepted := true, created := restored "a" .provisioning }
      createAgain := { created := restored "b" .provisioning } }⟩,
    ⟨.stored, 1,
    { getVolumeBackup := .ok 51200
      listVolumes := onePage found
      create := { created := restored "c" .provisioning }
      createAgain := { created := restored "d" .provisioning } }⟩]

def snapshotAttempts (found : List VolumeBackup) : List (Attempt SnapshotAnswers) :=
  [⟨.stored, 1,
    { listVolumeBackups := onePage []
      create := { error := some (.other "timeout"), accepted := true,
                  created := backedUp "a" .requestReceived } }⟩,
    ⟨.stored, 1,
    { listVolumeBackups := onePage found
      create := { created := backedUp "b" .requestReceived } }⟩]

/-- Retries that find the volume in `PROVISIONING` and the backup in `CREATING`. -/
theorem created_of_provisioning :
    ((volumeAttempts [restored "a" .provisioning]).foldl
        (attemptVolume plainDriver restoreRequest)
        []).length ≤ 1 ∧
      ((snapshotAttempts [backedUp "a" .creating]).foldl
        (attemptSnapshot plainDriver snapshotRequest)
        []).length ≤ 1 := by
  have hmain := length_created_le_one plainDriver
    restoreRequest snapshotRequest
  refine ⟨hmain.1 _ ⟨⟨shows_onePage nofun, by simp⟩, ⟨shows_onePage ?_, by simp⟩, trivial⟩,
    hmain.2 _ ⟨shows_onePage nofun, shows_onePage ?_, trivial⟩⟩
  · decide +kernel
  · decide +kernel

/-- The states that lead to `AVAILABLE`. -/
def volumeComesUp (v : Volume) : Bool :=
  v.lifecycleState = .provisioning || v.lifecycleState = .restoring || v.lifecycleState = .available

def backupComesUp (b : VolumeBackup) : Bool :=
  b.lifecycleState = .requestReceived || b.lifecycleState = .creating ||
    b.lifecycleState = .available

/-- Retries that find the volume in `RESTORING` and the backup in `REQUEST_RECEIVED` create a
second one. -/
theorem created_of_restoring :
    (Runs.Along
        (attemptVolume plainDriver restoreRequest)
        (fun created e => Shows Volume.id volumeComesUp e.answers.listVolumes created) []
        (volumeAttempts [restored "a" .restoring]) ∧
      ((volumeAttempts [restored "a" .restoring]).foldl
        (attemptVolume plainDriver restoreRequest)
        []).length = 2) ∧
      Runs.Along
        (attemptSnapshot plainDriver snapshotRequest)
        (fun created e => Shows VolumeBackup.id backupComesUp e.answers.listVolumeBackups created) []
        (snapshotAttempts [backedUp "a" .requestReceived]) ∧
      ((snapshotAttempts [backedUp "a" .requestReceived]).foldl
        (attemptSnapshot plainDriver snapshotRequest)
        []).length = 2 := by
  refine ⟨⟨⟨shows_onePage nofun, shows_onePage ?_, trivial⟩, by decide +kernel⟩,
    ⟨shows_onePage nofun, shows_onePage ?_, trivial⟩, by decide +kernel⟩
  · decide +kernel
  · decide +kernel

end OciCcm.Csi.BlockVolume
