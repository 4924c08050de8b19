import OciCcm.Csi.FssController

/-! # The tags of a file system in shared memory

A request that has no tags in its storage class writes its mount target into the
tags of the cluster's configuration, which other requests write as well. Here is
what a request relies on between writing its tags and creating its file system,
what it may write itself, and which writes of others leave alone what it relies on.
-/

namespace OciCcm.Csi.Fss

open Client Go FileSystemPhase List

/-! ## Tags -/

/-- The tags that a request computes for its file system. -/
def volumeTags (p : StorageClassParameters) (mt : ProvisionedMountTarget) :
    List (String × String) :=
  [("isDeleteMountTarget", isDeleteMountTarget p), ("mountTargetOCID", mt.mountTargetOCID),
    ("exportSetId", mt.exportSetId)]

/-- The map has all of the given entries. -/
def Has (m : GoMap String) (entries : List (String × String)) : Prop :=
  ∀ e ∈ entries, m.lookup e.1 = some e.2

variable {e : String × String} {mt : ProvisionedMountTarget} {d : FSSControllerDriver}
  {req : CreateVolumeRequest}

theorem Has.insert {m : GoMap String} {entries : List (String × String)} (h : Has m entries)
    (hagree : ∀ e' ∈ entries, e'.1 = e.1 → e' = e) :
    Has (m.insert e.1 e.2) entries := by
  intro e' he'
  rw [GoMap.lookup_insert_eq_ite]
  split
  · next hkey => rw [hagree e' he' hkey]
  · exact h e' he'

variable {p : StorageClassParameters}

theorem eq_of_mem_volumeTags {e e' : String × String} (he : e ∈ volumeTags p mt)
    (he' : e' ∈ volumeTags p mt) (hkey : e'.1 = e.1) : e' = e := by
  have hnodup : ((volumeTags p mt).map Prod.fst).Nodup := by
    simp [volumeTags]
  exact inj_on_of_nodup_map hnodup he' he hkey

theorem Has.insert_volumeTag {m : GoMap String} {k : Nat} (h : Has m ((volumeTags p mt).take k))
    (he : e ∈ volumeTags p mt) :
    Has (m.insert e.1 e.2) ((volumeTags p mt).take k) :=
  h.insert fun _ he' => eq_of_mem_volumeTags he (mem_of_mem_take he')

/-! ## What a request relies on -/

namespace FileSystemPhase

/-- The free-form tags that the request believes its tag configuration to have. -/
def believes : FileSystemPhase → Option (Option Pointer)
  | makeTags freeformTags => some freeformTags
  | tagIsDeleteMountTarget m | tagMountTargetOCID m | tagExportSetId m => some (some m)
  | createFileSystem freeformTags _ => some freeformTags
  | _ => none

/-- How many tags the request has written and still needs. -/
def written : FileSystemPhase → Nat
  | tagMountTargetOCID _ => 1
  | tagExportSetId _ => 2
  | findFileSystem | readDetails | createFileSystem _ _ => 3
  | _ => 0

/-- Would it harm the request if others changed the tags? -/
def needsTags : FileSystemPhase → Bool
  | makeTags none | tagMountTargetOCID _ | tagExportSetId _ | findFileSystem | readDetails
  | createFileSystem _ _ => true
  | _ => false

/-- The request has found no free-form tags and is about to make them. -/
def makesTags : FileSystemPhase → Bool
  | makeTags none => true
  | _ => false

def writesTag : FileSystemPhase → Bool
  | tagIsDeleteMountTarget _ | tagMountTargetOCID _ | tagExportSetId _ => true
  | _ => false

variable {phase : FileSystemPhase}

theorem needsTags_of_written (h : phase.written ≠ 0) :
    phase.needsTags := by
  cases phase <;> first | rfl | exact absurd rfl h

theorem needsTags_of_believes (h : phase.believes = some none) :
    phase.needsTags := by
  cases phase <;> simp_all [believes, needsTags]

end FileSystemPhase

/-- The free-form tags of a tag configuration. -/
def World.freeformTags (w : World) (q : Pointer) : Option Pointer :=
  (w.configs.load q).freeformTags

/-- What a request relies on: the tag configuration has the tags that it believes it to have,
and they hold what the request has written. -/
structure Relies (w : World) (p : StorageClassParameters) (mt : ProvisionedMountTarget)
    (phase : FileSystemPhase) : Prop where
  believes : ∀ m, phase.believes = some m → w.freeformTags p.scTags = m
  written : phase.written ≠ 0 → ∃ m, w.freeformTags p.scTags = some m ∧
    Has (w.maps.load m) ((volumeTags p mt).take phase.written)

/-- What a move of a request may do to the memory. -/
inductive Writes (p : StorageClassParameters) (mt : ProvisionedMountTarget)
    (phase : FileSystemPhase) (w : World) : World → Prop
  | nothing {w' : World} (hconfigs : w'.configs = w.configs) (hmaps : w'.maps = w.maps) :
      Writes p mt phase w w'
  | make (hphase : phase = .makeTags none) (hnil : w.freeformTags p.scTags = none) :
      Writes p mt phase w (makeTags p w none).1
  | tag {m : Pointer} {e : String × String} (hphase : phase.writesTag)
      (hm : w.freeformTags p.scTags = some m) (he : e ∈ volumeTags p mt) :
      Writes p mt phase w (w.tag m e.1 e.2)

section Move

variable {req : CreateVolumeRequest} {p : StorageClassParameters} {mt : ProvisionedMountTarget}
  {a : Answer} {w w' : World} {phase : FileSystemPhase}

theorem freeformTags_of_nothing (hconfigs : w'.configs = w.configs) (q : Pointer) :
    w'.freeformTags q = w.freeformTags q := by
  rw [World.freeformTags, hconfigs, World.freeformTags]

@[simp] theorem load_tag_self (m : Pointer) (key value : String) :
    (w.tag m key value).maps.load m = (w.maps.load m).insert key value := by
  simp [World.tag]

theorem load_tag_of_ne {m m' : Pointer} (hne : m' ≠ m) (key value : String) :
    (w.tag m key value).maps.load m' = w.maps.load m' := by
  simp [World.tag, hne]

@[simp] theorem freeformTags_makeTags_self :
    (makeTags p w none).1.freeformTags p.scTags = some w.maps.next := by
  simp [makeTags, World.freeformTags]

theorem freeformTags_makeTags_of_ne {q : Pointer} (hne : q ≠ p.scTags) :
    (makeTags p w none).1.freeformTags q = w.freeformTags q := by
  simp [makeTags, World.freeformTags, hne]

theorem writes_fileSystemMove (hrelies : Relies w p mt phase) :
    Writes p mt phase w (fileSystemMove req p mt a w phase).1 := by
  cases phase with
  | makeTags freeformTags =>
    cases freeformTags with
    | none => exact .make rfl (hrelies.believes _ rfl)
    | some m => exact .nothing rfl rfl
  | tagIsDeleteMountTarget m =>
    exact .tag rfl (hrelies.believes _ rfl)
      (show ("isDeleteMountTarget", isDeleteMountTarget p) ∈ volumeTags p mt by simp [volumeTags])
  | tagMountTargetOCID m =>
    exact .tag rfl (hrelies.believes _ rfl)
      (show ("mountTargetOCID", mt.mountTargetOCID) ∈ volumeTags p mt by simp [volumeTags])
  | tagExportSetId m =>
    exact .tag rfl (hrelies.believes _ rfl)
      (show ("exportSetId", mt.exportSetId) ∈ volumeTags p mt by simp [volumeTags])
  | createFileSystem | createExport =>
    refine .nothing ?_ ?_ <;>
      simp only [fileSystemMove, provisionFileSystem, provisionExport] <;> split <;> rfl
  | findFileSystem | findExport | awaitFileSystem | awaitExport =>
    refine .nothing ?_ ?_ <;> simp only [fileSystemMove] <;> split <;> rfl
  | readTags | readDetails | done => exact .nothing rfl rfl

theorem relies_of_idle (hbelieves : phase.believes = none) (hwritten : phase.written = 0) :
    Relies w p mt phase where
  believes := by simp [hbelieves]
  written := by simp [hwritten]

/-- The tags after one more has been written. -/
theorem relies_tag {m : Pointer} {k : Nat} {e : String × String} {phase' : FileSystemPhase}
    (hm : w.freeformTags p.scTags = some m) (hhas : Has (w.maps.load m) ((volumeTags p mt).take k))
    (he : (volumeTags p mt)[k]? = some e) (hwritten : phase'.written = k + 1)
    (hbelieves : phase'.believes = none ∨ phase'.believes = some (some m)) :
    Relies (w.tag m e.1 e.2) p mt phase' where
  believes := by
    intro m' hm'
    rcases hbelieves with hb | hb
    · simp [hb] at hm'
    · obtain rfl : some m = m' := by simpa [hb] using hm'
      exact hm
  written := by
    intro _
    refine ⟨m, hm, ?_⟩
    have hmem : e ∈ volumeTags p mt := mem_of_getElem? he
    rw [load_tag_self, hwritten, take_add_one, he]
    intro e' he'
    rcases mem_append.mp he' with hold | hnew
    · exact hhas.insert_volumeTag hmem e' hold
    · obtain rfl : e' = e := by simpa using hnew
      simp

/-- A move establishes what the request relies on next. -/
theorem relies_fileSystemMove (hrelies : Relies w p mt phase) :
    Relies (fileSystemMove req p mt a w phase).1 p mt (fileSystemMove req p mt a w phase).2 := by
  cases phase with
  | readTags =>
    refine ⟨fun m hm => ?_, fun h => absurd rfl h⟩
    exact Option.some.inj hm
  | makeTags freeformTags =>
    refine ⟨fun m hm => ?_, fun h => ?_⟩
    · cases freeformTags with
      | none =>
        obtain rfl : some w.maps.next = m := Option.some.inj hm
        exact freeformTags_makeTags_self
      | some m' =>
        obtain rfl : some m' = m := Option.some.inj hm
        exact hrelies.believes _ rfl
    · cases freeformTags <;> exact absurd rfl h
  | tagIsDeleteMountTarget m =>
    have hhas : Has (w.maps.load m) ((volumeTags p mt).take 0) := by simp [Has]
    exact relies_tag (hrelies.believes _ rfl) hhas rfl rfl (.inr rfl)
  | tagMountTargetOCID m =>
    obtain ⟨m', hm', hhas⟩ := hrelies.written (by simp [written])
    obtain rfl : m' = m := Option.some.inj (hm'.symm.trans (hrelies.believes _ rfl))
    exact relies_tag hm' hhas rfl rfl (.inr rfl)
  | tagExportSetId m =>
    obtain ⟨m', hm', hhas⟩ := hrelies.written (by simp [written])
    obtain rfl : m' = m := Option.some.inj (hm'.symm.trans (hrelies.believes _ rfl))
    exact relies_tag hm' hhas rfl rfl (.inl rfl)
  | readDetails =>
    refine ⟨fun m hm => Option.some.inj hm, fun _ => ?_⟩
    exact hrelies.written (by simp [written])
  | findFileSystem =>
    simp only [fileSystemMove]
    split
    · exact relies_of_idle rfl rfl
    · exact relies_of_idle rfl rfl
    · refine ⟨by simp [believes], fun _ => ?_⟩
      exact hrelies.written (by simp [written])
  | createFileSystem | createExport =>
    apply relies_of_idle <;>
      simp only [fileSystemMove, provisionFileSystem, provisionExport] <;>
      cases a.error <;> rfl
  | findExport | awaitFileSystem | awaitExport =>
    simp only [fileSystemMove]
    split <;> exact relies_of_idle rfl rfl
  | done => exact relies_of_idle rfl rfl

theorem mountTargets_fileSystemMove :
    (fileSystemMove req p mt a w phase).1.mountTargets = w.mountTargets := by
  cases phase with
  | makeTags freeformTags => cases freeformTags <;> rfl
  | createFileSystem | createExport =>
    simp only [fileSystemMove, provisionFileSystem, provisionExport]
    split <;> rfl
  | findFileSystem | findExport | awaitFileSystem | awaitExport =>
    simp only [fileSystemMove]
    split <;> rfl
  | _ => rfl

/-- A file system is created with the tags of the request. -/
theorem fileSystems_fileSystemMove (hrelies : Relies w p mt phase) {f : FileSystem}
    (hf : f ∈ (fileSystemMove req p mt a w phase).1.fileSystems) :
    f ∈ w.fileSystems ∨
      f.displayName = req.name ∧ Has f.freeformTags (volumeTags p mt) := by
  cases phase with
  | createFileSystem freeformTags definedTags =>
    simp only [fileSystemMove, provisionFileSystem] at hf
    split at hf
    · rcases mem_append.mp hf with hold | hnew
      · exact .inl hold
      · obtain rfl := mem_singleton.mp hnew
        obtain ⟨m, hm, hhas⟩ := hrelies.written (by simp [written])
        have htags : freeformTags = some m := (hrelies.believes _ rfl).symm.trans hm
        subst htags
        exact .inr ⟨rfl, hhas⟩
    · exact .inl hf
  | makeTags freeformTags =>
    cases freeformTags <;> exact .inl hf
  | createExport =>
    simp only [fileSystemMove, provisionExport] at hf
    split at hf <;> exact .inl hf
  | findFileSystem | findExport | awaitFileSystem | awaitExport =>
    simp only [fileSystemMove] at hf
    split at hf <;> exact .inl hf
  | _ => exact .inl hf

end Move

/-! ## Interference -/

/-- The tag configurations have maps of their own. -/
structure World.WellFormed (w : World) : Prop where
  allocated : ∀ q < w.configs.next, ∀ m, w.freeformTags q = some m → m < w.maps.next
  separate : ∀ q < w.configs.next, ∀ q' < w.configs.next, ∀ m, w.freeformTags q = some m →
    w.freeformTags q' = some m → q = q'

section Interference

variable {p q : StorageClassParameters} {mt nt : ProvisionedMountTarget} {w w' : World}
  {phase phase' : FileSystemPhase}

theorem Relies.frame (hrelies : Relies w q nt phase')
    (hconfig : w'.freeformTags q.scTags = w.freeformTags q.scTags)
    (hmaps : ∀ m, w.freeformTags q.scTags = some m → phase'.written ≠ 0 →
      Has (w.maps.load m) ((volumeTags q nt).take phase'.written) →
        Has (w'.maps.load m) ((volumeTags q nt).take phase'.written)) :
    Relies w' q nt phase' where
  believes m hm := hconfig.trans (hrelies.believes m hm)
  written hne := by
    obtain ⟨m, hm, hhas⟩ := hrelies.written hne
    exact ⟨m, hconfig.trans hm, hmaps m hm hne hhas⟩

theorem next_of_writes (hwrites : Writes p mt phase w w') : w'.configs.next = w.configs.next := by
  cases hwrites with
  | nothing hconfigs _ => rw [hconfigs]
  | make => rfl
  | tag => rfl

theorem World.WellFormed.extend (hwf : w.WellFormed) {r : Pointer}
    (hle : w.maps.next ≤ w'.maps.next)
    (hnew : ∀ m, w'.freeformTags r = some m → m = w.maps.next ∧ m < w'.maps.next)
    (hold : ∀ q < w'.configs.next, q ≠ r →
      q < w.configs.next ∧ w'.freeformTags q = w.freeformTags q) : w'.WellFormed := by
  have hlt : ∀ q < w'.configs.next, q ≠ r → ∀ m, w'.freeformTags q = some m →
      m < w.maps.next := by
    intro q hq hne m hm
    obtain ⟨hq, heq⟩ := hold q hq hne
    exact hwf.allocated q hq m (heq ▸ hm)
  constructor
  · intro q hq m hm
    by_cases hqr : q = r
    · exact (hnew m (hqr ▸ hm)).2
    · exact Nat.lt_of_lt_of_le (hlt q hq hqr m hm) hle
  · intro q hq q' hq' m hm hm'
    by_cases hqr : q = r <;> by_cases hqr' : q' = r
    · rw [hqr, hqr']
    · exact absurd (hnew m (hqr ▸ hm)).1 (Nat.ne_of_lt (hlt q' hq' hqr' m hm'))
    · exact absurd (hnew m (hqr' ▸ hm')).1 (Nat.ne_of_lt (hlt q hq hqr m hm))
    · obtain ⟨hq, heq⟩ := hold q hq hqr
      obtain ⟨hq', heq'⟩ := hold q' hq' hqr'
      exact hwf.separate q hq q' hq' m (heq ▸ hm) (heq' ▸ hm')

theorem wellFormed_of_writes (hwf : w.WellFormed) (hwrites : Writes p mt phase w w') :
    w'.WellFormed := by
  cases hwrites with
  | nothing hconfigs hmaps =>
    constructor
    · intro q hq m hm
      rw [hconfigs] at hq
      rw [freeformTags_of_nothing hconfigs] at hm
      rw [hmaps]
      exact hwf.allocated q hq m hm
    · intro q hq q' hq' m hm hm'
      rw [hconfigs] at hq hq'
      rw [freeformTags_of_nothing hconfigs] at hm hm'
      exact hwf.separate q hq q' hq' m hm hm'
  | tag => exact ⟨hwf.allocated, hwf.separate⟩
  | make =>
    refine @World.WellFormed.extend _ _ hwf p.scTags (Nat.le_succ _) (fun m hm => ?_) fun q hq hne => ?_
    · rw [freeformTags_makeTags_self] at hm
      cases hm
      exact ⟨rfl, Nat.lt_succ_self _⟩
    · exact ⟨hq, freeformTags_makeTags_of_ne hne⟩

/-- A move does not harm a request with another tag configuration, nor one that does not need
its tags or has the same ones. -/
theorem relies_of_writes (hwf : w.WellFormed) (hp : p.scTags < w.configs.next)
    (hq : q.scTags < w.configs.next) (hwrites : Writes p mt phase w w')
    (hrelies : Relies w q nt phase')
    (hundisturbed : p.scTags = q.scTags → phase'.needsTags →
      ¬phase.makesTags ∧ (phase.writesTag → volumeTags p mt = volumeTags q nt)) :
    Relies w' q nt phase' := by
  cases hwrites with
  | nothing hconfigs hmaps =>
    refine hrelies.frame (freeformTags_of_nothing hconfigs _) fun m _ _ hhas => ?_
    rw [hmaps]
    exact hhas
  | make hphase hnil =>
    subst hphase
    by_cases hshared : p.scTags = q.scTags
    · have hidle : ¬phase'.needsTags := fun h => (hundisturbed hshared h).1 rfl
      refine ⟨fun m hm => absurd ?_ hidle, fun h => absurd ?_ hidle⟩
      · have hnone : m = none := by
          rw [← hrelies.believes m hm, ← hshared, hnil]
        exact needsTags_of_believes (hnone ▸ hm)
      · exact needsTags_of_written h
    · refine hrelies.frame (freeformTags_makeTags_of_ne (Ne.symm hshared)) fun m hm _ hhas => ?_
      have hlt : m < w.maps.next := hwf.allocated _ hq m hm
      change Has ((w.maps.alloc ∅).load m) _
      rw [Heap.load_alloc_of_lt hlt]
      exact hhas
  | @tag m e hphase hm he =>
    refine hrelies.frame rfl fun m' hm' hwritten hhas => ?_
    by_cases hshared : p.scTags = q.scTags
    · have htags := (hundisturbed hshared (needsTags_of_written hwritten)).2 hphase
      obtain rfl : m = m' := by
        rw [← hshared, hm] at hm'
        exact Option.some.inj hm'
      rw [load_tag_self]
      exact hhas.insert_volumeTag (htags ▸ he)
    · have hne : m' ≠ m := by
        rintro rfl
        exact hshared (hwf.separate _ hp _ hq m' hm hm')
      rw [load_tag_of_ne hne]
      exact hhas

end Interference

/-! ## Where the tags come from -/

/-- The mount target that the user has supplied, if any. -/
def suppliedMountTarget (req : CreateVolumeRequest) : String :=
  (req.parameters.lookup "mountTargetOcid").getD ""

/-- The path of the export: the one of the storage class, or else one from the name. -/
def exportPath (req : CreateVolumeRequest) : String :=
  (req.parameters.lookup "exportPath").getD ("/" ++ req.name)

/-- The request has no tags in its storage class, but there are some for the cluster. -/
def usesClusterTags (d : FSSControllerDriver) (req : CreateVolumeRequest) : Bool :=
  d.clusterTags.isSome &&
    match tagsOverride req.parameters initialFreeformTagsOverride "freeform"
        d.unmarshal.freeformTags,
      tagsOverride req.parameters initialDefinedTagsOverride "defined" d.unmarshal.definedTags with
    | .ok none, .ok none => true
    | _, _ => false

/-- What a request does to the memory when it looks for its tags. -/
inductive FindsTags (d : FSSControllerDriver) (req : CreateVolumeRequest) (w : World) :
    Pointer → World → Prop
  | cluster {q : Pointer} (huses : usesClusterTags d req) (hq : d.clusterTags = some q) :
      FindsTags d req w q w
  | own (tags : Option (GoMap String)) (definedTags : Option DefinedTags) :
      FindsTags d req w w.configs.next
        { w with
          maps := (tags.map w.maps.alloc).getD w.maps
          configs := w.configs.alloc ⟨tags.map fun _ => w.maps.next, definedTags⟩ }

theorem findsTags_tagConfig {w : World} {freeformTags : Option (GoMap String)}
    {definedTags : Option DefinedTags}
    (hfree : tagsOverride req.parameters initialFreeformTagsOverride "freeform"
      d.unmarshal.freeformTags = .ok freeformTags)
    (hdefined : tagsOverride req.parameters initialDefinedTagsOverride "defined"
      d.unmarshal.definedTags = .ok definedTags) :
    FindsTags d req w (tagConfig d freeformTags definedTags w).1
      (tagConfig d freeformTags definedTags w).2 := by
  cases freeformTags with
  | some tags => exact .own (some tags) definedTags
  | none =>
    cases definedTags with
    | some tags => exact .own none (some tags)
    | none =>
      cases hq : d.clusterTags with
      | none =>
        simp only [tagConfig, hq]
        exact .own none none
      | some q =>
        simp only [tagConfig, hq]
        exact .cluster (by simp [usesClusterTags, hq, hfree, hdefined]) hq

theorem checkRequest_ok {a : Answer} {w w' : World} (h : checkRequest d req a w = .ok (p, w')) :
    p.mountTargetOcid = suppliedMountTarget req ∧ p.exportPath = exportPath req ∧
      FindsTags d req w p.scTags w' := by
  unfold checkRequest at h
  split at h
  · cases h
  split at h
  · cases h
  obtain ⟨_, -, h⟩ := bind_ok h
  obtain ⟨_, -, h⟩ := bind_ok h
  obtain ⟨_, -, h⟩ := bind_ok h
  obtain ⟨ad, -, h⟩ := bind_ok h
  obtain ⟨mountTarget, hmount, h⟩ := bind_ok h
  obtain ⟨_, -, h⟩ := bind_ok h
  obtain ⟨freeformTags, hfree, h⟩ := bind_ok h
  obtain ⟨definedTags, hdefined, h⟩ := bind_ok h
  obtain ⟨rfl, rfl⟩ := Prod.mk.inj (Except.ok.inj h)
  refine ⟨?_, rfl, findsTags_tagConfig hfree hdefined⟩
  unfold mountTargetParameters at hmount
  unfold suppliedMountTarget
  split at hmount
  · next hocid =>
      rw [hocid, ← Except.ok.inj hmount]
      rfl
  · next hocid =>
      split at hmount
      · cases hmount
      · split_ifs at hmount
        rw [hocid, ← Except.ok.inj hmount]
        rfl

section FindsTags

variable {d : FSSControllerDriver} {req : CreateVolumeRequest} {w w' : World} {r : Pointer}

theorem next_le_of_findsTags (h : FindsTags d req w r w') : w.configs.next ≤ w'.configs.next := by
  cases h with
  | cluster => exact Nat.le_refl _
  | own => exact Nat.le_succ _

theorem freeformTags_of_findsTags (h : FindsTags d req w r w') {q : Pointer}
    (hq : q < w.configs.next) : w'.freeformTags q = w.freeformTags q := by
  cases h with
  | cluster => rfl
  | own tags definedTags =>
    simp only [World.freeformTags]
    rw [Heap.load_alloc_of_lt hq]

theorem load_of_findsTags (h : FindsTags d req w r w') {m : Pointer} (hm : m < w.maps.next) :
    w'.maps.load m = w.maps.load m := by
  cases h with
  | cluster => rfl
  | own tags definedTags =>
    cases tags with
    | none => rfl
    | some tags => exact Heap.load_alloc_of_lt hm

theorem relies_of_findsTags (hwf : w.WellFormed) (h : FindsTags d req w r w')
    {q : StorageClassParameters} {nt : ProvisionedMountTarget} {phase : FileSystemPhase}
    (hq : q.scTags < w.configs.next) (hrelies : Relies w q nt phase) : Relies w' q nt phase := by
  refine hrelies.frame (freeformTags_of_findsTags h hq) fun m hm _ hhas => ?_
  rw [load_of_findsTags h (hwf.allocated _ hq m hm)]
  exact hhas

theorem wellFormed_of_findsTags (hwf : w.WellFormed) (h : FindsTags d req w r w') :
    w'.WellFormed := by
  cases h with
  | cluster => exact hwf
  | own tags definedTags =>
    have hnew := @FindsTags.own d req w tags definedTags
    refine @World.WellFormed.extend _ _ hwf w.configs.next ?_ (fun m hm => ?_) fun q hq hne => ?_
    · cases tags with
      | none => exact Nat.le_refl _
      | some tags => exact Nat.le_succ _
    · cases tags with
      | none => simp [World.freeformTags] at hm
      | some tags =>
        obtain rfl : w.maps.next = m := by simpa [World.freeformTags] using hm
        exact ⟨rfl, Nat.lt_succ_self _⟩
    · have hlt : q < w.configs.next := Nat.lt_of_le_of_ne (Nat.lt_succ_iff.mp hq) hne
      exact ⟨hlt, freeformTags_of_findsTags hnew hlt⟩

end FindsTags

end OciCcm.Csi.Fss
