import OciCcm.Csi.FssMountTargets
import OciCcm.Go.Net

/-! # Handles of file storage volumes

The handle of a file storage volume is made of the OCID of the file system, the
address of the mount target and the path of the export, with colons between them.
An address of version 6 has colons itself, so a handle is read from both ends.
-/

namespace OciCcm.Csi.Fss

open Go Net List

/-! ## Writing and reading -/

def brackets : List Char := ['[', ']']

/-- An address of version 6 is put in brackets. -/
def formatValidIp (ipAddress : String) : String :=
  match parseIP ipAddress with
  | some ip => if ip.isTo4 then ipAddress else "[" ++ trim ipAddress brackets ++ "]"
  | none => ipAddress

/-- The handle that `CreateVolume` returns. -/
def fssVolumeHandle (volumeId : FSSVolumeHandler) : String :=
  volumeId.filesystemOcid ++ ":" ++ formatValidIp volumeId.mountTargetIPAddress ++ ":" ++
    volumeId.fsExportPath

def isLetter (c : Char) : Bool := 'a' ≤ c ∧ c ≤ 'z' ∨ 'A' ≤ c ∧ c ≤ 'Z'

/-- Letters and digits in groups with single dashes between them. -/
def isLabel (cs : List Char) : Bool :=
  (cs.splitOn '-').all fun group => group ≠ [] && group.all fun c => isLetter c || c.isDigit

/-- `^([a-zA-Z0-9]+(-[a-zA-Z0-9]+)*\.)+[a-zA-Z]{2,}$` -/
def validateDNSName (name : String) : Bool :=
  let labels := name.toList.splitOn '.'
  let last := labels.getLast?.getD []
  2 ≤ labels.length && labels.dropLast.all isLabel && 2 ≤ last.length && last.all isLetter

def invalidHandler : FSSVolumeHandler := ⟨"", "", ""⟩

def validateFssId (id : String) : FSSVolumeHandler :=
  if id = "" then invalidHandler
  else
    let firstColon := index id ':'
    let lastColon := lastIndex id ':'
    if firstColon > 0 ∧ lastColon < id.length - 1 ∧ firstColon ≠ lastColon then
      let address := slice id (firstColon + 1) lastColon
      if (parseIP (trim address brackets)).isSome || validateDNSName address then
        ⟨slice id 0 firstColon, address, slice id (lastColon + 1) id.length⟩
      else invalidHandler
    else invalidHandler

/-! ## What is accepted -/

/-- A handle that is accepted has an OCID, and a path without colons. -/
structure WellFormed (handler : FSSVolumeHandler) : Prop where
  ocid : handler.filesystemOcid ≠ ""
  path : handler.fsExportPath ≠ ""
  colon : ':' ∉ handler.fsExportPath.toList

theorem exists_last_of_mem {sep : Char} {cs : List Char} (h : sep ∈ cs) :
    ∃ before after, cs = before ++ sep :: after ∧ sep ∉ after := by
  obtain ⟨after, before, hcs, hafter⟩ := eq_append_cons_of_mem (mem_reverse.mpr h)
  refine ⟨before.reverse, after.reverse, ?_, mt mem_reverse.mp hafter⟩
  rw [← reverse_reverse cs, hcs, reverse_append, reverse_cons, append_assoc,
    singleton_append]

/-- What is accepted is well formed. -/
theorem validateFssId_cases (id : String) :
    validateFssId id = invalidHandler ∨ WellFormed (validateFssId id) := by
  unfold validateFssId
  split
  · exact .inl rfl
  dsimp only
  split
  · next hcolons =>
    split
    · obtain ⟨hfirst, hlast, -⟩ := hcolons
      have hmem : ':' ∈ id.toList := by
        by_contra hnone
        rw [index, if_neg hnone] at hfirst
        cases hfirst
      obtain ⟨ocid, rest, hid, hocid⟩ := eq_append_cons_of_mem hmem
      obtain ⟨start, path, hid', hpath⟩ := exists_last_of_mem hmem
      have hlength : id.length = (start ++ [':']).length + path.length := by
        rw [← String.length_toList, hid', length_append, length_append, length_cons,
          length_singleton]
        omega
      have hslice : slice id (lastIndex id ':' + 1) id.length = String.ofList path := by
        refine slice_eq (l := start ++ [':']) (r := []) ?_ ?_ ?_
        · simp [hid']
        · simp [lastIndex_of_notMem hid' hpath]
        · simp [hlength]
      have hslice' : slice id 0 (index id ':') = String.ofList ocid := by
        refine slice_eq (l := []) (r := ':' :: rest) ?_ rfl ?_
        · simp [hid]
        · simp [index_of_notMem hid hocid]
      refine .inr ⟨?_, ?_, ?_⟩
      · dsimp only
        rw [hslice']
        rw [index_of_notMem hid hocid] at hfirst
        simp only [ne_eq, String.ofList_eq_empty_iff]
        rintro rfl
        cases hfirst
      · dsimp only
        rw [hslice]
        rw [lastIndex_of_notMem hid' hpath, hlength] at hlast
        simp only [ne_eq, String.ofList_eq_empty_iff]
        rintro rfl
        simp at hlast
      · dsimp only
        rw [hslice, String.toList_ofList]
        exact hpath
    · exact .inl rfl
  · exact .inl rfl

/-! ## Round trips -/

theorem notMem_brackets_of_isAddressChar {c : Char} (h : isAddressChar c) : c ∉ brackets := by
  intro hc
  rcases mem_cons.mp hc with rfl | hc
  · cases h
  · obtain rfl := mem_singleton.mp hc
    cases h

theorem notMem_brackets_of_parseIP {ip : String} (h : (parseIP ip).isSome) :
    ∀ c ∈ ip.toList, c ∉ brackets := by
  obtain ⟨groups, hgroups⟩ := Option.isSome_iff_exists.mp h
  exact fun c hc => notMem_brackets_of_isAddressChar (isAddressChar_of_parseIP hgroups hc)

theorem trim_formatValidIp {ip : String} (h : (parseIP ip).isSome) :
    trim (formatValidIp ip) brackets = ip := by
  have hbrackets := notMem_brackets_of_parseIP h
  have htrim := trim_of_forall_notMem hbrackets
  obtain ⟨groups, hgroups⟩ := Option.isSome_iff_exists.mp h
  rw [formatValidIp, hgroups]
  dsimp only
  split
  · exact htrim
  · rw [htrim]
    have hopen : ∀ c ∈ "[".toList, c ∈ brackets := all_iff_forall_prop.mp (by decide)
    have hclose : ∀ c ∈ "]".toList, c ∈ brackets := all_iff_forall_prop.mp (by decide)
    exact trim_append hopen hbrackets hclose (ne_empty_of_parseIP hgroups)

theorem formatValidIp_ne_empty {ip : String} (h : (parseIP ip).isSome) : formatValidIp ip ≠ "" := by
  intro hempty
  have htrim := trim_formatValidIp h
  rw [hempty] at htrim
  rw [← htrim] at h
  cases h

section RoundTrip

variable {ocid ip path : String} (hocid : ':' ∉ ocid.toList) (hip : (parseIP ip).isSome)
include hocid hip

/-- A handle can be read back if its path has no colon. -/
theorem validateFssId_fssVolumeHandle (hne : ocid ≠ "") (hpath : path ≠ "")
    (hcolon : ':' ∉ path.toList) :
    validateFssId (fssVolumeHandle ⟨ocid, ip, path⟩) = ⟨ocid, formatValidIp ip, path⟩ := by
  generalize hid : fssVolumeHandle ⟨ocid, ip, path⟩ = id
  have hocid' : ocid.toList.length ≠ 0 := by simpa using hne
  have hpath' : path.toList.length ≠ 0 := by simpa using hpath
  -- the handle, cut at its first and at its last colon
  have hlist : id.toList = ocid.toList ++ ':' :: ((formatValidIp ip).toList ++ ':' :: path.toList) := by
    simp [← hid, fssVolumeHandle]
  have hlist' : id.toList = (ocid.toList ++ ':' :: (formatValidIp ip).toList) ++ ':' :: path.toList := by
    simp [hlist]
  have hfirst := index_of_notMem hlist hocid
  have hlast := lastIndex_of_notMem hlist' hcolon
  have hlength := congrArg List.length hlist
  simp only [length_append, length_cons, String.length_toList] at hlength hlast hfirst
  rw [String.length_toList] at hocid' hpath'
  -- its three parts
  have hpart₁ : slice id 0 (index id ':') = ocid := by
    refine slice_eq (l := []) hlist rfl ?_
    simp [hfirst]
  have hpart₂ : slice id (index id ':' + 1) (lastIndex id ':') = formatValidIp ip := by
    refine slice_eq (l := ocid.toList ++ [':']) (r := ':' :: path.toList) ?_ ?_ ?_
    · simp [hlist]
    · simp [hfirst, String.length_toList]
    · simp [hlast, String.length_toList]
      omega
  have hpart₃ : slice id (lastIndex id ':' + 1) id.length = path := by
    refine slice_eq (l := ocid.toList ++ ':' :: (formatValidIp ip).toList ++ [':'])
      (r := []) ?_ ?_ ?_
    · simp [hlist]
    · simp [hlast, String.length_toList]
      omega
    · simp [hlength, String.length_toList]
      omega
  have hcolons : index id ':' > 0 ∧ lastIndex id ':' < id.length - 1 ∧
      index id ':' ≠ lastIndex id ':' := by omega
  have hne' : id ≠ "" := by
    rintro rfl
    simp at hlength
  rw [validateFssId, if_neg hne', if_pos hcolons]
  dsimp only
  rw [hpart₁, hpart₂, hpart₃, if_pos]
  rw [trim_formatValidIp hip, hip]
  rfl

theorem validateFssId_fssVolumeHandle_iff :
    validateFssId (fssVolumeHandle ⟨ocid, ip, path⟩) = ⟨ocid, formatValidIp ip, path⟩ ↔
      ocid ≠ "" ∧ path ≠ "" ∧ ':' ∉ path.toList := by
  constructor
  · intro h
    rcases validateFssId_cases (fssVolumeHandle ⟨ocid, ip, path⟩) with hinvalid | hwf
    · rw [h] at hinvalid
      exact absurd (congrArg (·.mountTargetIPAddress) hinvalid) (formatValidIp_ne_empty hip)
    · rw [h] at hwf
      exact ⟨hwf.ocid, hwf.path, hwf.colon⟩
  · rintro ⟨hne, hpath, hcolon⟩
    exact validateFssId_fssVolumeHandle hocid hip hne hpath hcolon

end RoundTrip

/-! ## The handles of requests -/

/-- A request that has read its parameters has the path, and a volume that it returns has it
too. -/
structure HandleInv (req : CreateVolumeRequest) (l : Local) : Prop where
  parameters : l.phase.started → l.parameters.exportPath = exportPath req
  response : ∀ mt response, l.phase = .provision mt (.done (.ok response)) →
    response.volumeId.mountTargetIPAddress = mt.mountTargetIp ∧
      response.volumeId.fsExportPath = exportPath req

variable {req : CreateVolumeRequest}

theorem HandleInv.of_not_started {l : Local} (h : ¬l.phase.started) :
    HandleInv req l := by
  refine ⟨fun hstarted => absurd hstarted h, fun mt response hdone => ?_⟩
  rw [hdone] at h
  exact absurd rfl h

/-- A request returns the volume in its last move. -/
theorem response_of_fileSystemMove {p : StorageClassParameters} {mt : ProvisionedMountTarget}
    {a : Answer} {w : World} {phase : FileSystemPhase} {response : CreateVolumeResponse}
    (h : (fileSystemMove req p mt a w phase).2 = .done (.ok response)) :
    phase = .done (.ok response) ∨
      response.volumeId.mountTargetIPAddress = mt.mountTargetIp ∧
        response.volumeId.fsExportPath = p.exportPath := by
  cases phase with
  | readTags | tagIsDeleteMountTarget | tagMountTargetOCID | tagExportSetId | readDetails => cases h
  | makeTags freeformTags => cases freeformTags <;> cases h
  | findFileSystem =>
    simp only [fileSystemMove] at h
    split at h <;> cases h
  | createFileSystem freeformTags definedTags =>
    simp only [fileSystemMove, provisionFileSystem] at h
    split at h <;> cases h
  | awaitFileSystem filesystemOCID =>
    simp only [fileSystemMove] at h
    split at h <;> cases h
  | findExport filesystemOCID =>
    simp only [fileSystemMove] at h
    split at h <;> cases h
  | createExport filesystemOCID =>
    simp only [fileSystemMove, provisionExport] at h
    split at h <;> cases h
  | awaitExport filesystemOCID exportId =>
    simp only [fileSystemMove] at h
    split at h
    · cases h
    · cases h
      exact .inr ⟨rfl, rfl⟩
  | done result => exact .inl h

variable {d : FSSControllerDriver} {exportSetId : String → Option String}

theorem handleInv_createVolume {l : Local} (hinv : HandleInv req l) (a : Answer) (w : World) :
    HandleInv req (createVolume d exportSetId req a w l).2 := by
  by_cases hphase : l.phase = .checkRequest
  · simp only [createVolume, hphase]
    split
    · exact .of_not_started Bool.false_ne_true
    · next hcheck =>
      obtain ⟨-, hpath, -⟩ := checkRequest_ok hcheck
      refine ⟨fun _ => hpath, fun mt response h => ?_⟩
      dsimp only at h
      split at h <;> cases h
  · have hmoves := @moves_createVolume d exportSetId req a w l
    generalize createVolume d exportSetId req a w l = next at hmoves ⊢
    obtain ⟨w', l'⟩ := next
    dsimp only at hmoves ⊢
    cases hmoves with
    | stays => exact hinv
    | fails => exact .of_not_started Bool.false_ne_true
    | starts h => exact absurd h hphase
    | chooses h | misses h | gets h =>
      refine ⟨fun _ => hinv.parameters (by rw [h]; rfl), fun mt response hdone => ?_⟩
      cases hdone
    | creates h _ _ hnext =>
      refine ⟨fun _ => hinv.parameters (by rw [h]; rfl), fun mt response hdone => ?_⟩
      obtain rfl | ⟨status, rfl⟩ := hnext <;> cases hdone
    | @provisions mt phase h =>
      have hpath := hinv.parameters (by rw [h]; rfl)
      refine ⟨fun _ => hpath, fun mt' response hdone => ?_⟩
      dsimp only at hdone
      obtain ⟨rfl, hend⟩ := Phase.provision.inj hdone
      rcases response_of_fileSystemMove hend with hbefore | ⟨haddress, hresponse⟩
      · exact hinv.response mt response (hbefore ▸ h)
      · exact ⟨haddress, hresponse.trans hpath⟩

variable {n : Nat} {reqs : Fin n → CreateVolumeRequest}

theorem handleInv_run (w : World) (moves : List (Fin n × Answer)) (i : Fin n) :
    HandleInv (reqs i)
      ((Interleaving.run (requestStep d exportSetId reqs) (start w) moves).locals i) := by
  refine Interleaving.locals_run (P := fun i l => HandleInv (reqs i) l) ?_ ?_ i
  · exact fun _ a w _ hinv => handleInv_createVolume hinv a w
  · exact fun _ => .of_not_started Bool.false_ne_true

/-- The handle of a volume is read as what it was made of. -/
abbrev ReadsBack (volumeId : FSSVolumeHandler) : Prop :=
  validateFssId (fssVolumeHandle volumeId) =
    { volumeId with mountTargetIPAddress := formatValidIp volumeId.mountTargetIPAddress }

/-- A volume that `CreateVolume` returns has the path of the request, and its handle is read
back where that path is not empty and has no colon. Neither is checked in a storage class. -/
theorem readsBack_createVolume_iff (d : FSSControllerDriver) (exportSetId : String → Option String)
    (reqs : Fin n → CreateVolumeRequest) (w : World) (moves : List (Fin n × Answer)) (i : Fin n)
    (mt : ProvisionedMountTarget) (response : CreateVolumeResponse)
    (hdone : ((Interleaving.run (requestStep d exportSetId reqs) (start w) moves).locals i).phase =
      .provision mt (.done (.ok response)))
    (hocid : ':' ∉ response.volumeId.filesystemOcid.toList)
    (hip : (parseIP mt.mountTargetIp).isSome) :
    response.volumeId.mountTargetIPAddress = mt.mountTargetIp ∧
      response.volumeId.fsExportPath = exportPath (reqs i) ∧
      (ReadsBack response.volumeId ↔ response.volumeId.filesystemOcid ≠ "" ∧
        exportPath (reqs i) ≠ "" ∧ ':' ∉ (exportPath (reqs i)).toList) := by
  obtain ⟨haddress, hpath⟩ := (handleInv_run w moves i).response mt response hdone
  refine ⟨haddress, hpath, ?_⟩
  rw [← hpath]
  rw [← haddress] at hip
  exact validateFssId_fssVolumeHandle_iff hocid hip

/-- A volume on the user's mount target, with the path of the storage class. -/
def volumeAt (path : String) : Fin 1 → CreateVolumeRequest := fun _ =>
  { name := "pvc-a"
    volumeCapabilities := [{ accessMode := .multiNodeMultiWriter }]
    parameters := GoMap.ofPairs
      [("availabilityDomain", "AD-1"), ("mountTargetOcid", "ocid1.mounttarget.user"),
        ("exportPath", path)] }

/-- The moves of a request that creates all but the mount target. -/
def allMoves : List (Fin 1 × Answer) :=
  [{}, { privateIpIds := ["ip"], privateIp := .ok "fd00::1" }, {}, {}, {}, {}, {}, {}, {},
    { id := "ocid1.filesystem.a" }, {}, {}, { id := "ocid1.export.a" }, {}].map ((0, ·))

def userMountTarget : ProvisionedMountTarget :=
  ⟨"ocid1.mounttarget.user", "fd00::1", "exportset.ocid1.mounttarget.user"⟩

theorem done_volumeAt (path : String) :
    ((Interleaving.run (requestStep taggedDriver exportSetOf (volumeAt path)) (start taggedWorld)
      allMoves).locals 0).phase = .provision userMountTarget
        (.done (.ok ⟨⟨"ocid1.filesystem.a", "fd00::1", path⟩, "false"⟩)) :=
  rfl

/-- An address of version 6 is read back. -/
theorem readsBack_dataVolume : ReadsBack ⟨"ocid1.filesystem.a", "fd00::1", "/data"⟩ :=
  (readsBack_createVolume_iff taggedDriver exportSetOf (volumeAt "/data") taggedWorld allMoves 0
    userMountTarget _ (done_volumeAt "/data") (by decide) (by decide)).2.2.mpr (by decide)

/-- A storage class with a colon in its path: the address is read with the start of the path,
and the volume cannot be deleted. -/
theorem not_readsBack_colonPath :
    ((Interleaving.run (requestStep taggedDriver exportSetOf (volumeAt "/team:data"))
      (start taggedWorld) allMoves).locals 0).phase = .provision userMountTarget
        (.done (.ok ⟨⟨"ocid1.filesystem.a", "fd00::1", "/team:data"⟩, "false"⟩)) ∧
      fssVolumeHandle ⟨"ocid1.filesystem.a", "fd00::1", "/team:data"⟩ =
        "ocid1.filesystem.a:[fd00::1]:/team:data" ∧
      ¬ReadsBack ⟨"ocid1.filesystem.a", "fd00::1", "/team:data"⟩ ∧
      ∀ a : DeleteAnswers, a.token = .ok () →
        deleteVolume "ocid1.filesystem.a:[fd00::1]:/team:data"
          (validateFssId "ocid1.filesystem.a:[fd00::1]:/team:data") a =
            (.error ⟨.invalidArgument,
              "Invalid Volume ID provided ocid1.filesystem.a:[fd00::1]:/team:data"⟩, []) := by
  refine ⟨done_volumeAt _, by decide, by decide, fun a htoken => ?_⟩
  have hread : validateFssId "ocid1.filesystem.a:[fd00::1]:/team:data" = invalidHandler := by decide
  rw [deleteVolume, hread, htoken]
  rfl

end OciCcm.Csi.Fss
