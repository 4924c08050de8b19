import OciCcm.Csi.LustreController
import OciCcm.Go.Net

/-! # Handles of Lustre volumes

A handle names the nodes of the management service and the file system, as the
mount command wants them. The controller puts the OCID of the file system in
front, and the node takes it off again.
-/

namespace OciCcm.Csi.Lustre

open Go Net List Option

/-! ## Reading on the node -/

/-- A colon before the first `@` ends an OCID. -/
def stripLustreOCIDPrefix (volumeID : String) : String :=
  let atIdx := index volumeID '@'
  let colonIdx := index volumeID ':'
  if atIdx > 0 ∧ colonIdx ≥ 0 ∧ colonIdx < atIdx then
    slice volumeID (colonIdx + 1) volumeID.length
  else volumeID

/-- The loop over the nodes of a handle, with the label of the one before. -/
def validateNids (lnetLabel : String) : List String → Bool × String
  | [] => (true, lnetLabel)
  | nid :: nids =>
    match split nid '@' with
    | [ip, label] =>
      if (parseIP ip).isNone then (false, lnetLabel)
      else if !isValidShellInput label then (false, "")
      else validateNids label nids
    | _ => (false, lnetLabel)

/-- Is the handle valid? Returned with the label of its last node. -/
def validateLustreVolumeId (lusterVolumeId : String) : Bool × String :=
  let splits := split lusterVolumeId ':'
  if splits.length < 2 then (false, "")
  else
    let (valid, lnetLabel) := validateNids "" splits.dropLast
    let fsname := splits.getLast?.getD ""
    if !valid then (false, lnetLabel)
    else if !hasPrefix fsname "/" || !isValidShellInput fsname then (false, lnetLabel)
    else (true, lnetLabel)

/-! ## Handles without an OCID -/

/-- A node of the management service. -/
structure Nid where
  address : String
  lnet : String
  isIPv4 : (parseIPv4 address.toList).isSome

namespace Nid

variable {nid : Nid}

def text (nid : Nid) : String := nid.address ++ "@" ++ nid.lnet

theorem toList_text (nid : Nid) : nid.text.toList = nid.address.toList ++ '@' :: nid.lnet.toList := by
  simp [text]

theorem notMem_address {c : Char} (hdigit : ¬c.isDigit) (hdot : c ≠ '.') :
    c ∉ nid.address.toList := by
  obtain ⟨ip, hip⟩ := isSome_iff_exists.mp nid.isIPv4
  obtain ⟨groups, hgroups, -⟩ := map_eq_some_iff.mp hip
  exact fun hc => (isDigit_or_dot_of_parseOctets hgroups hc).elim hdigit hdot

theorem at_notMem_address : '@' ∉ nid.address.toList := notMem_address (by decide) (by decide)

theorem colon_notMem_address : ':' ∉ nid.address.toList := notMem_address (by decide) (by decide)

theorem isSome_parseIP_address : (parseIP nid.address).isSome := by
  obtain ⟨ip, hip⟩ := isSome_iff_exists.mp nid.isIPv4
  rw [parseIP_of_parseIPv4 hip, isSome_some]

/-- A label that can be read back. -/
structure Plain (nid : Nid) : Prop where
  colon : ':' ∉ nid.lnet.toList
  at_sign : '@' ∉ nid.lnet.toList
  shell : isValidShellInput nid.lnet

theorem Plain.colon_notMem_text (h : nid.Plain) : ':' ∉ nid.text.toList := by
  rw [toList_text, mem_append, mem_cons]
  rintro (haddress | hat | hlnet)
  · exact colon_notMem_address haddress
  · cases hat
  · exact h.colon hlnet

theorem Plain.split_text (h : nid.Plain) : split nid.text '@' = [nid.address, nid.lnet] :=
  split_of_notMem nid.toList_text at_notMem_address h.at_sign

end Nid

/-- The handle of a volume that was not provisioned by the driver. -/
def legacyHandle (nids : List Nid) (fsName : String) : String :=
  join (nids.map Nid.text ++ ["/" ++ fsName]) ":"

variable {nids : List Nid} {fsName : String}

theorem legacyHandle_cons (nid : Nid) (nids : List Nid) (fsName : String) :
    legacyHandle (nid :: nids) fsName = nid.text ++ ":" ++ legacyHandle nids fsName := by
  cases nids with
  | nil => rfl
  | cons nid' nids => exact String.intercalate_cons_cons ..

theorem toList_legacyHandle_cons (nid : Nid) (nids : List Nid) (fsName : String) :
    (legacyHandle (nid :: nids) fsName).toList =
      nid.address.toList ++ '@' :: (nid.lnet.toList ++ ':' :: (legacyHandle nids fsName).toList) := by
  simp [legacyHandle_cons, Nid.toList_text]

theorem stripLustreOCIDPrefix_legacyHandle (hne : nids ≠ []) :
    stripLustreOCIDPrefix (legacyHandle nids fsName) = legacyHandle nids fsName := by
  obtain ⟨nid, nids, rfl⟩ := exists_cons_of_ne_nil hne
  have hlist := toList_legacyHandle_cons nid nids fsName
  rw [stripLustreOCIDPrefix, index_of_notMem hlist Nid.at_notMem_address]
  refine if_neg ?_
  rintro ⟨-, hcolon⟩
  exact not_index_lt_of_notMem hlist Nid.colon_notMem_address hcolon

theorem validateNids_map_text (hnids : ∀ nid ∈ nids, nid.Plain) (lnetLabel : String) :
    validateNids lnetLabel (nids.map Nid.text) = (true, (nids.getLast?.map Nid.lnet).getD lnetLabel) := by
  induction nids generalizing lnetLabel with
  | nil => rfl
  | cons nid nids ih =>
    obtain ⟨hnid, hnids⟩ := forall_mem_cons.mp hnids
    have hip : (parseIP nid.address).isNone = false := by
      rw [isNone_eq_false_iff]
      exact nid.isSome_parseIP_address
    rw [map_cons, validateNids, hnid.split_text]
    simp only [hip, hnid.shell, Bool.not_true, Bool.false_eq_true, if_false]
    rw [ih hnids, List.getLast?_cons, map_some, getD_some, Option.getD_map]

theorem split_legacyHandle (hnids : ∀ nid ∈ nids, nid.Plain) (hcolon : ':' ∉ fsName.toList) :
    split (legacyHandle nids fsName) ':' = nids.map Nid.text ++ ["/" ++ fsName] := by
  refine split_join rfl (append_ne_nil_of_right_ne_nil _ (cons_ne_nil _ _)) ?_
  intro field hfield
  rcases mem_append.mp hfield with hfield | hname
  · obtain ⟨nid, hnid, rfl⟩ := mem_map.mp hfield
    exact (hnids nid hnid).colon_notMem_text
  · rw [mem_singleton.mp hname]
    simpa using hcolon

theorem validateLustreVolumeId_legacyHandle (hnids : ∀ nid ∈ nids, nid.Plain) (hne : nids ≠ [])
    (hcolon : ':' ∉ fsName.toList) (hshell : isValidShellInput fsName) :
    validateLustreVolumeId (legacyHandle nids fsName) = (true, (nids.getLast hne).lnet) := by
  have hlength : ¬(nids.map Nid.text ++ ["/" ++ fsName]).length < 2 := by
    have := length_pos_of_ne_nil hne
    simp
    omega
  have hname : isValidShellInput ("/" ++ fsName) := by
    rw [isValidShellInput_iff] at hshell ⊢
    rw [String.toList_append]
    exact forall_mem_append.mpr ⟨all_iff_forall_prop.mp (by decide), hshell⟩
  rw [validateLustreVolumeId, split_legacyHandle hnids hcolon]
  simp only [hlength, if_false, dropLast_concat, List.getLast?_concat, getD_some,
    validateNids_map_text hnids, hasPrefix_append, hname, List.getLast?_eq_some_getLast hne]
  rfl

/-! ## Handles with an OCID -/

theorem not_isNameChar_of_mem_refusedChars {c : Char} (h : c ∈ ':' :: refusedChars) :
    ¬isNameChar c := by
  have hnone : (':' :: refusedChars).all (¬isNameChar ·) := by decide
  exact all_iff_forall_prop.mp hnone c h

theorem all_isNameChar_of_validate {name : String} (h : validateLustreFileSystemName name = .ok ()) :
    ∀ c ∈ name.toList, isNameChar c := by
  unfold validateLustreFileSystemName at h
  split at h
  · cases h
  split at h
  · cases h
  split at h
  · cases h
  · next hall => simpa using hall

/-- A file system whose handle can be read back. What the service leaves out is empty. -/
structure Readable (fs : LustreFileSystem) : Prop where
  ocid : hasPrefix fs.id "ocid"
  colon : ':' ∉ fs.id.toList
  at_sign : '@' ∉ fs.id.toList
  isIPv4 : (parseIPv4 (fs.managementServiceAddress.getD "").toList).isSome
  lnet_colon : ':' ∉ (fs.lnet.getD "").toList
  lnet_at_sign : '@' ∉ (fs.lnet.getD "").toList
  lnet_shell : isValidShellInput (fs.lnet.getD "")
  name : validateLustreFileSystemName (fs.fileSystemName.getD "") = .ok ()

namespace Readable

variable {fs fs' : LustreFileSystem}

/-- The node in the handle. -/
def nid (h : Readable fs) : Nid := ⟨fs.managementServiceAddress.getD "", fs.lnet.getD "", h.isIPv4⟩

section

variable (h : Readable fs)

include h

theorem plain_nid : ∀ nid ∈ [h.nid], nid.Plain :=
  forall_mem_singleton.mpr ⟨h.lnet_colon, h.lnet_at_sign, h.lnet_shell⟩

theorem name_notMem {c : Char} (hc : c ∈ ':' :: refusedChars) :
    c ∉ (fs.fileSystemName.getD "").toList :=
  fun hmem => not_isNameChar_of_mem_refusedChars hc (all_isNameChar_of_validate h.name c hmem)

theorem name_shell : isValidShellInput (fs.fileSystemName.getD "") :=
  isValidShellInput_iff.mpr fun _ hmem hc => h.name_notMem (mem_cons_of_mem _ hc) hmem

theorem legacyHandle_nid :
    legacyHandle [h.nid] (fs.fileSystemName.getD "") =
      fs.managementServiceAddress.getD "" ++ "@" ++ fs.lnet.getD "" ++ ":/" ++
        fs.fileSystemName.getD "" := by
  simp only [legacyHandle_cons, Nid.text, nid, String.append_assoc]
  rfl

theorem toList_buildLustreVolumeHandle :
    (buildLustreVolumeHandle fs).toList =
      fs.id.toList ++ ':' :: (legacyHandle [h.nid] (fs.fileSystemName.getD "")).toList := by
  simp [h.legacyHandle_nid, buildLustreVolumeHandle]

theorem extractLustreFilesystemId_build :
    extractLustreFilesystemId (buildLustreVolumeHandle fs) = fs.id := by
  have hlist := h.toList_buildLustreVolumeHandle
  have hne : buildLustreVolumeHandle fs ≠ "" := by
    intro hempty
    rw [hempty] at hlist
    simp at hlist
  have hprefix : hasPrefix (buildLustreVolumeHandle fs) "ocid" := by
    have hocid := h.ocid
    rw [hasPrefix, decide_eq_true_iff] at hocid ⊢
    rw [hlist]
    exact hocid.trans (prefix_append ..)
  have hid : ∀ c ∈ fs.id.toList, decide (c ≠ ':') := by
    intro c hc
    exact decide_eq_true (ne_of_mem_of_not_mem hc h.colon)
  rw [extractLustreFilesystemId, if_neg (by simp [hne, hprefix]), if_neg (by simp [hlist]), hlist,
    takeWhile_append_of_pos hid, takeWhile_cons_of_neg (by decide), append_nil,
    String.ofList_toList]

theorem stripLustreOCIDPrefix_build :
    stripLustreOCIDPrefix (buildLustreVolumeHandle fs) =
      legacyHandle [h.nid] (fs.fileSystemName.getD "") := by
  have hlist := h.toList_buildLustreVolumeHandle
  have hlist' : (buildLustreVolumeHandle fs).toList =
      (fs.id.toList ++ ':' :: h.nid.address.toList) ++
        '@' :: (h.nid.lnet.toList ++ ':' :: (legacyHandle [] (fs.fileSystemName.getD "")).toList) := by
    rw [hlist, toList_legacyHandle_cons, append_assoc, cons_append]
  have hat : '@' ∉ fs.id.toList ++ ':' :: h.nid.address.toList := by
    rw [mem_append, mem_cons]
    rintro (hid | hcolon | haddress)
    · exact h.at_sign hid
    · cases hcolon
    · exact Nid.at_notMem_address haddress
  have hlength := congrArg List.length hlist
  rw [stripLustreOCIDPrefix, index_of_notMem hlist' hat, index_of_notMem hlist h.colon]
  rw [if_pos (by simp; omega)]
  refine slice_eq (l := fs.id.toList ++ [':']) (r := []) ?_ ?_ ?_
  · simp [hlist]
  · simp
  · rw [String.length_toList, length_append, length_cons, String.length_toList,
      String.length_toList] at hlength
    rw [hlength, length_append, length_singleton, String.length_toList]
    omega

/-- Handles determine what they are made of. -/
theorem buildLustreVolumeHandle_eq_iff (h' : Readable fs') :
    buildLustreVolumeHandle fs = buildLustreVolumeHandle fs' ↔
      fs.id = fs'.id ∧
        fs.managementServiceAddress.getD "" = fs'.managementServiceAddress.getD "" ∧
        fs.lnet.getD "" = fs'.lnet.getD "" ∧
        fs.fileSystemName.getD "" = fs'.fileSystemName.getD "" := by
  constructor
  · intro heq
    have hid := congrArg extractLustreFilesystemId heq
    rw [h.extractLustreFilesystemId_build, h'.extractLustreFilesystemId_build] at hid
    have hsplit := congrArg (fun handle => split (stripLustreOCIDPrefix handle) ':') heq
    rw [h.stripLustreOCIDPrefix_build, h'.stripLustreOCIDPrefix_build,
      split_legacyHandle h.plain_nid (h.name_notMem mem_cons_self),
      split_legacyHandle h'.plain_nid (h'.name_notMem mem_cons_self)] at hsplit
    obtain ⟨htext, hname⟩ := List.cons.inj hsplit
    have hparts := congrArg (split · '@') htext
    simp only [(h.plain_nid _ mem_cons_self).split_text,
      (h'.plain_nid _ mem_cons_self).split_text, List.cons.injEq, and_true] at hparts
    exact ⟨hid, hparts.1, hparts.2, by simpa using hname⟩
  · rintro ⟨hid, haddress, hlnet, hname⟩
    rw [buildLustreVolumeHandle, buildLustreVolumeHandle, hid, haddress, hlnet, hname]

end

end Readable

/-- The four functions agree on where the parts of a handle are. -/
theorem lustreHandles_readBack :
    (∀ fs, Readable fs →
      let nidPath := fs.managementServiceAddress.getD "" ++ "@" ++ fs.lnet.getD "" ++ ":/" ++
        fs.fileSystemName.getD ""
      extractLustreFilesystemId (buildLustreVolumeHandle fs) = fs.id ∧
        stripLustreOCIDPrefix (buildLustreVolumeHandle fs) = nidPath ∧
        validateLustreVolumeId nidPath = (true, fs.lnet.getD "")) ∧
    (∀ fs fs', Readable fs → Readable fs' →
      (buildLustreVolumeHandle fs = buildLustreVolumeHandle fs' ↔
        fs.id = fs'.id ∧
          fs.managementServiceAddress.getD "" = fs'.managementServiceAddress.getD "" ∧
          fs.lnet.getD "" = fs'.lnet.getD "" ∧
          fs.fileSystemName.getD "" = fs'.fileSystemName.getD "")) ∧
    ∀ nids fsName, nids ≠ [] →
      stripLustreOCIDPrefix (legacyHandle nids fsName) = legacyHandle nids fsName := by
  refine ⟨fun fs h => ⟨h.extractLustreFilesystemId_build, ?_, ?_⟩,
    fun _ _ => Readable.buildLustreVolumeHandle_eq_iff,
    fun _ _ => stripLustreOCIDPrefix_legacyHandle⟩
  · rw [h.stripLustreOCIDPrefix_build, h.legacyHandle_nid]
  · rw [← h.legacyHandle_nid]
    exact validateLustreVolumeId_legacyHandle h.plain_nid (cons_ne_nil _ _)
      (h.name_notMem mem_cons_self) h.name_shell

/-- A file system as the service answers it. -/
def lustrefs : LustreFileSystem where
  id := "ocid1.lustrefilesystem.oc1.phx.a"
  lifecycleState := .active
  capacityInGBs := 31200
  managementServiceAddress := some "10.0.1.10"
  lnet := some "tcp"
  fileSystemName := some "lustrefs"

theorem readable_lustrefs : Readable lustrefs := by
  constructor <;> decide

/-- The handle of `lustrefs`, and a legacy one with two nodes. -/
theorem readBack_lustrefs :
    buildLustreVolumeHandle lustrefs = "ocid1.lustrefilesystem.oc1.phx.a:10.0.1.10@tcp:/lustrefs" ∧
      stripLustreOCIDPrefix (buildLustreVolumeHandle lustrefs) = "10.0.1.10@tcp:/lustrefs" ∧
      stripLustreOCIDPrefix "10.0.1.10@tcp:10.0.1.11@tcp1:/lustrefs" =
        "10.0.1.10@tcp:10.0.1.11@tcp1:/lustrefs" :=
  ⟨by decide, (lustreHandles_readBack.1 lustrefs readable_lustrefs).2.1,
    lustreHandles_readBack.2.2 [⟨"10.0.1.10", "tcp", by decide⟩, ⟨"10.0.1.11", "tcp1", by decide⟩]
      "lustrefs" (cons_ne_nil _ _)⟩

end OciCcm.Csi.Lustre
