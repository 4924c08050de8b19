import OciCcm.Csi.BlockVolumeRetries
import OciCcm.Csi.LustreController
import OciCcm.Csi.Provision

/-! # The capacity of a new volume

A request for a volume may name the least and the greatest capacity. Both drivers
answer with a volume that has the requested name already, if there is one, and
otherwise round the size that they ask for.
-/

namespace OciCcm.Csi.Capacity

open Client Go Option
open BlockVolume (CapacityRange GiB MiB Overflows extractStorage volSizeGB minimumVolumeSizeInBytes)
open Lustre (GB capacityInGbs)

/-! ## Calls -/

/-- One call of `CreateVolume`, with the answers of the cloud. -/
inductive Call where
  | block (d : BlockVolume.BlockVolumeControllerDriver) (o : RangeOrder.{0}) (fuel : Nat)
      (req : BlockVolume.CreateVolumeRequest) (a : BlockVolume.VolumeAnswers)
  | lustre (lib : Lustre.Library) (d : Lustre.LustreControllerDriver) (o : RangeOrder.{0})
      (fuel : Nat) (req : Lustre.CreateVolumeRequest) (a : Lustre.CreateAnswers)

namespace Call

/-- The range that is requested, if any. -/
def capacityRange : Call → Option CapacityRange
  | block _ _ _ req _ => req.capacityRange
  | lustre _ _ _ _ req _ => req.capacityRange

/-- The range that is requested. The fields of a nil range are zero. -/
def range (c : Call) : CapacityRange := c.capacityRange.getD ⟨0, 0⟩

/-- The handle and the capacity that are answered if the call succeeds. -/
def answer : Call → Option (String × Int)
  | block d o fuel req a =>
    (BlockVolume.createVolume d o fuel req a).bind fun r =>
      r.1.toOption.map fun response => (response.volumeId, response.capacityBytes)
  | lustre lib d o fuel req a =>
    (Lustre.createVolume lib d o fuel req a).bind fun r =>
      r.toOption.map fun response => (response.volumeId, response.capacityBytes)

/-- The OCIDs of the volumes that have the requested name already. -/
def found : Call → Option (List String)
  | block _ _ fuel _ a =>
    (BlockVolume.getVolumesByName fuel a).bind fun r => r.toOption.map (·.map (·.id))
  | lustre _ _ _ fuel _ a => (Lustre.listLustreFileSystems fuel a).bind (·.toOption)

def Names : Call → String → String → Prop
  | block .., volumeId, id => volumeId = id
  | lustre .., volumeId, id => hasPrefix volumeId (id ++ ":")

/-- What the cloud answers agrees with the sizes in bytes that the volumes have, and a new volume
has the size that is asked for. -/
def Agrees (size : String → Int) : Call → Prop
  | block d o _ req a =>
    (∀ items n, Pages.Listed a.listVolumes 0 none items n → ∀ v ∈ items,
        v.sizeInMBs * MiB = size v.id) ∧
      ∀ v ∈ [a.create.created, a.createAgain.created], v.sizeInMBs * MiB = size v.id ∧
        ∀ checked, BlockVolume.checkVolume d o req a = .ok checked → ∀ ad tags,
          size v.id = (checked.details d req ad tags).sizeInGBs * GiB
  | lustre _ _ _ _ _ a =>
    (∀ id fs, a.getLustreFileSystem id = .ok fs → fs.id = id ∧ fs.capacityInGBs * GB = size id) ∧
      (∀ id fs, a.awaitLustreFileSystemActive id = .ok fs →
        fs.id = id ∧ fs.capacityInGBs * GB = size id) ∧
      ∀ details fs, a.createLustreFileSystem details = .ok fs →
        size fs.id = details.capacityInGBs * GB

/-- The fields of the range and the sizes are of type `int64`, and a size is positive. -/
structure WellFormed (c : Call) (size : String → Int) : Prop where
  required : IsInt64 c.range.requiredBytes
  limit : IsInt64 c.range.limitBytes
  size_pos : ∀ id, 0 < size id
  size_int64 : ∀ id, IsInt64 (size id)
  agrees : c.Agrees size

end Call

/-! ## What is asked of a call -/

structure InRange (range : CapacityRange) (bytes : Int) : Prop where
  required : range.requiredBytes ≤ bytes
  limit : 0 < range.limitBytes → bytes ≤ range.limitBytes

/-- The capacity that is answered is in the range, and it is the size of the volume. -/
def Honours (c : Call) (size : String → Int) : Prop :=
  ∀ volumeId bytes, c.answer = some (volumeId, bytes) → bytes ≠ 0 →
    InRange c.range bytes ∧ ∃ id, c.Names volumeId id ∧ bytes = size id

/-- The size of a new block volume is in the range. If there is a limit this is the limit rounded
up to GiB, and a size that overflows becomes the minimum. -/
def BlockFits (range : CapacityRange) : Prop :=
  if 0 < range.limitBytes then
    if Overflows range.limitBytes then range.requiredBytes ≤ minimumVolumeSizeInBytes
    else minimumVolumeSizeInBytes ≤ range.limitBytes ∧ GiB ∣ range.limitBytes
  else ¬Overflows range.requiredBytes

/-- The size that is asked for is in the range. For a Lustre file system the limit is not looked
at. -/
def NewFits (c : Call) : Prop :=
  match c with
  | .block .. => BlockFits c.range
  | .lustre .. => 0 < c.range.limitBytes → capacityInGbs c.capacityRange * GB ≤ c.range.limitBytes

/-- A call that succeeds finds a volume with a capacity in the range, or asks for one. -/
def Fits (c : Call) (size : String → Int) : Prop :=
  c.answer.isSome → (∀ id, c.found = some [id] → InRange c.range (size id)) ∧
    (c.found = some [] → NewFits c)

/-! ## Calls that succeed -/

section Block

variable {d : BlockVolume.BlockVolumeControllerDriver} {o : RangeOrder.{0}} {fuel : Nat}
  {req : BlockVolume.CreateVolumeRequest} {a : BlockVolume.VolumeAnswers}
  {checked : BlockVolume.Checked}

open BlockVolume

theorem createVolume_ok {response : CreateVolumeResponse} {created : List BlockVolume.Volume}
    (h : createVolume d o fuel req a = some (.ok response, created)) :
    ∃ checked volumes v, checkVolume d o req a = .ok checked ∧
      getVolumesByName fuel a = some (.ok volumes) ∧
      (findOrProvisionVolume d req checked a volumes).1 = .ok v ∧
      response.volumeId = v.id ∧ response.capacityBytes = v.sizeInMBs * MiB := by
  unfold createVolume at h
  split at h
  · cases h
  · next checked hchecked =>
    obtain ⟨r, hlist, h⟩ := map_eq_some_iff.mp h
    cases r with
    | error err => cases h
    | ok volumes =>
      dsimp only at h
      split at h
      · cases h
      · next v created hfound =>
        split at h
        · cases h
        · next hawait =>
          have hresponse := Except.ok.inj (Prod.mk.inj h).1
          refine ⟨checked, volumes, v, hchecked, hlist, by rw [hfound], ?_, ?_⟩
          · rw [← hresponse]
          · rw [← hresponse]

theorem extractStorage_of_checkVolume (h : checkVolume d o req a = .ok checked) :
    extractStorage req.capacityRange = .ok checked.size := by
  unfold checkVolume at h
  split at h
  · cases h
  split at h
  · cases h
  obtain ⟨_, -, h⟩ := bind_ok h
  obtain ⟨volSize, hsize, h⟩ := bind_ok h
  obtain ⟨_, -, h⟩ := bind_ok h
  obtain ⟨_, -, h⟩ := bind_ok h
  obtain ⟨_, -, h⟩ := bind_ok h
  dsimp only at h
  split at h
  · cases h
  · cases h
    exact mapError_ok.mp hsize

theorem findOrProvisionVolume_ok {volumes : List BlockVolume.Volume} {v : BlockVolume.Volume}
    (h : (findOrProvisionVolume d req checked a volumes).1 = .ok v) :
    volumes = [v] ∨ volumes = [] ∧ v ∈ [a.create.created, a.createAgain.created] := by
  unfold findOrProvisionVolume at h
  split at h
  · next v' => exact .inl (congrArg (fun v => [v]) (Except.ok.inj h))
  · refine .inr ⟨rfl, ?_⟩
    split at h
    · cases h
    · unfold provisionVolume at h
      dsimp only at h
      split at h
      all_goals
        dsimp only at h
        split at h
        · simp [← Except.ok.inj h]
        · cases h
  · cases h

end Block

section Lustre

variable {lib : Lustre.Library} {d : Lustre.LustreControllerDriver} {o : RangeOrder.{0}}
  {fuel : Nat} {req : Lustre.CreateVolumeRequest} {a : Lustre.CreateAnswers}
  {fs : Lustre.LustreFileSystem}

open Lustre

theorem lustre_createVolume_ok {response : CreateVolumeResponse}
    (h : createVolume lib d o fuel req a = some (.ok response)) :
    ∃ sc existing fs, listLustreFileSystems fuel a = some (.ok existing) ∧
      findOrCreateLustreFs req sc a existing = .ok fs ∧
      response = sendCreateVolumeSuccessResponse sc fs := by
  unfold createVolume at h
  split at h
  · cases h
  · next sc hsc =>
    obtain ⟨r, hlist, h⟩ := map_eq_some_iff.mp h
    obtain ⟨existing, hexisting, h⟩ := bind_ok h
    obtain ⟨fs, hfs, h⟩ := bind_ok h
    exact ⟨sc, existing, fs, hexisting ▸ hlist, hfs, (Except.ok.inj h).symm⟩

theorem existingLustreFs_ok {existingId : String} (h : existingLustreFs a existingId = .ok fs) :
    a.getLustreFileSystem existingId = .ok fs ∨
      a.awaitLustreFileSystemActive existingId = .ok fs := by
  unfold existingLustreFs at h
  split at h
  · cases h
  · next fs' hget =>
    split at h
    · exact .inl (Except.ok.inj h ▸ hget)
    · exact .inr (mapError_ok.mp h)
    · cases h

theorem createLustreFs_ok {details : CreateLustreFileSystemDetails}
    (h : createLustreFs a details = .ok fs) : ∃ created,
    a.createLustreFileSystem details = .ok created ∧
      a.awaitLustreFileSystemActive created.id = .ok fs := by
  unfold createLustreFs at h
  split at h
  · cases h
  · next created hcreate => exact ⟨created, hcreate, mapError_ok.mp h⟩

end Lustre

/-- The size that is asked for if there is no volume with the name. -/
def Call.Requests (c : Call) (bytes : Int) : Prop :=
  match c with
  | .block .. => ∃ volSize, extractStorage c.capacityRange = .ok volSize ∧
      bytes = volSizeGB volSize * GiB
  | .lustre .. => bytes = capacityInGbs c.capacityRange * GB

/-- Where the capacity that is answered comes from. -/
def ComesFrom (c : Call) (size : String → Int) (volumeId : String) (bytes : Int) : Prop :=
  ∃ id, c.Names volumeId id ∧ bytes = size id ∧
    (c.found = some [id] ∨ c.found = some [] ∧ c.Requests bytes)

theorem hasPrefix_buildLustreVolumeHandle (fs : Lustre.LustreFileSystem) :
    hasPrefix (Lustre.buildLustreVolumeHandle fs) (fs.id ++ ":") := by
  rw [Lustre.buildLustreVolumeHandle, String.append_assoc, String.append_assoc,
    String.append_assoc, String.append_assoc]
  exact hasPrefix_append _ _

variable {size : String → Int} {capRange : Option CapacityRange} {o : RangeOrder.{0}}
  {range : CapacityRange}

theorem comesFrom_block {d : BlockVolume.BlockVolumeControllerDriver} {fuel : Nat}
    {req : BlockVolume.CreateVolumeRequest} {a : BlockVolume.VolumeAnswers}
    (h : (Call.block d o fuel req a).WellFormed size) {response : BlockVolume.CreateVolumeResponse}
    {created : List BlockVolume.Volume}
    (hr : BlockVolume.createVolume d o fuel req a = some (.ok response, created)) :
    ComesFrom (.block d o fuel req a) size response.volumeId response.capacityBytes := by
  obtain ⟨checked, volumes, v, hchecked, hlist, hfound, hid, hbytes⟩ := createVolume_ok hr
  have hnames : (Call.block d o fuel req a).found = some (volumes.map (·.id)) := by
    rw [Call.found, hlist]
    rfl
  refine ⟨v.id, hid, ?_⟩
  rcases findOrProvisionVolume_ok hfound with rfl | ⟨rfl, hcreated⟩
  · obtain ⟨⟨r, n⟩, hcollect, rfl⟩ := map_eq_some_iff.mp hlist
    obtain ⟨items, hlisted, hitems⟩ := Pages.listed_of_collect hcollect
    have hmem : v ∈ items.filter BlockVolume.isListedVolume := by
      rw [← List.nil_append (List.filter _ _), ← hitems]
      exact List.mem_singleton_self v
    refine ⟨?_, .inl hnames⟩
    rw [hbytes, h.agrees.1 items n hlisted v (List.mem_of_mem_filter hmem)]
  · obtain ⟨hsize, hnew⟩ := h.agrees.2 v hcreated
    refine ⟨hbytes.trans hsize, .inr ⟨hnames, checked.size, ?_, ?_⟩⟩
    · exact extractStorage_of_checkVolume hchecked
    · rw [hbytes, hsize]
      exact hnew checked hchecked "" {}

theorem comesFrom_lustre {lib : Lustre.Library} {d : Lustre.LustreControllerDriver} {fuel : Nat}
    {req : Lustre.CreateVolumeRequest} {a : Lustre.CreateAnswers}
    (h : (Call.lustre lib d o fuel req a).WellFormed size) {response : Lustre.CreateVolumeResponse}
    (hr : Lustre.createVolume lib d o fuel req a = some (.ok response)) :
    ComesFrom (.lustre lib d o fuel req a) size response.volumeId response.capacityBytes := by
  obtain ⟨sc, existing, fs, hlist, hfs, rfl⟩ := lustre_createVolume_ok hr
  obtain ⟨hget, hawait, hcreate⟩ := h.agrees
  have hnames : (Call.lustre lib d o fuel req a).found = some existing := by
    rw [Call.found, hlist]
    rfl
  have hbytes : ∀ id, fs.id = id ∧ fs.capacityInGBs * GB = size id →
      (Lustre.sendCreateVolumeSuccessResponse sc fs).capacityBytes = size id := by
    rintro id ⟨-, hsize⟩
    rw [Lustre.sendCreateVolumeSuccessResponse, hsize, toInt64_of_isInt64 (h.size_int64 id)]
  have hhandle := hasPrefix_buildLustreVolumeHandle fs
  unfold Lustre.findOrCreateLustreFs at hfs
  split at hfs
  · obtain ⟨created, hcreated, hactive⟩ := createLustreFs_ok hfs
    have hfs := hawait _ _ hactive
    refine ⟨fs.id, hhandle, ?_, .inr ⟨hnames, ?_⟩⟩
    · rw [hbytes _ hfs, hfs.1]
    · rw [hbytes _ hfs, hcreate _ _ hcreated]
      rfl
  · next existingId =>
    have hfs : fs.id = existingId ∧ fs.capacityInGBs * GB = size existingId := by
      rcases existingLustreFs_ok hfs with hfs | hfs
      · exact hget _ _ hfs
      · exact hawait _ _ hfs
    refine ⟨existingId, hfs.1 ▸ hhandle, hbytes _ hfs, .inl hnames⟩
  · cases hfs

theorem comesFrom_of_answer {c : Call} (h : c.WellFormed size) {volumeId : String} {bytes : Int}
    (hanswer : c.answer = some (volumeId, bytes)) :
    ComesFrom c size volumeId bytes := by
  cases c with
  | block d o fuel req a =>
    obtain ⟨⟨r, created⟩, hr, hresponse⟩ := bind_eq_some_iff.mp hanswer
    obtain ⟨response, hok, hresponse⟩ := map_eq_some_iff.mp hresponse
    obtain ⟨rfl, rfl⟩ := Prod.mk.inj hresponse
    obtain rfl : r = .ok response := toOption_ok hok
    exact comesFrom_block h hr
  | lustre lib d o fuel req a =>
    obtain ⟨r, hr, hresponse⟩ := bind_eq_some_iff.mp hanswer
    obtain ⟨response, hok, hresponse⟩ := map_eq_some_iff.mp hresponse
    obtain ⟨rfl, rfl⟩ := Prod.mk.inj hresponse
    obtain rfl : r = .ok response := toOption_ok hok
    exact comesFrom_lustre h hr

/-! ## The size that is asked for -/

theorem GiB_eq : GiB = 1073741824 := rfl

theorem minimumVolumeSizeInBytes_eq : minimumVolumeSizeInBytes = 53687091200 := rfl

/-- The size of a new block volume before it is rounded: the limit if there is one, and otherwise
what is required, but not less than the minimum. -/
theorem extractStorage_ok {volSize : Int} (h : extractStorage capRange = .ok volSize) :
    if 0 < (capRange.getD ⟨0, 0⟩).limitBytes then
      (capRange.getD ⟨0, 0⟩).requiredBytes ≤ (capRange.getD ⟨0, 0⟩).limitBytes ∧
        volSize = max (capRange.getD ⟨0, 0⟩).limitBytes minimumVolumeSizeInBytes
    else volSize = max (capRange.getD ⟨0, 0⟩).requiredBytes minimumVolumeSizeInBytes := by
  have hmin := minimumVolumeSizeInBytes_eq
  cases capRange with
  | none =>
    rw [← Except.ok.inj h]
    rfl
  | some range =>
    obtain ⟨requiredBytes, limitBytes⟩ := range
    unfold extractStorage at h
    dsimp only [BlockVolume.defaultVolumeSizeInBytes, getD_some] at h ⊢
    split_ifs at h with hneither hless hrequired
    all_goals have hsize := Except.ok.inj h
    · rw [if_neg hneither.2]
      omega
    · rw [if_neg hrequired.2]
      exact hsize.symm
    · rw [if_pos (by omega)]
      exact ⟨by omega, hsize.symm⟩

theorem inRange_iff_blockFits (hrange : capRange.getD ⟨0, 0⟩ = range)
    (hrequired : range.requiredBytes < 2 ^ 63) (hlimit : range.limitBytes < 2 ^ 63) {volSize : Int}
    (h : extractStorage capRange = .ok volSize) :
    InRange range (volSizeGB volSize * GiB) ↔ BlockFits range := by
  have hsize := extractStorage_ok h
  have hmin := minimumVolumeSizeInBytes_eq
  have hrounded := @BlockVolume.volSizeGB_spec volSize
  have hoverflowed := @BlockVolume.volSizeGB_of_overflows volSize
  simp only [hrange, BlockFits, Overflows, GiB_eq, hmin] at hsize hrounded hoverflowed ⊢
  split_ifs at hsize ⊢ with hset hoverflows
  · rw [hoverflowed (by omega) (by omega)]
    exact ⟨fun h => h.required, fun h => ⟨h, fun _ => by omega⟩⟩
  · obtain ⟨hge, hlt⟩ := hrounded (by omega) (by omega)
    constructor
    · intro h
      have hle := h.limit hset
      omega
    · intro h
      exact ⟨by omega, fun _ => by omega⟩
  · constructor
    · intro h hoverflows
      rw [hoverflowed (by omega) (by omega)] at h
      have hle := h.required
      omega
    · intro hfits
      obtain ⟨hge, -⟩ := hrounded (by omega) (by omega)
      exact ⟨by omega, fun hset' => absurd hset' hset⟩

theorem required_le_capacityInGbs (hrequired : (capRange.getD ⟨0, 0⟩).requiredBytes < 2 ^ 63)
    (hpos : 0 < capacityInGbs capRange * GB) :
    (capRange.getD ⟨0, 0⟩).requiredBytes ≤ capacityInGbs capRange * GB := by
  have hGB : GB = 1000000000 := rfl
  have heq : (capRange.map (·.requiredBytes)).getD 0 = (capRange.getD ⟨0, 0⟩).requiredBytes := by
    cases capRange with
    | none => rfl
    | some range => rfl
  unfold capacityInGbs at hpos ⊢
  rw [heq] at hpos ⊢
  dsimp only at hpos ⊢
  split_ifs at hpos ⊢ with hset
  · by_cases hfits : (capRange.getD ⟨0, 0⟩).requiredBytes + GB - 1 < 2 ^ 63
    · exact (unitsFor_spec (by omega) (by omega) hfits).1
    · have hle := unitsFor_of_overflow (by omega : 0 < GB) hrequired (by omega) (by omega)
      rw [hGB] at hpos hle
      omega
  · omega

theorem inRange_iff_newFits {c : Call} (h : c.WellFormed size) {bytes : Int} (hbytes : 0 < bytes)
    (hrequests : c.Requests bytes) : InRange c.range bytes ↔ NewFits c := by
  cases c with
  | block d o fuel req a =>
    obtain ⟨volSize, hstorage, rfl⟩ := hrequests
    exact inRange_iff_blockFits rfl h.required.2 h.limit.2 hstorage
  | lustre lib d o fuel req a =>
    obtain rfl := hrequests
    exact ⟨fun h => h.limit, fun hlimit => ⟨required_le_capacityInGbs h.required.2 hbytes, hlimit⟩⟩

/-! ## When the capacity is honoured -/

/-- A call honours the requested capacity exactly if a volume that it finds has one in the range,
and the limit for a new one is compatible with the rounding. -/
theorem honours_iff {c : Call} {size : String → Int} (h : c.WellFormed size) :
    Honours c size ↔ Fits c size := by
  constructor
  · intro hhonours hsome
    obtain ⟨⟨volumeId, bytes⟩, hanswer⟩ := isSome_iff_exists.mp hsome
    obtain ⟨id, hnames, rfl, hfound⟩ := comesFrom_of_answer h hanswer
    have hrange := (hhonours volumeId _ hanswer (Int.ne_of_gt (h.size_pos id))).1
    rcases hfound with hfound | ⟨hfound, hrequests⟩
    · rw [hfound]
      refine ⟨fun id' hid => ?_, fun hnil => ?_⟩
      · rw [← List.head_eq_of_cons_eq (Option.some.inj hid)]
        exact hrange
      · cases hnil
    · rw [hfound]
      refine ⟨fun id' hid => ?_, fun _ => ?_⟩
      · cases hid
      · exact (inRange_iff_newFits h (h.size_pos id) hrequests).mp hrange
  · intro hfits volumeId bytes hanswer hne
    obtain ⟨hexisting, hnew⟩ := hfits (by rw [hanswer]; rfl)
    obtain ⟨id, hnames, rfl, hfound⟩ := comesFrom_of_answer h hanswer
    refine ⟨?_, id, hnames, rfl⟩
    rcases hfound with hfound | ⟨hfound, hrequests⟩
    · exact hexisting id hfound
    · exact (inRange_iff_newFits h (h.size_pos id) hrequests).mpr (hnew hfound)

/-- A block volume is requested. There may be an old one with the same name. -/
def blockCall (range : CapacityRange) (old : List BlockVolume.Volume) (newInMBs : Int) : Call :=
  .block BlockVolume.plainDriver .stored 1
    { BlockVolume.restoreRequest with capacityRange := some range, volumeContentSource := none }
    { listVolumes := BlockVolume.onePage old
      create := { created := ⟨"new", .provisioning, newInMBs, "AD-1"⟩ }
      createAgain := { created := ⟨"new", .provisioning, newInMBs, "AD-1"⟩ } }

/-- The sizes of the new volume and of the old one. -/
def blockSizes (oldInMBs newInMBs : Int) (id : String) : Int :=
  (if id = "new" then newInMBs else oldInMBs) * MiB

theorem wellFormed_blockCall {old : List BlockVolume.Volume} {oldInMBs newInMBs : Int}
    (hrequired : IsInt64 range.requiredBytes) (hlimit : IsInt64 range.limitBytes)
    (hsizes : ∀ size ∈ [oldInMBs, newInMBs], 0 < size * MiB ∧ IsInt64 (size * MiB))
    (hold : ∀ v ∈ old, v.id = "old" ∧ v.sizeInMBs = oldInMBs)
    (hnew : ∀ volSize, extractStorage (some range) = .ok volSize →
      newInMBs * MiB = volSizeGB volSize * GiB) :
    (blockCall range old newInMBs).WellFormed (blockSizes oldInMBs newInMBs) := by
  have hsize : ∀ id, 0 < blockSizes oldInMBs newInMBs id ∧
      IsInt64 (blockSizes oldInMBs newInMBs id) := by
    intro id
    apply hsizes
    split <;> simp
  refine ⟨hrequired, hlimit, fun id => (hsize id).1, fun id => (hsize id).2,
    fun items n hlisted v hv => ?_, fun v hv => ?_⟩
  · obtain ⟨rfl, -⟩ := hlisted.unique (.last rfl)
    obtain ⟨hid, hsize⟩ := hold v hv
    rw [hid, hsize]
    rfl
  · obtain rfl : v = ⟨"new", .provisioning, newInMBs, "AD-1"⟩ := by simpa [blockCall] using hv
    exact ⟨rfl, fun checked hchecked _ _ => hnew _ (extractStorage_of_checkVolume hchecked)⟩

/-- A new volume for a request with a limit of 100 GiB. -/
theorem honours_blockCall :
    (blockCall ⟨80 * GiB, 100 * GiB⟩ [] 102400).WellFormed (blockSizes 51200 102400) ∧
      Honours (blockCall ⟨80 * GiB, 100 * GiB⟩ [] 102400) (blockSizes 51200 102400) := by
  have hwf : (blockCall ⟨80 * GiB, 100 * GiB⟩ [] 102400).WellFormed (blockSizes 51200 102400) := by
    refine wellFormed_blockCall (by decide) (by decide) (by decide) (by decide) ?_
    intro volSize h
    obtain rfl : 100 * GiB = volSize := Except.ok.inj h
    decide
  refine ⟨hwf, (honours_iff hwf).mpr fun _ => ⟨fun id hid => ?_, fun _ => ?_⟩⟩
  · cases hid
  · show BlockFits ⟨80 * GiB, 100 * GiB⟩
    rw [BlockFits, if_pos (by decide), if_neg (by decide)]
    decide

/-- A volume of 50 GiB that has the name of one with 100 GiB. -/
def oldVolume : BlockVolume.Volume := ⟨"old", .available, 51200, "AD-1"⟩

/-- The old volume is returned although it is smaller than requested. -/
theorem not_honours_oldVolume :
    (blockCall ⟨100 * GiB, 0⟩ [oldVolume] 102400).WellFormed (blockSizes 51200 102400) ∧
      ¬Honours (blockCall ⟨100 * GiB, 0⟩ [oldVolume] 102400) (blockSizes 51200 102400) := by
  have hanswer : (blockCall ⟨100 * GiB, 0⟩ [oldVolume] 102400).answer =
    some ("old", 50 * GiB) := by decide +kernel
  refine ⟨wellFormed_blockCall (by decide) (by decide) (by decide) (by decide) ?_, fun h => ?_⟩
  · intro volSize h
    obtain rfl : 100 * GiB = volSize := Except.ok.inj h
    decide
  · exact absurd (h _ _ hanswer (by decide)).1.required (by decide)

end OciCcm.Csi.Capacity
