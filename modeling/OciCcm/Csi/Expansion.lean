import OciCcm.Csi.Capacity

/-! # Sizes that are asked for, and expanding volumes

`ExtractStorage` turns a capacity range into a size in bytes, which is then rounded
up to GiB. `ControllerExpandVolume` compares the rounded size with that of the
volume and answers with a capacity, on each of its two paths with another one.
-/

namespace OciCcm.Csi.Expansion

open Client Go BlockVolume
open Capacity (extractStorage_ok GiB_eq minimumVolumeSizeInBytes_eq)

/-! ## The bounds of a size -/

theorem maximumVolumeSizeInBytes_eq : maximumVolumeSizeInBytes = 35184372088832 := rfl

/-- The size is a supported one in the range, and can be rounded up to GiB. -/
structure RespectsBounds (range : CapacityRange) (size : Int) : Prop where
  minimum : minimumVolumeSizeInBytes ≤ size
  maximum : size ≤ maximumVolumeSizeInBytes
  required : range.requiredBytes ≤ size
  limit : 0 < range.limitBytes → size ≤ range.limitBytes
  sum_isInt64 : IsInt64 (size + GiB - 1)
  rounded : IsLeast {n | size ≤ n * GiB} (roundUpSize size GiB)

/-- The limit, or what is required if there is no limit, is a supported size. Less than the minimum
may be required. -/
def Supported (range : CapacityRange) : Prop :=
  if 0 < range.limitBytes then
    minimumVolumeSizeInBytes ≤ range.limitBytes ∧ range.limitBytes ≤ maximumVolumeSizeInBytes
  else range.requiredBytes ≤ maximumVolumeSizeInBytes

/-- The only ranges that are refused. -/
def Contradictory (range : CapacityRange) : Prop :=
  0 < range.limitBytes ∧ range.limitBytes < range.requiredBytes

variable {capRange : Option CapacityRange}

theorem extractStorage_error_iff :
    (∃ err, extractStorage capRange = .error err) ↔ Contradictory (capRange.getD ⟨0, 0⟩) := by
  cases capRange with
  | none =>
    refine iff_of_false ?_ ?_
    · rintro ⟨err, h⟩
      cases h
    · exact fun h => Int.lt_irrefl 0 h.1
  | some range =>
    obtain ⟨requiredBytes, limitBytes⟩ := range
    unfold extractStorage Contradictory
    dsimp only [Option.getD_some]
    split_ifs with hneither hless hrequired
    · simp only [exists_false, false_iff]
      omega
    · simp only [Except.error.injEq, exists_eq', true_iff]
      omega
    · simp only [exists_false, false_iff]
      omega
    · simp only [exists_false, false_iff]
      omega

theorem le_of_extractStorage {size : Int} (h : extractStorage capRange = .ok size) :
    (capRange.getD ⟨0, 0⟩).requiredBytes ≤ size ∧ minimumVolumeSizeInBytes ≤ size := by
  have hsize := extractStorage_ok h
  split_ifs at hsize
  · obtain ⟨hle, rfl⟩ := hsize
    exact ⟨Int.le_trans hle (Int.le_max_left _ _), Int.le_max_right _ _⟩
  · rw [hsize]
    exact ⟨Int.le_max_left _ _, Int.le_max_right _ _⟩

theorem respectsBounds_iff {range : CapacityRange} {size : Int}
    (hrequired : range.requiredBytes ≤ size) (hmin : minimumVolumeSizeInBytes ≤ size) :
    RespectsBounds range size ↔
      size ≤ maximumVolumeSizeInBytes ∧ (0 < range.limitBytes → size ≤ range.limitBytes) := by
  constructor
  · intro h
    exact ⟨h.maximum, h.limit⟩
  · rintro ⟨hmax, hlimit⟩
    have hfits : 0 ≤ size ∧ size + GiB - 1 < 2 ^ 63 := by
      rw [GiB_eq]
      rw [minimumVolumeSizeInBytes_eq] at hmin
      rw [maximumVolumeSizeInBytes_eq] at hmax
      omega
    have hpos := GiB_pos
    exact ⟨hmin, hmax, hrequired, hlimit, ⟨by omega, hfits.2⟩,
      isLeast_unitsFor GiB_pos hfits.1 hfits.2⟩

/-- A size that is extracted respects its bounds exactly if the range is supported, or refused. -/
theorem extractStorage_respectsBounds_iff (capRange : Option CapacityRange) :
    (∀ size, extractStorage capRange = .ok size → RespectsBounds (capRange.getD ⟨0, 0⟩) size) ↔
      Supported (capRange.getD ⟨0, 0⟩) ∨ Contradictory (capRange.getD ⟨0, 0⟩) := by
  rw [← extractStorage_error_iff]
  cases h : extractStorage capRange with
  | error err => exact iff_of_true (fun size hsize => nomatch hsize) (.inr ⟨err, rfl⟩)
  | ok size =>
    obtain ⟨hrequired, hmin⟩ := le_of_extractStorage h
    have hsize := extractStorage_ok h
    simp only [Except.ok.injEq, forall_eq', reduceCtorEq, exists_false, or_false,
      respectsBounds_iff hrequired hmin]
    unfold Supported
    rw [minimumVolumeSizeInBytes_eq] at hsize ⊢
    rw [maximumVolumeSizeInBytes_eq]
    split_ifs at hsize ⊢ <;> omega

/-- A limit below the minimum is exceeded, and a size above the maximum is not refused. The second
one cannot be rounded up. -/
theorem not_respectsBounds_extractStorage :
    (∃ size, extractStorage (some ⟨0, GiB⟩) = .ok size ∧ ¬RespectsBounds ⟨0, GiB⟩ size) ∧
      ∃ size, extractStorage (some ⟨2 ^ 63 - 1, 0⟩) = .ok size ∧
        ¬RespectsBounds ⟨2 ^ 63 - 1, 0⟩ size ∧ roundUpSize size GiB < 0 := by
  refine ⟨⟨minimumVolumeSizeInBytes, rfl, fun h => ?_⟩, 2 ^ 63 - 1, rfl, fun h => ?_, by decide⟩
  · exact absurd (h.limit (by decide)) (by decide)
  · exact absurd h.maximum (by decide)

/-! ## Expanding a volume -/

structure ControllerExpandVolumeRequest where
  volumeId : String
  capacityRange : Option CapacityRange

structure ControllerExpandVolumeResponse where
  capacityBytes : Int
  nodeExpansionRequired : Bool
deriving DecidableEq, Repr

/-- The volume as the server has it. -/
structure ServerVolume where
  displayName : String
  sizeInGBs : Int
deriving DecidableEq, Repr

structure UpdateVolumeDetails where
  displayName : String
  sizeInGBs : Int
deriving DecidableEq, Repr

/-- The errors that the calls are answered with. An update that fails may have been made. -/
structure ExpandErrors where
  getVolume : Option ClientError := none
  updateVolume : Option ClientError := none
  updateMade : Bool := false
  awaitVolumeAvailable : Option ClientError := none

/-- A request with the updates that it sends and the volume that it leaves. -/
structure Expanded where
  result : Except Status ControllerExpandVolumeResponse
  updates : List UpdateVolumeDetails := []
  volume : ServerVolume

/-- The checks before the first call, with the size that is asked for. -/
def checkExpandRequest (req : ControllerExpandVolumeRequest) : Except Status Int :=
  if req.volumeId = "" then .error ⟨.invalidArgument, "UpdateVolume volumeId must be provided"⟩
  else if isBootVolume req.volumeId then
    .error ⟨.invalidArgument, "Volume expansion is not supported for Boot Volumes"⟩
  else (extractStorage req.capacityRange).mapError fun err =>
    ⟨.outOfRange, "invalid capacity range: " ++ err⟩

/-- The server sets the size that it is sent. -/
def updateVolume (details : UpdateVolumeDetails) : ServerVolume :=
  ⟨details.displayName, details.sizeInGBs⟩

def controllerExpandVolume (req : ControllerExpandVolumeRequest) (e : ExpandErrors)
    (volume : ServerVolume) : Expanded :=
  match checkExpandRequest req with
  | .error status => { result := .error status, volume }
  | .ok newSize =>
    match e.getVolume with
    | some err => { result := .error ⟨.internal, "failed to check existence of volume " ++ err.error⟩
                    volume }
    | none =>
      let newSizeInGB := roundUpSize newSize GiB
      let oldSize := volume.sizeInGBs
      if newSizeInGB ≤ oldSize then
        { result := .ok ⟨toInt64 (oldSize * GiB), true⟩, volume }
      else
        let details : UpdateVolumeDetails := ⟨volume.displayName, newSizeInGB⟩
        match e.updateVolume with
        | some err =>
          { result := .error ⟨.internal, "Update volume failed " ++ err.error⟩
            updates := [details]
            volume := if e.updateMade then updateVolume details else volume }
        | none =>
          { result := match e.awaitVolumeAvailable with
              | some err =>
                .error ⟨.deadlineExceeded, "ControllerExpand failed with time out " ++ err.error⟩
              | none => .ok ⟨newSize, true⟩
            updates := [details]
            volume := updateVolume details }

/-- The volume has not become smaller, it is at least as large as required, and its size is what is
answered. A repeated request sends no update, and answers the same if the volume can be read. -/
structure ReportsTruth (req : ControllerExpandVolumeRequest) (before after : ServerVolume)
    (response : ControllerExpandVolumeResponse) : Prop where
  not_smaller : before.sizeInGBs ≤ after.sizeInGBs
  required : (req.capacityRange.getD ⟨0, 0⟩).requiredBytes ≤ after.sizeInGBs * GiB
  capacity : response.capacityBytes = after.sizeInGBs * GiB
  again : ∀ e, (controllerExpandVolume req e after).updates = [] ∧
    (e.getVolume = none → (controllerExpandVolume req e after).result = .ok response)

/-- Every request that succeeds reports the truth. -/
def Truthful (req : ControllerExpandVolumeRequest) (volume : ServerVolume) : Prop :=
  ∀ e response, (controllerExpandVolume req e volume).result = .ok response →
    ReportsTruth req volume (controllerExpandVolume req e volume).volume response

/-- A volume that has to grow is asked for in whole GiB. The size in bytes of one that is large
enough is an `int64`; if the size that is asked for is too large to be rounded up, the volume only
seems to be large enough. -/
def WholeGiB (req : ControllerExpandVolumeRequest) (volume : ServerVolume) : Prop :=
  ∀ newSize, checkExpandRequest req = .ok newSize →
    if roundUpSize newSize GiB ≤ volume.sizeInGBs then
      volume.sizeInGBs * GiB < 2 ^ 63 ∧ (Overflows newSize →
        (req.capacityRange.getD ⟨0, 0⟩).requiredBytes ≤ volume.sizeInGBs * GiB)
    else GiB ∣ newSize

/-- The fields of the range are of type `int64`, and the volume has a size. -/
structure WellFormed (req : ControllerExpandVolumeRequest) (volume : ServerVolume) : Prop where
  required : IsInt64 (req.capacityRange.getD ⟨0, 0⟩).requiredBytes
  limit : IsInt64 (req.capacityRange.getD ⟨0, 0⟩).limitBytes
  size : 0 ≤ volume.sizeInGBs

/-! ### The two paths -/

section Paths

variable {req : ControllerExpandVolumeRequest} {e : ExpandErrors} {volume : ServerVolume}
  {newSize : Int}

theorem extractStorage_of_checkExpandRequest (h : checkExpandRequest req = .ok newSize) :
    extractStorage req.capacityRange = .ok newSize := by
  unfold checkExpandRequest at h
  split_ifs at h
  exact mapError_ok.mp h

theorem controllerExpandVolume_of_le (h : checkExpandRequest req = .ok newSize)
    (hle : roundUpSize newSize GiB ≤ volume.sizeInGBs) :
    (controllerExpandVolume req e volume).updates = [] ∧
      (controllerExpandVolume req e volume).volume = volume ∧
      (e.getVolume = none → (controllerExpandVolume req e volume).result =
        .ok ⟨toInt64 (volume.sizeInGBs * GiB), true⟩) := by
  unfold controllerExpandVolume
  rw [h]
  dsimp only
  split
  · next err herr => exact ⟨rfl, rfl, fun hnone => by rw [hnone] at herr; cases herr⟩
  · rw [if_pos hle]
    exact ⟨rfl, rfl, fun _ => rfl⟩

theorem controllerExpandVolume_of_lt (h : checkExpandRequest req = .ok newSize)
    (hlt : volume.sizeInGBs < roundUpSize newSize GiB) :
    (controllerExpandVolume req {} volume).result = .ok ⟨newSize, true⟩ ∧
      (controllerExpandVolume req {} volume).volume =
        ⟨volume.displayName, roundUpSize newSize GiB⟩ := by
  unfold controllerExpandVolume
  rw [h]
  dsimp only
  rw [if_neg (Int.not_le.mpr hlt)]
  exact ⟨rfl, rfl⟩

/-- A request that succeeds is answered as it is without errors. -/
theorem controllerExpandVolume_ok {response : ControllerExpandVolumeResponse}
    (h : (controllerExpandVolume req e volume).result = .ok response) :
    ∃ newSize, checkExpandRequest req = .ok newSize ∧
      controllerExpandVolume req e volume = controllerExpandVolume req {} volume := by
  unfold controllerExpandVolume at h ⊢
  split at h
  · cases h
  next newSize hcheck =>
  refine ⟨newSize, hcheck, ?_⟩
  split at h
  · cases h
  dsimp only at h ⊢
  by_cases hle : roundUpSize newSize GiB ≤ volume.sizeInGBs
  · rw [if_pos hle, if_pos hle]
  rw [if_neg hle] at h ⊢
  rw [if_neg hle]
  cases hupdate : e.updateVolume with
  | some err =>
    rw [hupdate] at h
    cases h
  | none =>
    rw [hupdate] at h
    cases hawait : e.awaitVolumeAvailable with
    | some err =>
      rw [hawait] at h
      cases h
    | none => rfl

end Paths

/-! ### When the answer is true -/

theorem lt_of_extractStorage {newSize : Int}
    (hrequired : IsInt64 (capRange.getD ⟨0, 0⟩).requiredBytes)
    (hlimit : IsInt64 (capRange.getD ⟨0, 0⟩).limitBytes) (h : extractStorage capRange = .ok newSize) :
    newSize < 2 ^ 63 := by
  have hsize := extractStorage_ok h
  obtain ⟨-, hrequired⟩ := hrequired
  obtain ⟨-, hlimit⟩ := hlimit
  rw [minimumVolumeSizeInBytes_eq] at hsize
  split_ifs at hsize <;> omega

section Truth

variable {req : ControllerExpandVolumeRequest} {volume : ServerVolume} {newSize : Int}
  (hwf : WellFormed req volume)
include hwf

theorem reportsTruth_of_le (h : checkExpandRequest req = .ok newSize)
    (hle : roundUpSize newSize GiB ≤ volume.sizeInGBs) :
    ReportsTruth req volume volume ⟨toInt64 (volume.sizeInGBs * GiB), true⟩ ↔
      volume.sizeInGBs * GiB < 2 ^ 63 ∧ (Overflows newSize →
        (req.capacityRange.getD ⟨0, 0⟩).requiredBytes ≤ volume.sizeInGBs * GiB) := by
  constructor
  · intro htruth
    have hcapacity : toInt64 (volume.sizeInGBs * GiB) = volume.sizeInGBs * GiB := htruth.capacity
    have hint := isInt64_toInt64 (volume.sizeInGBs * GiB)
    rw [hcapacity] at hint
    exact ⟨hint.2, fun _ => htruth.required⟩
  · rintro ⟨hlt, hoverflows⟩
    have hnonneg : 0 ≤ volume.sizeInGBs * GiB := Int.mul_nonneg hwf.size (Int.le_of_lt GiB_pos)
    refine ⟨Int.le_refl _, ?_, toInt64_of_isInt64 ⟨by omega, hlt⟩, fun e => ?_⟩
    · by_cases hover : Overflows newSize
      · exact hoverflows hover
      · obtain ⟨hrequired, hmin⟩ := le_of_extractStorage (extractStorage_of_checkExpandRequest h)
        have hpos : 0 ≤ newSize := Int.le_trans (by decide) hmin
        have hspec := (unitsFor_spec GiB_pos hpos (Int.not_le.mp hover)).1
        calc (req.capacityRange.getD ⟨0, 0⟩).requiredBytes
          _ ≤ newSize := hrequired
          _ ≤ roundUpSize newSize GiB * GiB := hspec
          _ ≤ volume.sizeInGBs * GiB := Int.mul_le_mul_of_nonneg_right hle (Int.le_of_lt GiB_pos)
    · obtain ⟨hupdates, -, hresult⟩ := controllerExpandVolume_of_le (e := e) h hle
      exact ⟨hupdates, hresult⟩

theorem reportsTruth_of_lt (h : checkExpandRequest req = .ok newSize)
    (hlt : volume.sizeInGBs < roundUpSize newSize GiB) :
    ReportsTruth req volume ⟨volume.displayName, roundUpSize newSize GiB⟩ ⟨newSize, true⟩ ↔
      GiB ∣ newSize := by
  have hstorage := extractStorage_of_checkExpandRequest h
  obtain ⟨hrequired, hmin⟩ := le_of_extractStorage hstorage
  have hsize := lt_of_extractStorage hwf.required hwf.limit hstorage
  have hpos : 0 ≤ newSize := Int.le_trans (by decide) hmin
  have hfits : ¬Overflows newSize := by
    -- otherwise the rounded size would not exceed any other
    intro hover
    have hle : roundUpSize newSize GiB ≤ 0 :=
      unitsFor_of_overflow GiB_pos hsize (by decide) hover
    exact absurd hwf.size (Int.not_le.mpr (Int.lt_of_lt_of_le hlt hle))
  have hspec : newSize ≤ roundUpSize newSize GiB * GiB ∧
      roundUpSize newSize GiB * GiB < newSize + GiB :=
    unitsFor_spec GiB_pos hpos (Int.not_le.mp hfits)
  constructor
  · intro htruth
    have hcapacity : newSize = roundUpSize newSize GiB * GiB := htruth.capacity
    exact ⟨_, hcapacity.trans (Int.mul_comm _ _)⟩
  · rintro ⟨n, hn⟩
    have hcapacity : roundUpSize newSize GiB * GiB = newSize := by
      rw [GiB_eq] at hn hspec ⊢
      omega
    refine ⟨Int.le_of_lt hlt, hcapacity.symm ▸ hrequired, hcapacity.symm, fun e => ?_⟩
    obtain ⟨hupdates, -, hresult⟩ := @controllerExpandVolume_of_le req e
      ⟨volume.displayName, roundUpSize newSize GiB⟩ newSize h (Int.le_refl _)
    refine ⟨hupdates, fun hnone => (hresult hnone).trans ?_⟩
    dsimp only
    rw [hcapacity, toInt64_of_isInt64 ⟨by omega, hsize⟩]

/-- Expanding a volume reports the truth exactly if a volume that has to grow is asked for in whole
GiB, and the size of one that is large enough does not overflow. -/
theorem truthful_iff_wholeGiB : Truthful req volume ↔ WholeGiB req volume := by
  constructor
  · intro htruthful newSize h
    split_ifs with hle
    · obtain ⟨-, hvolume, hresult⟩ := controllerExpandVolume_of_le (e := {}) h hle
      have htruth := htruthful {} _ (hresult rfl)
      rw [hvolume] at htruth
      exact (reportsTruth_of_le hwf h hle).mp htruth
    · obtain ⟨hresult, hvolume⟩ := controllerExpandVolume_of_lt h (Int.not_le.mp hle)
      have htruth := htruthful {} _ hresult
      rw [hvolume] at htruth
      exact (reportsTruth_of_lt hwf h (Int.not_le.mp hle)).mp htruth
  · intro hwhole e response hresponse
    obtain ⟨newSize, h, heq⟩ := controllerExpandVolume_ok hresponse
    have hcond := hwhole newSize h
    rw [heq] at hresponse ⊢
    split_ifs at hcond with hle
    · obtain ⟨-, hvolume, hresult⟩ := controllerExpandVolume_of_le (e := {}) h hle
      rw [hresult rfl] at hresponse
      rw [hvolume, ← Except.ok.inj hresponse]
      exact (reportsTruth_of_le hwf h hle).mpr hcond
    · obtain ⟨hresult, hvolume⟩ := controllerExpandVolume_of_lt h (Int.not_le.mp hle)
      rw [hresult] at hresponse
      rw [hvolume, ← Except.ok.inj hresponse]
      exact (reportsTruth_of_lt hwf h (Int.not_le.mp hle)).mpr hcond

end Truth

/-- A volume of 50 GiB, and a request for so many bytes. -/
def smallVolume : ServerVolume := ⟨"pvc", 50⟩

def expandTo (requiredBytes : Int) : ControllerExpandVolumeRequest :=
  ⟨"ocid1.volume.oc1..v", some ⟨requiredBytes, 0⟩⟩

theorem truthful_expandTo_whole :
    WellFormed (expandTo (60 * GiB)) smallVolume ∧ Truthful (expandTo (60 * GiB)) smallVolume := by
  have hwf : WellFormed (expandTo (60 * GiB)) smallVolume := ⟨by decide, by decide, by decide⟩
  refine ⟨hwf, (truthful_iff_wholeGiB hwf).mpr fun newSize h => ?_⟩
  obtain rfl : 60 * GiB = newSize := Except.ok.inj h
  decide

/-- One byte more than 50 GiB makes a volume of 51 GiB, but the answer is one byte more than 50
GiB, and the answer to the repeated request is 51 GiB. -/
theorem not_truthful_expandTo_odd :
    WellFormed (expandTo (50 * GiB + 1)) smallVolume ∧
      (controllerExpandVolume (expandTo (50 * GiB + 1)) {} smallVolume).result =
        .ok ⟨50 * GiB + 1, true⟩ ∧
      (controllerExpandVolume (expandTo (50 * GiB + 1)) {} smallVolume).volume.sizeInGBs = 51 ∧
      ¬Truthful (expandTo (50 * GiB + 1)) smallVolume := by
  have hwf : WellFormed (expandTo (50 * GiB + 1)) smallVolume := ⟨by decide, by decide, by decide⟩
  refine ⟨hwf, rfl, rfl, fun h => ?_⟩
  exact absurd (h {} _ rfl).capacity (by decide)

end OciCcm.Csi.Expansion
