import OciCcm.Csi.BlockVolume
import OciCcm.Go.Int64
import OciCcm.Tags

/-! # The request for a new block volume

`provision` sends the request for a new block volume. The size is rounded up to
GiB, and the tags of the cluster are left out if there are too many tags.
-/

namespace OciCcm.Csi.BlockVolume

open Go Tags

/-! ## The size -/

def roundUpSize (volumeSizeBytes allocationUnitBytes : Int) : Int :=
  unitsFor volumeSizeBytes allocationUnitBytes

def roundUpMinSize : Int := roundUpSize minimumVolumeSizeInBytes GiB

def volSizeGB (volSize : Int) : Int :=
  let volSizeGB := roundUpSize volSize GiB
  if roundUpMinSize > volSizeGB then roundUpMinSize else volSizeGB

theorem roundUpMinSize_mul : roundUpMinSize * GiB = minimumVolumeSizeInBytes := by decide

theorem GiB_pos : 0 < GiB := by decide

/-- Is the size too large to be rounded up? -/
abbrev Overflows (volSize : Int) : Prop := 2 ^ 63 ≤ volSize + GiB - 1

theorem volSizeGB_spec {volSize : Int} (hmin : minimumVolumeSizeInBytes ≤ volSize)
    (hfits : ¬Overflows volSize) :
    volSize ≤ volSizeGB volSize * GiB ∧ volSizeGB volSize * GiB < volSize + GiB := by
  have hnonneg : 0 ≤ minimumVolumeSizeInBytes := by decide
  have hspec := unitsFor_spec GiB_pos (by omega) (Int.not_le.mp hfits)
  have hge : roundUpMinSize ≤ roundUpSize volSize GiB := by
    refine Int.le_of_mul_le_mul_right ?_ GiB_pos
    rw [roundUpMinSize_mul]
    exact Int.le_trans hmin hspec.1
  rw [volSizeGB, if_neg (Int.not_lt.mpr hge)]
  exact hspec

theorem volSizeGB_of_overflows {volSize : Int} (hsize : volSize < 2 ^ 63) (h : Overflows volSize) :
    volSizeGB volSize * GiB = minimumVolumeSizeInBytes := by
  have hle : roundUpSize volSize GiB ≤ 0 := unitsFor_of_overflow GiB_pos hsize (by decide) h
  have hmin : 0 < roundUpMinSize := by decide
  rw [volSizeGB, if_pos (Int.lt_of_le_of_lt hle hmin), roundUpMinSize_mul]

/-! ## The request -/

inductive VolumeSourceDetails where
  | volumeBackup (id : String)
  | volume (id : String)
deriving DecidableEq, Repr

structure CreateVolumeDetails where
  availabilityDomain : String
  compartmentId : String
  displayName : String
  sizeInGBs : Int
  vpusPerGB : Int
  sourceDetails : Option VolumeSourceDetails
  kmsKeyId : Option String
  freeformTags : Option (GoMap String)
  definedTags : Option DefinedTags

def okeSystemTagNamesapce := "orcl-containerengine"

def maxDefinedTagPerVolume : Nat := 64

/-- The defined tags of the request. What is compared with the limit is the number of
namespaces. -/
def volumeDefinedTags (definedTags : DefinedTags) : DefinedTags :=
  if definedTags.toPairs.length > maxDefinedTagPerVolume then
    definedTags.erase okeSystemTagNamesapce
  else definedTags

/-- The request that `provision` sends. -/
def provision (volName : String) (volSize : Int)
    (availDomainName compartmentID backupID srcVolumeID kmsKeyID : String) (vpusPerGB : Int)
    (bvTags : Option TagConfig) : CreateVolumeDetails where
  availabilityDomain := availDomainName
  compartmentId := compartmentID
  displayName := volName
  sizeInGBs := volSizeGB volSize
  vpusPerGB := vpusPerGB
  sourceDetails :=
    if backupID ≠ "" then some (.volumeBackup backupID)
    else if srcVolumeID ≠ "" then some (.volume srcVolumeID)
    else none
  kmsKeyId := if kmsKeyID ≠ "" then some kmsKeyID else none
  freeformTags := bvTags.bind (·.freeformTags)
  definedTags := (bvTags.bind (·.definedTags)).map volumeDefinedTags

/-- The request with which `CreateVolume` asks for a new volume. -/
def Checked.details (c : Checked) (d : BlockVolumeControllerDriver) (req : CreateVolumeRequest)
    (fullAvailabilityDomainName : String) (bvTags : TagConfig) : CreateVolumeDetails :=
  provision req.name c.size fullAvailabilityDomainName d.compartmentID c.source.srcSnapshotId
    c.source.srcVolumeId c.volumeParams.diskEncryptionKey c.volumeParams.vpusPerGB bvTags

/-- The tags of the configuration that concern block volumes. -/
structure InitialTags where
  blockVolume : Option TagConfig := none
  common : Option TagConfig := none

/-- The tags of the storage class take the place of those of the configuration. -/
def getBVTags (enableOkeSystemTags : Bool) (tags : Option InitialTags) (scTags : TagConfig) :
    TagConfig :=
  let bvTags := (tags.bind (·.blockVolume)).getD {}
  let bvTags := if scTags.freeformTags.isSome ∨ scTags.definedTags.isSome then scTags else bvTags
  match tags.bind (·.common) with
  | some common => if enableOkeSystemTags then mergeTagConfig bvTags common else bvTags
  | none => bvTags

end OciCcm.Csi.BlockVolume
