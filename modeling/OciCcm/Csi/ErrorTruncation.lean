import Mathlib.Order.Bounds.Basic
import OciCcm.Go.Utf8

/-! # Truncation of the texts of errors

The errors of attaching and detaching a volume are stored by the API server, which
limits their size. The driver cuts their texts before it answers. A text is cut at
a byte, which may be in the middle of a character.
-/

namespace OciCcm.Csi.Truncation

open Go.Utf8

universe u

/-- The error that a function gives back: one that it got, or a new one with a text. -/
inductive Returned (ε : Type u) where
  | given (err : ε)
  | new (msg : ByteArray)

variable {ε : Type u} (error : ε → ByteArray)

def Returned.text : Returned ε → ByteArray
  | given err => error err
  | new msg => msg

def suffix : ByteArray := "...".toByteArray

/-- The loop that moves the end of the text back while it is inside of a character. All of the
bytes that it looks at are in the text. -/
def truncLen (bytesMsg : ByteArray) : (start : ℕ) → start < bytesMsg.size → ℕ
  | 0, _ => 0
  | start + 1, h =>
    if isContinuation bytesMsg[start + 1] then truncLen bytesMsg start (Nat.lt_of_succ_lt h)
    else start + 1

theorem start_lt {size : ℕ} {maxBytes : Int} (h : ¬size ≤ maxBytes)
    (hsuffix : ¬maxBytes < suffix.size) : maxBytes.toNat - suffix.size < size := by
  omega

def truncateError (err : Option ε) (maxBytes : Int) : Returned ε :=
  match err with
  | none => .new ByteArray.empty
  | some err =>
    if maxBytes ≤ 0 then .new ByteArray.empty
    else if h : (error err).size ≤ maxBytes then .given err
    else if hsuffix : maxBytes < suffix.size then
      .new ((error err).extract 0 maxBytes.toNat)
    else
      .new ((error err).extract 0
        (truncLen (error err) (maxBytes.toNat - suffix.size) (start_lt h hsuffix)) ++ suffix)

/-- The limit of the errors of attaching and detaching. -/
def maxVolumeAttachDetachErrorMsgBytes : Int := 1024

/-! ## What a truncation is for -/

/-- A limit that is too small for the suffix leaves it out. -/
def ending (maxBytes : ℕ) : ByteArray := if maxBytes < suffix.size then ByteArray.empty else suffix

/-- The boundaries of characters at which a text may be cut. -/
def fittingCuts (msg : ByteArray) (maxBytes : ℕ) : Set ℕ :=
  {i | IsBoundary msg i ∧ i + (ending maxBytes).size ≤ maxBytes}

/-- The text is kept if it fits. Otherwise it is cut as late as the limit allows. -/
structure IsTruncation (msg : ByteArray) (maxBytes : ℕ) (result : ByteArray) : Prop where
  size_le : result.size ≤ maxBytes
  valid : result.IsValidUTF8
  longest : result = msg ∨ maxBytes < msg.size ∧ ∃ n ≤ msg.size,
    result = msg.extract 0 n ++ ending maxBytes ∧ n ∈ upperBounds (fittingCuts msg maxBytes)

/-! ## The cut -/

section Cut

variable {msg : ByteArray} {maxBytes : ℕ}

@[simp] theorem size_suffix : suffix.size = 3 := by decide +kernel

theorem isValidUTF8_suffix : suffix.IsValidUTF8 := String.isValidUTF8 "..."

theorem isGreatest_truncLen (hvalid : msg.IsValidUTF8) {start : ℕ} (h : start < msg.size) :
    IsGreatest {i | IsBoundary msg i ∧ i ≤ start} (truncLen msg start h) := by
  induction start with
  | zero => exact ⟨⟨isBoundary_zero msg, Nat.le_refl 0⟩, fun i hi => hi.2⟩
  | succ start ih =>
    rw [truncLen]
    by_cases hcontinues : isContinuation msg[start + 1]
    · -- the byte at which the loop is continues a character, so that no boundary is lost
      rw [if_pos hcontinues]
      obtain ⟨⟨hboundary, hle⟩, hgreatest⟩ := ih (Nat.lt_of_succ_lt h)
      refine ⟨⟨hboundary, Nat.le_succ_of_le hle⟩, ?_⟩
      rintro i ⟨hi, hile⟩
      have hne : i ≠ start + 1 := by
        rintro rfl
        exact (isBoundary_iff hvalid h).mp hi hcontinues
      exact hgreatest ⟨hi, by omega⟩
    · rw [if_neg hcontinues]
      exact ⟨⟨(isBoundary_iff hvalid h).mpr hcontinues, Nat.le_refl _⟩, fun i hi => hi.2⟩

theorem isTruncation_self (hvalid : msg.IsValidUTF8) (h : msg.size ≤ maxBytes) :
    IsTruncation msg maxBytes msg :=
  ⟨h, hvalid, .inl rfl⟩

theorem isTruncation_of_isGreatest {n : ℕ} (hlt : maxBytes < msg.size)
    (hsuffix : suffix.size ≤ maxBytes)
    (h : IsGreatest {i | IsBoundary msg i ∧ i ≤ maxBytes - suffix.size} n) :
    IsTruncation msg maxBytes (msg.extract 0 n ++ suffix) := by
  obtain ⟨⟨⟨hsize, hvalid⟩, hle⟩, hgreatest⟩ := h
  have hending : ending maxBytes = suffix := if_neg (Nat.not_lt.mpr hsuffix)
  refine ⟨?_, hvalid.append isValidUTF8_suffix, .inr ⟨hlt, n, hsize, by rw [hending], ?_⟩⟩
  · rw [ByteArray.size_append, ByteArray.size_extract]
    omega
  · rintro i ⟨hi, hfits⟩
    rw [hending] at hfits
    exact hgreatest ⟨hi, Nat.le_sub_of_add_le hfits⟩

theorem isTruncation_extract_iff (hlt : maxBytes < msg.size) (hsuffix : maxBytes < suffix.size) :
    IsTruncation msg maxBytes (msg.extract 0 maxBytes) ↔ IsBoundary msg maxBytes := by
  have hending : ending maxBytes = ByteArray.empty := if_pos hsuffix
  refine ⟨fun h => ⟨Nat.le_of_lt hlt, h.valid⟩, fun h => ⟨?_, h.2, .inr ⟨hlt, maxBytes, h.1, ?_, ?_⟩⟩⟩
  · rw [ByteArray.size_extract]
    omega
  · rw [hending, ByteArray.append_empty]
  · rintro i ⟨-, hfits⟩
    omega

end Cut

/-! ## The results -/

section Results

variable {err : ε} {maxBytes : Int}

theorem truncateError_of_size_le (hpos : 0 < maxBytes) (h : (error err).size ≤ maxBytes) :
    truncateError error (some err) maxBytes = .given err := by
  simp only [truncateError]
  rw [if_neg (Int.not_le.mpr hpos), dif_pos h]

theorem isTruncation_of_suffix_le (hvalid : (error err).IsValidUTF8)
    (hsuffix : suffix.size ≤ maxBytes) :
    IsTruncation (error err) maxBytes.toNat
      ((truncateError error (some err) maxBytes).text error) := by
  have hpos : 0 < maxBytes := by
    rw [size_suffix] at hsuffix
    omega
  by_cases h : (error err).size ≤ maxBytes
  · rw [truncateError_of_size_le error hpos h]
    exact isTruncation_self hvalid (by omega)
  · simp only [truncateError]
    rw [if_neg (Int.not_le.mpr hpos), dif_neg h, dif_neg (Int.not_lt.mpr hsuffix)]
    exact isTruncation_of_isGreatest (by omega) (by omega) (isGreatest_truncLen hvalid _)

/-- The errors of attaching and detaching are always cut well. -/
theorem isTruncation_maxVolumeAttachDetachErrorMsgBytes (hvalid : (error err).IsValidUTF8) :
    IsTruncation (error err) maxVolumeAttachDetachErrorMsgBytes.toNat
      ((truncateError error (some err) maxVolumeAttachDetachErrorMsgBytes).text error) := by
  refine isTruncation_of_suffix_le error hvalid ?_
  rw [size_suffix]
  decide

/-- The text of an error is truncated well unless the limit is too small for the suffix and in the
middle of a character. -/
theorem isTruncation_truncateError_iff (hpos : 0 < maxBytes) (hvalid : (error err).IsValidUTF8) :
    IsTruncation (error err) maxBytes.toNat
        ((truncateError error (some err) maxBytes).text error) ↔
      (error err).size ≤ maxBytes ∨ 3 ≤ maxBytes ∨ IsBoundary (error err) maxBytes.toNat := by
  by_cases h : (error err).size ≤ maxBytes
  · rw [truncateError_of_size_le error hpos h]
    exact iff_of_true (isTruncation_self hvalid (by omega)) (.inl h)
  · by_cases hsuffix : maxBytes < suffix.size
    · have hthree : ¬3 ≤ maxBytes := by
        rw [size_suffix] at hsuffix
        omega
      simp only [truncateError]
      rw [if_neg (Int.not_le.mpr hpos), dif_neg h, dif_pos hsuffix]
      simp only [h, hthree, false_or]
      exact isTruncation_extract_iff (by omega) (by omega)
    · have hle : suffix.size ≤ maxBytes := Int.not_lt.mp hsuffix
      refine iff_of_true (isTruncation_of_suffix_le error hvalid hle) (.inr (.inl ?_))
      rwa [size_suffix] at hle

end Results

/-- The limit is in the middle of a character, which is left out as a whole. -/
theorem isTruncation_truncateError_six :
    0 < (6 : Int) ∧ "éééérror".toByteArray.IsValidUTF8 ∧
      IsTruncation "éééérror".toByteArray 6
        ((truncateError String.toByteArray (some "éééérror") 6).text String.toByteArray) := by
  have hpos : 0 < (6 : Int) := by decide
  refine ⟨hpos, String.isValidUTF8 _, ?_⟩
  exact (isTruncation_truncateError_iff String.toByteArray hpos (String.isValidUTF8 _)).mpr
    (.inr (.inl (by decide)))

example : (truncateError String.toByteArray (some "éééérror") 6).text String.toByteArray =
    "é...".toByteArray := by decide +kernel

/-- One byte of the two of a character is not a text. -/
theorem not_isTruncation_truncateError_one :
    "éa".toByteArray.IsValidUTF8 ∧
      ¬IsTruncation "éa".toByteArray 1
        ((truncateError String.toByteArray (some "éa") 1).text String.toByteArray) := by
  refine ⟨String.isValidUTF8 _, fun h => ?_⟩
  have htext : (truncateError String.toByteArray (some "éa") 1).text String.toByteArray =
      "éa".toByteArray.extract 0 1 := by decide +kernel
  have hsize : 1 < "éa".toByteArray.size := by decide +kernel
  have hbyte : ∀ h : 1 < "éa".toByteArray.size, isContinuation "éa".toByteArray[1] := by
    decide +kernel
  rw [htext, isTruncation_extract_iff hsize (by decide +kernel),
    isBoundary_iff (String.isValidUTF8 _) hsize] at h
  exact h (hbyte hsize)

end OciCcm.Csi.Truncation
