import Mathlib.Data.Nat.Notation
import Mathlib.Tactic.SplitIfs

/-! # Boundaries of characters in encoded text

A text is a sequence of bytes. If it is encoded correctly, the bytes at which a
character begins can be told from the others one by one, so that a place to cut
the text is found without decoding it.
-/

namespace OciCcm.Go.Utf8

/-- The byte continues a character. -/
def isContinuation (b : UInt8) : Bool := b &&& 0xc0 = 0x80

/-- What is before a boundary is a text of its own. -/
def IsBoundary (text : ByteArray) (i : ℕ) : Prop :=
  i ≤ text.size ∧ (text.extract 0 i).IsValidUTF8

variable {text : ByteArray} {b : UInt8} {i : ℕ}

theorem isUTF8FirstByte_iff (h : b.toNat < 0xf8) :
    b.IsUTF8FirstByte ↔ ¬isContinuation b := by
  have hall : ∀ n < 0xf8, ((UInt8.ofNat n).IsUTF8FirstByte ↔ ¬isContinuation (UInt8.ofNat n)) := by
    decide +kernel
  have hb := hall b.toNat h
  rwa [UInt8.ofNat_toNat] at hb

theorem toNat_ofNat_lt {n : ℕ} (h : n < 0xf8) : (UInt8.ofNat n).toNat < 0xf8 := by
  rw [UInt8.toNat_ofNat']
  exact Nat.lt_of_le_of_lt (Nat.mod_le _ _) h

/-- The five highest bits of a byte are never all set. -/
theorem toNat_lt_of_mem_utf8EncodeChar {c : Char} (h : b ∈ String.utf8EncodeChar c) :
    b.toNat < 0xf8 := by
  simp only [String.utf8EncodeChar] at h
  split_ifs at h <;> simp only [List.mem_cons, List.not_mem_nil, or_false] at h
  · obtain rfl := h
    exact toNat_ofNat_lt (by omega)
  · obtain rfl | rfl := h <;> exact toNat_ofNat_lt (by omega)
  · obtain rfl | rfl | rfl := h <;> exact toNat_ofNat_lt (by omega)
  · obtain rfl | rfl | rfl | rfl := h <;> exact toNat_ofNat_lt (by omega)

theorem toNat_getElem_lt (h : text.IsValidUTF8) (hi : i < text.size) : text[i].toNat < 0xf8 := by
  obtain ⟨chars, rfl⟩ := h
  have hbytes : chars.utf8Encode.data.toList = chars.flatMap String.utf8EncodeChar :=
    List.toList_data_toByteArray
  have hmem : chars.utf8Encode[i] ∈ chars.flatMap String.utf8EncodeChar := by
    rw [← hbytes, ByteArray.getElem_eq_getElem_data, ← Array.getElem_toList]
    exact List.getElem_mem _
  obtain ⟨c, -, hc⟩ := List.mem_flatMap.mp hmem
  exact toNat_lt_of_mem_utf8EncodeChar hc

theorem isBoundary_iff_isValid (h : text.IsValidUTF8) :
    IsBoundary text i ↔ String.Pos.Raw.IsValid ⟨text, h⟩ ⟨i⟩ := by
  rw [String.Pos.Raw.isValid_iff_isValidUTF8_extract_zero, String.Pos.Raw.le_iff,
    String.byteIdx_rawEndPos, ← String.size_toByteArray, IsBoundary]

/-- Inside of a text the boundaries are the places where no character is continued. -/
theorem isBoundary_iff (h : text.IsValidUTF8) (hi : i < text.size) :
    IsBoundary text i ↔ ¬isContinuation text[i] := by
  rw [isBoundary_iff_isValid h, String.Pos.Raw.isValid_iff_isUTF8FirstByte,
    ← isUTF8FirstByte_iff (toNat_getElem_lt h hi)]
  constructor
  · rintro (hend | ⟨_, hfirst⟩)
    · -- the end is a boundary, too, but it is not inside
      have hsize := congrArg String.Pos.Raw.byteIdx hend
      rw [String.byteIdx_rawEndPos, ← String.size_toByteArray] at hsize
      exact absurd hsize (Nat.ne_of_lt hi)
    · exact hfirst
  · intro hfirst
    have hlt : (⟨i⟩ : String.Pos.Raw) < String.rawEndPos ⟨text, h⟩ := by
      rw [String.Pos.Raw.lt_iff, String.byteIdx_rawEndPos, ← String.size_toByteArray]
      exact hi
    exact .inr ⟨hlt, hfirst⟩

theorem isBoundary_zero (text : ByteArray) : IsBoundary text 0 := by
  refine ⟨Nat.zero_le _, ?_⟩
  simp

end OciCcm.Go.Utf8
