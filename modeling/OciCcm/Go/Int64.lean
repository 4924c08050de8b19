import Mathlib.Algebra.Group.Int.Defs
import Mathlib.Algebra.Group.Nat.Defs
import Mathlib.Order.Bounds.Defs

/-! # Integers of 64 bits

Arithmetic on an `int64` is arithmetic on integers, of which the last 64 bits are
kept. Division rounds towards zero.
-/

namespace OciCcm.Go

abbrev IsInt64 (i : Int) : Prop := -2 ^ 63 ≤ i ∧ i < 2 ^ 63

/-- The `int64` with the last 64 bits of an integer. -/
def toInt64 (i : Int) : Int := i.bmod (2 ^ 64)

theorem toInt64_of_isInt64 {i : Int} (h : IsInt64 i) : toInt64 i = i := by
  obtain ⟨hge, hlt⟩ := h
  rw [toInt64, Int.bmod_eq_of_le (by omega) (by omega)]

theorem isInt64_toInt64 (i : Int) : IsInt64 (toInt64 i) := by
  have hle := Int.le_bmod (x := i) (m := 2 ^ 64) (by decide)
  have hlt := Int.bmod_lt (x := i) (m := 2 ^ 64) (by decide)
  unfold IsInt64 toInt64
  omega

theorem toInt64_of_overflow {i : Int} (hge : 2 ^ 63 ≤ i) (hlt : i < 2 ^ 64) :
    toInt64 i = i - 2 ^ 64 := by
  rw [toInt64, Int.bmod_eq_emod, Int.emod_eq_of_lt (by omega) (by omega), if_pos (by omega)]
  rfl

/-- The number of units that are needed for a size: `(size + unit - 1) / unit`. -/
def unitsFor (size unit : Int) : Int := (toInt64 (size + unit - 1)).tdiv unit

section unitsFor

variable {size unit : Int} (hunit : 0 < unit)
include hunit

theorem unitsFor_spec (hsize : 0 ≤ size) (hfits : size + unit - 1 < 2 ^ 63) :
    size ≤ unitsFor size unit * unit ∧ unitsFor size unit * unit < size + unit := by
  have hmod := Int.emod_nonneg (size + unit - 1) (Int.ne_of_gt hunit)
  have hmod' := Int.emod_lt_of_pos (size + unit - 1) hunit
  have hdiv := Int.emod_add_mul_ediv (size + unit - 1) unit
  rw [unitsFor, toInt64_of_isInt64 ⟨by omega, hfits⟩, Int.tdiv_eq_ediv_of_nonneg (by omega),
    Int.mul_comm]
  omega

theorem isLeast_unitsFor (hsize : 0 ≤ size) (hfits : size + unit - 1 < 2 ^ 63) :
    IsLeast {n | size ≤ n * unit} (unitsFor size unit) := by
  obtain ⟨hge, hlt⟩ := unitsFor_spec hunit hsize hfits
  refine ⟨hge, fun n hn => ?_⟩
  have hn : size ≤ n * unit := hn
  have hsucc : (n + 1) * unit = n * unit + unit := by rw [Int.add_mul, Int.one_mul]
  have hmul : unitsFor size unit * unit < (n + 1) * unit := by omega
  exact Int.lt_add_one_iff.mp (Int.lt_of_mul_lt_mul_right hmul (Int.le_of_lt hunit))

theorem unitsFor_of_overflow (hsize : size < 2 ^ 63) (hunit' : unit ≤ 2 ^ 63)
    (hoverflow : 2 ^ 63 ≤ size + unit - 1) : unitsFor size unit ≤ 0 := by
  have hnonneg : 0 ≤ (-(size + unit - 1 - 2 ^ 64)).tdiv unit :=
    Int.tdiv_nonneg (by omega) (by omega)
  rw [Int.neg_tdiv] at hnonneg
  rw [unitsFor, toInt64_of_overflow hoverflow (by omega)]
  omega

end unitsFor

end OciCcm.Go
