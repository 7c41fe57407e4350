import Mathlib.Algebra.Order.Archimedean.Real.Basic
import Mathlib.Data.Rat.Floor
import Mathlib.Tactic.NormNum
import TextureGraph.Number.Scalar

/-!
# Exact arithmetic

Texture formulas read over an ordered field with whole parts, where no operation rounds.  The
operations that are written for single precision become those of the field and its order.
-/

namespace TextureGraph
namespace Scalar

section WholePart

variable {α : Type} [Ring α] [LinearOrder α] [FloorRing α]

/-- The whole part of a number, on the side of zero. -/
def wholePart (x : α) : Int :=
  if 0 ≤ x then ⌊x⌋ else ⌈x⌉

theorem wholePart_eq_of_nonneg {x : α} {n : Int} (nonneg : 0 ≤ x) (low : n ≤ x)
    (high : x < n + 1) : wholePart x = n := by
  rw [wholePart, if_pos nonneg, Int.floor_eq_iff]
  exact ⟨low, high⟩

theorem wholePart_intCast [IsStrictOrderedRing α] (n : Int) : wholePart (n : α) = n := by
  rw [wholePart, Int.floor_intCast, Int.ceil_intCast, ite_self]

theorem wholePart_neg [IsStrictOrderedRing α] (x : α) : wholePart (-x) = -wholePart x := by
  rw [wholePart, wholePart, Int.floor_neg, Int.ceil_neg]
  rcases lt_trichotomy x 0 with negative | rfl | positive
  · rw [if_pos (neg_nonneg.mpr negative.le), if_neg negative.not_ge]
  · simp
  · rw [if_neg (neg_lt_zero.mpr positive).not_ge, if_pos positive.le]

end WholePart

variable (α : Type) [Field α] [LinearOrder α] [FloorRing α]

/-- The arithmetic of a field, without rounding. -/
@[reducible] def exact : Scalar α where
  decidableLT := inferInstance
  decidableLE := inferInstance
  ofInt n := n
  floor x := ⌊x⌋
  toInt32 x := Int32.ofInt (max (-2147483648) (min 2147483647 (wholePart x)))
  remainder x y := x - y * wholePart (x / y)
  abs x := |x|

instance : Scalar ℚ := exact ℚ

noncomputable instance : Scalar ℝ := exact ℝ

variable {α}

theorem larger_exact (x y : α) : @larger α (exact α) x y = max x y := by
  simp only [larger, beq_self_eq_true, if_true, max_def_lt]

theorem smaller_exact (x y : α) : @smaller α (exact α) x y = min x y := by
  simp only [smaller, beq_self_eq_true, if_true]
  split_ifs with below
  · exact (min_eq_right below.le).symm
  · exact (min_eq_left (not_lt.mp below)).symm

theorem clampUnit_exact (x : α) : @clampUnit α (exact α) x = max 0 (min 1 x) := by
  have zero : @OfScientific.ofScientific α (exact α).toOfScientific 0 true 1 = 0 := by norm_num
  have one : @OfScientific.ofScientific α (exact α).toOfScientific 10 true 1 = 1 := by norm_num
  simp only [clampUnit, clamp, zero, one]
  split_ifs with below above
  · exact (max_eq_left ((min_le_right 1 x).trans below.le)).symm
  · rw [min_eq_left above.le, max_eq_right zero_le_one]
  · rw [min_eq_right (not_lt.mp above), max_eq_right (not_lt.mp below)]

variable [IsStrictOrderedRing α]

/-- The 32-bit index of a cell is the whole number below a coordinate, up to the bounds. -/
theorem toInt_toInt32_floor (x : α) :
    (@toInt32 α (exact α) (@floor α (exact α) x)).toInt =
      max (-2147483648) (min 2147483647 ⌊x⌋) := by
  have whole : wholePart (⌊x⌋ : α) = ⌊x⌋ := wholePart_intCast _
  change (Int32.ofInt (max (-2147483648) (min 2147483647 (wholePart (⌊x⌋ : α))))).toInt = _
  rw [whole, Int32.toInt_ofInt_of_le (by omega) (by omega)]

end Scalar
end TextureGraph
