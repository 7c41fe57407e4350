import TextureGraph.Proofs.Exact
import TextureGraph.Proofs.Single.Arithmetic

/-!
# Whole parts and remainders in single precision

A finite number becomes the integer that is its whole part, cut off at the bounds of the integers.
The remainder of a truncating division needs no rounding: it is that of the rational numbers.
-/

namespace TextureGraph
namespace Single

open Scalar (wholePart)

/-! ## Whole parts -/

theorem wholePart_natCast_div (num den : Nat) : wholePart (num / den : ℚ) = (num / den : Nat) := by
  have nonneg : (0 : ℚ) ≤ num / den := by positivity
  have floor_eq := Rat.floor_intCast_div_natCast num den
  rw [Int.cast_natCast] at floor_eq
  rw [wholePart, if_pos nonneg, floor_eq]
  rfl

theorem signed_mul (negative : Bool) (n : Nat) (q : ℚ) :
    signed negative n * q = if negative then -(n * q) else n * q := by
  cases negative
  · rfl
  · exact (congrArg (· * q) (Int.cast_neg _)).trans (neg_mul _ _)

theorem truncateParts_eq (negative : Bool) (significand : Nat) (exponent : Int) :
    truncateParts negative significand exponent =
      wholePart (signed negative significand * 2 ^ exponent : ℚ) := by
  rw [truncateParts, signed_mul, ← binaryRatio_eq]
  cases negative
  · exact (wholePart_natCast_div _ _).symm
  · change (-_ : Int).tdiv _ = wholePart (-_)
    rw [Scalar.wholePart_neg, wholePart_natCast_div, Int.neg_tdiv]
    rfl

theorem truncateWithin_eq {x : Float32} (finite : x.isFinite = true) (low high : Int) :
    truncateWithin low high x = max low (min high (wholePart (value x))) := by
  rw [truncateWithin, content_of_finite ((isFinite_iff x).mp finite), value_eq_signed,
    ← truncateParts_eq]

/-- The 64-bit number of a cell is the whole number below a coordinate, up to the bounds. -/
theorem toInt_toInt64_floor {x : Float32} (finite : x.isFinite = true) :
    (toInt64 (floor x)).toInt = max (-2 ^ 63) (min (2 ^ 63 - 1) ⌊value x⌋) := by
  obtain ⟨floor_finite, floor_eq⟩ := value_floor finite
  rw [toInt64, truncateWithin_eq floor_finite, floor_eq, Scalar.wholePart_intCast,
    Int64.toInt_ofInt_of_le (by omega) (by omega)]
  rfl

/-! ## Remainders -/

theorem value_ofParts (negative : Bool) {n : Nat} {e : Int} {bound : Float32}
    (bound_finite : bound.isFinite = true) (short : n ≤ 2 ^ 24) (fine : -149 ≤ e)
    (within : (n * 2 ^ e : ℚ) ≤ |value bound|) :
    (ofParts negative n e).isFinite = true ∧
      value (ofParts negative n e) = signed negative n * 2 ^ e := by
  obtain ⟨r, r_eq⟩ := Precision.exists_value (p := .single) short fine
  rw [abs_value, ← r_eq, Precision.value_strictMono.le_iff_le] at within
  rw [isFinite_iff] at bound_finite
  have finite := within.trans_lt bound_finite
  have stored := ofParts_eq_ofRank negative (r_eq ▸ Precision.nearest_value finite.le)
  obtain ⟨rank_eq, sign_eq⟩ := rank_ofRank negative finite.le
  rw [stored]
  refine ⟨(isFinite_iff _).mpr (rank_eq.trans_lt finite), ?_⟩
  rw [value, rank_eq, sign_eq, signed_mul, r_eq]

theorem signed_mod_mul (negative negative' : Bool) (num : Nat) {den : Nat} (den_pos : 0 < den)
    {unit : ℚ} (unit_pos : 0 < unit) :
    (signed negative (num % den) * unit : ℚ) =
      signed negative num * unit - signed negative' den * unit *
        wholePart (signed negative num * unit / (signed negative' den * unit) : ℚ) := by
  have den_pos' : (0 : ℚ) < den := by exact_mod_cast den_pos
  have ratio : (num * unit) / (den * unit) = (num / den : ℚ) :=
    mul_div_mul_right _ _ unit_pos.ne'
  have digits : (num : ℚ) = den * (num / den : Nat) + (num % den : Nat) := by
    exact_mod_cast (Nat.div_add_mod num den).symm
  have rest_eq : ((num % den : Nat) : ℚ) * unit = num * unit - den * unit * (num / den : Nat) := by
    linear_combination -unit * digits
  simp only [signed_mul]
  cases negative <;> cases negative' <;>
    simp only [Bool.false_eq_true, if_true, if_false, neg_div, div_neg, neg_neg, ratio,
      Scalar.wholePart_neg, wholePart_natCast_div, rest_eq, Int.cast_neg, Int.cast_natCast] <;>
    ring

/-- The remainder of finite numbers is exact. -/
theorem value_remainder {x y : Float32} (x_finite : x.isFinite = true)
    (y_finite : y.isFinite = true) (nonzero : value y ≠ 0) :
    (remainder x y).isFinite = true ∧
      value (remainder x y) = value x - value y * wholePart (value x / value y) := by
  have x_size := abs_value x
  have x_short := Precision.significand_lt (p := .single) (rank x)
  have y_short := Precision.significand_lt (p := .single) (rank y)
  have limit : 2 * Precision.single.binade = 2 ^ 24 := rfl
  have x_fine := minExponent_le x
  have y_fine := minExponent_le y
  rw [value_eq_signed, signed_mul] at nonzero
  rw [remainder, content_of_finite ((isFinite_iff x).mp x_finite),
    content_of_finite ((isFinite_iff y).mp y_finite)]
  rw [value_eq_signed x, value_eq_signed y, signed_mul, signed_mul]
  rw [Precision.value] at x_size
  set m := Precision.single.significand (rank x)
  set e := Precision.single.exponent (rank x)
  set n := Precision.single.significand (rank y)
  set f := Precision.single.exponent (rank y)
  have n_pos : 0 < n := Nat.pos_of_ne_zero fun zero => nonzero (by simp [zero])
  dsimp only
  rw [if_neg n_pos.ne']
  -- Both numbers are counted in the finer of their last places.
  have m_eq : ((m <<< (e - min e f).toNat : Nat) : ℚ) * 2 ^ min e f = m * 2 ^ e :=
    amount_decreaseExponent m (min_le_left e f)
  have n_eq : ((n <<< (f - min e f).toNat : Nat) : ℚ) * 2 ^ min e f = n * 2 ^ f :=
    amount_decreaseExponent n (min_le_right e f)
  have rest_short : m <<< (e - min e f).toNat % n <<< (f - min e f).toNat ≤ 2 ^ 24 := by
    rcases min_choice e f with first | second
    · have kept : m <<< (e - min e f).toNat = m := by simp [first]
      rw [kept]
      exact (Nat.mod_le _ _).trans (x_short.trans_eq limit).le
    · have kept : n <<< (f - min e f).toNat = n := by simp [second]
      rw [kept]
      exact (Nat.mod_lt _ n_pos).le.trans (y_short.trans_eq limit).le
  have rest_le : ((m <<< (e - min e f).toNat % n <<< (f - min e f).toNat : Nat) : ℚ) *
      2 ^ min e f ≤ |value x| := by
    rw [x_size, ← m_eq]
    gcongr
    exact Nat.mod_le _ _
  obtain ⟨finite, value_eq⟩ := value_ofParts (isNegative x) x_finite rest_short
    (le_min x_fine y_fine) rest_le
  refine ⟨finite, value_eq.trans ?_⟩
  rw [← m_eq, ← n_eq, ← signed_mul, ← signed_mul]
  exact signed_mod_mul _ _ _ (Nat.shiftLeft_pos_iff.mpr n_pos) (zpow_pos two_pos _)

end Single
end TextureGraph
