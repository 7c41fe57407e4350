import Mathlib
import TextureGraph.Number.Single
import TextureGraph.Proofs.Rank

/-!
# Single-precision numbers and their ranks

A single-precision number is determined by its bits, hence by its sign and its rank.  A value is
rounded to the number of the rank that is nearest to it.
-/

namespace TextureGraph
namespace Single

/-- A number is the one of its sign and rank. -/
theorem ofRank_rank (x : Float32) : ofRank (isNegative x) (rank x) = x := by
  have below := x.toBits.toNat_lt
  have bits : (if isNegative x then 0x80000000 + rank x else rank x) = x.toBits.toNat := by
    simp only [isNegative, rank, decide_eq_true_eq]
    split_ifs <;> omega
  rw [ofRank, bits, UInt32.ofNat_toNat, Float32.ofBits_toBits]

/-! ## Rounding -/

theorem binade_double : Precision.double.binade = 4503599627370496 := rfl

theorem even_single : Precision.single.binade % 2 = 0 := rfl

theorem even_double : Precision.double.binade % 2 = 0 := rfl

theorem value_infinity_double :
    Precision.double.value Precision.double.infinity = 2 ^ (1024 : Int) := by
  have parts : Precision.double.significand Precision.double.infinity = 4503599627370496 ∧
      Precision.double.exponent Precision.double.infinity = 972 := by
    decide
  have significand_eq : ((4503599627370496 : Nat) : ℚ) = 2 ^ (52 : Int) := by norm_num
  rw [Precision.value, parts.1, parts.2, significand_eq, ← zpow_add₀ two_ne_zero]
  rfl

/-- A value to which a rank is nearest is rounded to the number of that rank. -/
theorem ofParts_eq_ofRank (negative : Bool) {significand rank : Nat} {exponent : Int}
    (nearest : Precision.single.Nearest (significand * 2 ^ exponent) rank) :
    ofParts negative significand exponent = ofRank negative rank := by
  rw [ofParts, (Precision.nearest_rank_binaryRatio even_single significand exponent).unique nearest]

end Single
end TextureGraph
