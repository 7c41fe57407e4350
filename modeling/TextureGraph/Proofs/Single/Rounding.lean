import TextureGraph.Proofs.Single.Order
import TextureGraph.Proofs.SingleRank

/-!
# Single-precision arithmetic rounds

A result is first brought to the exponent of its format, with the digits that fall off kept apart,
and then rounded.  The sum, the difference, the product and the quotient of finite numbers are
therefore the numbers nearest to the exact results.
-/

namespace TextureGraph
namespace Single

open Float.Model UnpackedFloat

/-! ## Digits that fall off -/

/-- Dropping binary digits of a quotient keeps the first of them and whether anything else is
left. -/
theorem shiftRight_succ (m rest den n : Nat) :
    (ExtendedMantissa.ofMantissaAndAccuracy m (accuracyOfFraction rest den) >>> (n + 1)) =
      ⟨m / 2 ^ (n + 1), m / 2 ^ n % 2 != 0, (m % 2 ^ n != 0) || (rest != 0)⟩ := by
  change Nat.repeat ExtendedMantissa.shiftRightOne (n + 1) _ = _
  induction n with
  | zero =>
      rw [accuracyOfFraction]
      split_ifs with whole
      · simp [Nat.repeat, ExtendedMantissa.shiftRightOne, ExtendedMantissa.ofMantissaAndAccuracy,
          Nat.mod_one, whole]
      · cases compare (2 * rest) den <;>
          simp [Nat.repeat, ExtendedMantissa.shiftRightOne, ExtendedMantissa.ofMantissaAndAccuracy,
            Nat.mod_one, whole]
  | succ n induction =>
      have digits : m % 2 ^ (n + 1) = m % 2 ^ n + 2 ^ n * (m / 2 ^ n % 2) := by
        rw [pow_succ, Nat.mod_mul]
      have kept : ((m / 2 ^ n % 2 != 0) || ((m % 2 ^ n != 0) || (rest != 0))) =
          ((m % 2 ^ (n + 1) != 0) || (rest != 0)) := by
        have power_pos : 2 ^ n ≠ 0 := by positivity
        rw [digits, Bool.eq_iff_iff]
        simp only [Bool.or_eq_true, bne_iff_ne, ne_eq, Nat.add_eq_zero_iff, mul_eq_zero, power_pos,
          false_or]
        tauto
      rw [Nat.repeat, induction, ExtendedMantissa.shiftRightOne, Nat.div_div_eq_div_mul, ← pow_succ,
        kept]

/-- What the dropped digits and the rest of a division keep is enough to round the quotient. -/
theorem roundedMantissa_shiftRight (num n : Nat) {den : Nat} (den_pos : 0 < den) :
    (ExtendedMantissa.ofMantissaAndAccuracy (num / den)
      (accuracyOfFraction (num % den) den) >>> n).roundedMantissa = roundDiv num (den * 2 ^ n) := by
  cases n with
  | zero =>
      have unshifted : ExtendedMantissa.ofMantissaAndAccuracy (num / den)
          (accuracyOfFraction (num % den) den) >>> 0 =
            ExtendedMantissa.ofMantissaAndAccuracy (num / den)
              (accuracyOfFraction (num % den) den) := rfl
      rw [unshifted, pow_zero, mul_one, accuracyOfFraction, roundDiv]
      rcases Nat.eq_zero_or_pos (num % den) with whole | rest
      · rw [if_pos whole, whole, if_pos (by omega)]
        rfl
      rw [if_neg rest.ne']
      rcases Nat.lt_trichotomy (2 * (num % den)) den with less | tie | more
      · rw [compare_lt_iff_lt.mpr less, if_pos less]
        rfl
      · rw [compare_eq_iff_eq.mpr tie, if_neg (by omega), if_neg (by omega)]
        rfl
      · rw [compare_gt_iff_gt.mpr more, if_neg (by omega), if_pos more]
        rfl
  | succ n =>
      have digits : num / den % 2 ^ (n + 1) =
          num / den % 2 ^ n + 2 ^ n * (num / den / 2 ^ n % 2) := by
        rw [pow_succ, Nat.mod_mul]
      have rest_lt : num % den < den := Nat.mod_lt _ den_pos
      have low_lt : num / den % 2 ^ n < 2 ^ n := Nat.mod_lt _ (by positivity)
      have low_le : den * (num / den % 2 ^ n) + den ≤ den * 2 ^ n :=
        (Nat.mul_succ den _).symm.trans_le (Nat.mul_le_mul_left den low_lt)
      have double : den * 2 ^ (n + 1) = 2 * (den * 2 ^ n) := by ring
      have excess : num % (den * 2 ^ (n + 1)) = num % den + den * (num / den % 2 ^ n) +
          den * 2 ^ n * (num / den / 2 ^ n % 2) := by
        rw [Nat.mod_mul, digits]
        ring
      rw [shiftRight_succ, roundDiv, excess, ← Nat.div_div_eq_div_mul]
      -- Beyond the first dropped digit it only matters whether nothing is left.
      by_cases left : num / den % 2 ^ n = 0 ∧ num % den = 0
      · have none : ((num / den % 2 ^ n != 0) || (num % den != 0)) = false := by
          rw [left.1, left.2]
          rfl
        rw [none, left.1, left.2]
        rcases Nat.mod_two_eq_zero_or_one (num / den / 2 ^ n) with half | half
        · rw [half, if_pos (by omega)]
          rfl
        · rw [half, if_neg (by omega), if_neg (by omega)]
          rfl
      · have some : ((num / den % 2 ^ n != 0) || (num % den != 0)) = true := by
          rw [Bool.or_eq_true, bne_iff_ne, bne_iff_ne]
          exact not_and_or.mp left
        have left_pos : 0 < num % den + den * (num / den % 2 ^ n) := by
          rcases not_and_or.mp left with low | rest
          · exact Nat.add_pos_right _ (Nat.mul_pos den_pos (Nat.pos_of_ne_zero low))
          · exact Nat.add_pos_left (Nat.pos_of_ne_zero rest) _
        rw [some]
        rcases Nat.mod_two_eq_zero_or_one (num / den / 2 ^ n) with half | half
        · rw [half, if_pos (by omega)]
          rfl
        · rw [half, if_neg (by omega), if_pos (by omega)]
          rfl

theorem roundDiv_bounds (num den : Nat) :
    num / den ≤ roundDiv num den ∧ roundDiv num den ≤ num / den + 1 := by
  dsimp only [roundDiv]
  split_ifs <;> omega

/-! ## The exponent of the format -/

section Target

variable {m : Nat} {e t : Int} (target : Format.binary32.targetExponent (totalExponent m e) = t)
include target

theorem minExponent_le_target : -149 ≤ t :=
  target ▸ le_max_right _ _

theorem lt_of_target : m < 2 ^ 24 * 2 ^ (t - e).toNat := by
  have digits : m < 2 ^ (m.log2 + 1) := Nat.lt_log2_self
  have total : (m.log2 + 1 + e - 24 : Int) ≤ t := target ▸ le_max_left _ _
  rw [← pow_add]
  exact digits.trans_le (pow_le_pow_right₀ one_le_two (by omega))

theorem le_of_target (le : e ≤ t) : t = -149 ∨ 2 ^ 23 * 2 ^ (t - e).toNat ≤ m := by
  have chosen : max (m.log2 + 1 + e - 24 : Int) (-149) = t := target
  refine or_iff_not_imp_left.mpr fun fine => ?_
  have log_pos : m.log2 ≠ 0 := by omega
  have digits : 2 ^ m.log2 ≤ m := Nat.log2_self_le fun zero => log_pos (by rw [zero, Nat.log2_zero])
  rw [← pow_add]
  exact (pow_le_pow_right₀ one_le_two (by omega)).trans digits

theorem shiftToTargetExponent_eq (le : e ≤ t) (accuracy : Accuracy) :
    shiftToTargetExponent .binary32 m e accuracy =
      (ExtendedMantissa.ofMantissaAndAccuracy m accuracy >>> (t - e).toNat, t) := by
  have reached : e + (t - e).toNat = t := by omega
  rw [shiftToTargetExponent, target, shiftToExponent, reached]

end Target

/-- Significands and exponents by which the format writes its numbers, each in one way. -/
structure Canonical (m : Nat) (e : Int) : Prop where
  short : m < 2 ^ 24
  fine : -149 ≤ e
  full : e = -149 ∨ 2 ^ 23 ≤ m

/-- The rank of a significand at an exponent, were there no largest number. -/
def index (m : Nat) (e : Int) : Nat :=
  (e + 149).toNat * 2 ^ 23 + m

/-- A significand of at most 24 digits is shifted only when rounding has carried it to 25, and then
nothing is lost. -/
theorem canonical_shiftToTargetExponent {m : Nat} {e : Int} (short : m ≤ 2 ^ 24) (fine : -149 ≤ e)
    (full : e = -149 ∨ 2 ^ 23 ≤ m) :
    Canonical (shiftToTargetExponent .binary32 m e .exact).1.mantissa
        (shiftToTargetExponent .binary32 m e .exact).2 ∧
      index (shiftToTargetExponent .binary32 m e .exact).1.mantissa
        (shiftToTargetExponent .binary32 m e .exact).2 = index m e := by
  rcases short.lt_or_eq with below | rfl
  · have digits : m.log2 < 24 := by
      rcases Nat.eq_zero_or_pos m with rfl | positive
      · decide
      · exact (Nat.log2_lt positive.ne').mpr below
    have settled : Format.binary32.targetExponent (totalExponent m e) ≤ e :=
      max_le (show (m.log2 + 1 + e - 24 : Int) ≤ e by omega) fine
    have none : (Format.binary32.targetExponent (totalExponent m e) - e).toNat = 0 := by omega
    have unmoved : e + (0 : Nat) = e := add_zero e
    rw [shiftToTargetExponent, shiftToExponent, none, unmoved]
    exact ⟨⟨below, fine, full⟩, rfl⟩
  · have carried : Format.binary32.targetExponent (totalExponent (2 ^ 24) e) = e + 1 := by
      change max ((24 : Nat) + 1 + e - 24 : Int) (-149) = e + 1
      omega
    have one : (e + 1 - e).toNat = 1 := by omega
    rw [shiftToTargetExponent, shiftToExponent, carried, one]
    change Canonical (2 ^ 23) (e + 1) ∧ index (2 ^ 23) (e + 1) = index (2 ^ 24) e
    exact ⟨⟨by decide, by omega, .inr le_rfl⟩, by simp only [index]; omega⟩

/-! ## Closing the bits -/

/-- The number that stores a result. -/
def packed (result : UnpackedFloat) : Float32 :=
  .ofModel (.pack result)

theorem toNat_packComponents (sign : Sign) (exponent : BitVec 8) (mantissa : BitVec 23) :
    (packComponents .binary32 sign exponent mantissa).toNat =
      sign.toBitVec.toNat * 2 ^ 31 + exponent.toNat * 2 ^ 23 + mantissa.toNat := by
  have mantissa_lt : mantissa.toNat < 2 ^ 23 := mantissa.isLt
  have exponent_lt : exponent.toNat < 2 ^ 8 := exponent.isLt
  change ((sign.toBitVec ++ exponent) ++ mantissa).toNat = _
  rw [BitVec.toNat_append, ← Nat.shiftLeft_add_eq_or_of_lt mantissa_lt, BitVec.toNat_append,
    ← Nat.shiftLeft_add_eq_or_of_lt exponent_lt, Nat.shiftLeft_eq, Nat.shiftLeft_eq]
  ring

section Components

variable {result : UnpackedFloat} {sign : Sign} {exponent : BitVec 8} {mantissa : BitVec 23}
  (components : pack .binary32 result = packComponents .binary32 sign exponent mantissa)
include components

theorem toNat_toBits_packed :
    (packed result).toBits.toNat =
      sign.toBitVec.toNat * 2 ^ 31 + exponent.toNat * 2 ^ 23 + mantissa.toNat := by
  rw [← toNat_packComponents, ← components]
  rfl

theorem rank_components : rank (packed result) = exponent.toNat * 2 ^ 23 + mantissa.toNat := by
  have mantissa_lt : mantissa.toNat < 2 ^ 23 := mantissa.isLt
  have exponent_lt : exponent.toNat < 2 ^ 8 := exponent.isLt
  rw [rank, toNat_toBits_packed components]
  omega

theorem isNegative_components : isNegative (packed result) = (sign == .negative) := by
  have mantissa_lt : mantissa.toNat < 2 ^ 23 := mantissa.isLt
  have exponent_lt : exponent.toNat < 2 ^ 8 := exponent.isLt
  rw [isNegative, toNat_toBits_packed components]
  cases sign with
  | negative => exact decide_eq_true (show _ ≤ 1 * 2 ^ 31 + _ + _ by omega)
  | positive => exact decide_eq_false (show ¬_ ≤ 0 * 2 ^ 31 + _ + _ by omega)

end Components

/-- A canonical result is stored under its index, up to infinity. -/
theorem packed_finite (sign : Sign) {m : Nat} {e : Int} (positive : 0 < m)
    (canonical : Canonical m e) :
    rank (packed (.finite sign m e positive)) = min Precision.single.infinity (index m e) ∧
      isNegative (packed (.finite sign m e positive)) = (sign == .negative) := by
  obtain ⟨short, fine, full⟩ := canonical
  have infinity : Precision.single.infinity = 255 * 2 ^ 23 := rfl
  have biased : (e + (127 : Nat) + (23 : Nat)).toNat = (e + 149).toNat + 1 := by omega
  have digits : m.log2 + 1 = 24 ↔ 2 ^ 23 ≤ m := by
    have less := (Nat.log2_lt positive.ne').mpr short
    have most := Nat.le_log2 positive.ne' (k := 23)
    omega
  have opened : pack .binary32 (.finite sign m e positive) =
      if 2 ^ 8 ≤ (e + (127 : Nat) + (23 : Nat)).toNat + 1 then packedInfinity .binary32 sign
      else if m.log2 + 1 = 24 then
        packComponents .binary32 sign (BitVec.ofNat 8 (e + (127 : Nat) + (23 : Nat)).toNat)
          (BitVec.ofNat 23 m)
      else packComponents .binary32 sign 0#8 (BitVec.ofNat 23 m) := rfl
  simp only [biased, digits] at opened
  rw [index]
  split_ifs at opened with high normal
  · rw [packedInfinity] at opened
    refine ⟨?_, isNegative_components opened⟩
    rw [rank_components opened, min_eq_left (by omega)]
    rfl
  · refine ⟨?_, isNegative_components opened⟩
    rw [rank_components opened, BitVec.toNat_ofNat, BitVec.toNat_ofNat, min_eq_right (by omega)]
    omega
  · refine ⟨?_, isNegative_components opened⟩
    rw [rank_components opened, BitVec.toNat_ofNat, BitVec.toNat_ofNat, min_eq_right (by omega)]
    omega

theorem packed_zero (sign : Sign) :
    rank (packed (.zero sign)) = 0 ∧ isNegative (packed (.zero sign)) = (sign == .negative) := by
  have components : pack .binary32 (.zero sign) = packComponents .binary32 sign 0#8 0#23 := rfl
  exact ⟨rank_components components, isNegative_components components⟩

theorem toBits_ofBits {bits : UInt32}
    (number : bits.toNat % 2 ^ 31 ≤ Precision.single.infinity) :
    (Float32.ofBits bits).toBits = bits := by
  have infinity : Precision.single.infinity = 255 * 2 ^ 23 := rfl
  have ones : (-1#8).toNat = 255 := rfl
  have valid : Format.binary32.Valid bits.toBitVec := by
    refine ⟨fun top beyond => absurd ?_ beyond⟩
    have exponent := toNat_unpackExponent bits.toBitVec
    have mantissa := toNat_unpackMantissa bits.toBitVec
    rw [congrArg BitVec.toNat top, UInt32.toNat_toBitVec] at exponent
    rw [UInt32.toNat_toBitVec] at mantissa
    change (-1#8).toNat = _ at exponent
    refine BitVec.eq_of_toNat_eq (mantissa.trans ?_)
    change _ = 0
    omega
  exact congrArg Float32.toBits (Float32.ofBits_toBits (.ofModel ⟨bits, valid⟩))

theorem rank_ofRank (negative : Bool) {r : Nat} (number : r ≤ Precision.single.infinity) :
    rank (ofRank negative r) = r ∧ isNegative (ofRank negative r) = negative := by
  have infinity : Precision.single.infinity = 255 * 2 ^ 23 := rfl
  have stored : (ofRank negative r).toBits.toNat = if negative then 0x80000000 + r else r := by
    have size : (if negative then 0x80000000 + r else r) < 2 ^ 32 := by split_ifs <;> omega
    have bits : (UInt32.ofNat (if negative then 0x80000000 + r else r)).toNat =
        if negative then 0x80000000 + r else r := by
      rw [UInt32.toNat_ofNat', Nat.mod_eq_of_lt size]
    rw [ofRank, toBits_ofBits, bits]
    rw [bits]
    split_ifs <;> omega
  rw [rank, isNegative, stored]
  cases negative
  · rw [if_neg Bool.false_ne_true]
    exact ⟨Nat.mod_eq_of_lt (by omega), decide_eq_false (by omega)⟩
  · rw [if_pos rfl]
    exact ⟨by omega, decide_eq_true (by omega)⟩

/-! ## Rounded results -/

/-- A number is what an exact result rounds to: the nearest, of the same sign. -/
structure Rounds (q : ℚ) (x : Float32) : Prop where
  nearest : Precision.single.Nearest |q| (rank x)
  negative : q < 0 → isNegative x = true
  positive : 0 < q → isNegative x = false

/-- The exact amount of a finite result. -/
def amount : UnpackedFloat → ℚ
  | .finite sign m e _ => sign.apply m * 2 ^ e
  | _ => 0

theorem abs_apply (sign : Sign) (m : Nat) : |(sign.apply m : ℚ)| = m := by
  cases sign <;> simp [Sign.apply]

theorem rounds_of_nearest {result : UnpackedFloat} {sign : Sign} {m : Nat} {scale : ℚ}
    (scale_pos : 0 < scale) (nearest : Precision.single.Nearest (m * scale) (rank (packed result)))
    (signed : isNegative (packed result) = (sign == .negative)) :
    Rounds (sign.apply m * scale) (packed result) := by
  have size : |(sign.apply m * scale : ℚ)| = m * scale := by
    rw [abs_mul, abs_apply, abs_of_pos scale_pos]
  have nonneg : (0 : ℚ) ≤ m * scale := by positivity
  refine ⟨size ▸ nearest, fun less => ?_, fun more => ?_⟩
  · cases sign with
    | negative => exact signed
    | positive => exact absurd less (not_lt.mpr nonneg)
  · cases sign with
    | positive => exact signed
    | negative =>
        have negated : ((Sign.negative.apply m : Int) : ℚ) * scale = -(m * scale) := by
          simp [Sign.apply]
        linarith

/-- A quotient brought to the exponent of the format is stored under the index of its rounded
significand. -/
theorem packed_roundWithAccuracy (sign : Sign) {num den : Nat} {e t : Int} (den_pos : 0 < den)
    (target : Format.binary32.targetExponent (totalExponent (num / den) e) = t) (le : e ≤ t) :
    rank (packed (roundWithAccuracy .binary32 sign (num / den) e
          (accuracyOfFraction (num % den) den))) =
        min Precision.single.infinity (index (roundDiv num (den * 2 ^ (t - e).toNat)) t) ∧
      isNegative (packed (roundWithAccuracy .binary32 sign (num / den) e
          (accuracyOfFraction (num % den) den))) =
        (sign == .negative) := by
  have power_pos : 0 < 2 ^ (t - e).toNat := by positivity
  have quotient_lt : num / (den * 2 ^ (t - e).toNat) < 2 ^ 24 := by
    rw [← Nat.div_div_eq_div_mul]
    exact Nat.div_lt_of_lt_mul ((lt_of_target target).trans_eq (Nat.mul_comm _ _))
  have rounded := roundDiv_bounds num (den * 2 ^ (t - e).toNat)
  have full : t = -149 ∨ 2 ^ 23 ≤ roundDiv num (den * 2 ^ (t - e).toNat) :=
    (le_of_target target le).imp_right fun high => by
      refine le_trans ?_ rounded.1
      rw [← Nat.div_div_eq_div_mul]
      exact (Nat.le_div_iff_mul_le power_pos).mpr high
  obtain ⟨canonical, index_eq⟩ :=
    canonical_shiftToTargetExponent (by omega) (minExponent_le_target target) full
  rw [roundWithAccuracy, shiftToTargetExponent_eq target le]
  simp only [roundedMantissa_shiftRight _ _ den_pos]
  rw [← index_eq]
  split_ifs with zero
  · rw [zero] at canonical ⊢
    have lowest : (shiftToTargetExponent .binary32 (roundDiv num (den * 2 ^ (t - e).toNat)) t
        .exact).2 = -149 := canonical.full.resolve_right (by decide)
    rw [lowest]
    exact packed_zero sign
  · exact packed_finite sign (Nat.pos_of_ne_zero zero) canonical

theorem two_zpow_eq {e t : Int} (le : e ≤ t) : (2 : ℚ) ^ t = 2 ^ (t - e).toNat * 2 ^ e := by
  rw [← zpow_natCast, ← zpow_add₀ two_ne_zero]
  congr 1
  omega

/-- A count of units of the last place that fills its level rounds to the nearest rank. -/
theorem nearest_index {q : ℚ} {num den : Nat} {e : Int} (den_pos : 0 < den)
    (count : (num / den : ℚ) = q / 2 ^ e) (fine : -149 ≤ e) (short : num < 2 ^ 24 * den)
    (full : e = -149 ∨ 2 ^ 23 * den ≤ num) :
    Precision.single.Nearest q
      (min Precision.single.infinity (index (roundDiv num den) e)) := by
  have level_eq : Precision.single.minExponent + (e + 149).toNat = e := by
    change (-149 + (e + 149).toNat : Int) = e
    omega
  have den_pos' : (0 : ℚ) < den := by exact_mod_cast den_pos
  have binade : (Precision.single.binade : ℚ) = 2 ^ 23 := by
    rw [Precision.binade_eq]
    exact Nat.cast_pow 2 23
  refine Precision.nearest_round even_single den_pos (level_eq.symm ▸ count) ?_ ?_
  · rw [div_lt_iff₀ den_pos', binade, ← pow_succ']
    exact_mod_cast short
  · rw [le_div_iff₀ den_pos', binade]
    exact full.imp (fun lowest => by omega) fun high => by exact_mod_cast high

/-- A quotient brought to the exponent of the format is rounded to the nearest number. -/
theorem rounds_quotient (sign : Sign) {num den : Nat} {e t : Int} (den_pos : 0 < den)
    (target : Format.binary32.targetExponent (totalExponent (num / den) e) = t) (le : e ≤ t) :
    Rounds (sign.apply num * (2 ^ e / den))
      (packed (roundWithAccuracy .binary32 sign (num / den) e
        (accuracyOfFraction (num % den) den))) := by
  obtain ⟨rank_eq, signed⟩ := packed_roundWithAccuracy sign den_pos target le
  have unit_pos : (0 : ℚ) < 2 ^ e := zpow_pos two_pos e
  have den_pos' : (0 : ℚ) < den := by exact_mod_cast den_pos
  have shifted_pos : 0 < den * 2 ^ (t - e).toNat := by positivity
  have count : (num / (den * 2 ^ (t - e).toNat : Nat) : ℚ) = num * (2 ^ e / den) / 2 ^ t := by
    rw [two_zpow_eq le]
    push_cast
    field_simp
  have short : num < 2 ^ 24 * (den * 2 ^ (t - e).toNat) := by
    have digits := (Nat.div_lt_iff_lt_mul den_pos).mp (lt_of_target target)
    rwa [mul_assoc, mul_comm _ den] at digits
  have full : t = -149 ∨ 2 ^ 23 * (den * 2 ^ (t - e).toNat) ≤ num :=
    (le_of_target target le).imp_right fun high => by
      have digits := (Nat.le_div_iff_mul_le den_pos).mp high
      rwa [mul_assoc, mul_comm _ den] at digits
  refine rounds_of_nearest (by positivity) ?_ signed
  rw [rank_eq]
  exact nearest_index shifted_pos count (minExponent_le_target target) short full

theorem rounds_roundWithAccuracy {sign : Sign} {m : Nat} {e t : Int}
    (target : Format.binary32.targetExponent (totalExponent m e) = t) (le : e ≤ t) :
    Rounds (sign.apply m * 2 ^ e) (packed (roundWithAccuracy .binary32 sign m e .exact)) := by
  rw [← Nat.div_one m] at target
  have quotient := rounds_quotient sign Nat.one_pos target le
  rw [Nat.div_one, Nat.mod_one, Nat.cast_one, div_one] at quotient
  exact quotient

theorem totalExponent_shiftLeft {m : Nat} (positive : 0 < m) (e : Int) (k : Nat) :
    totalExponent (m <<< k) (e - k) = totalExponent m e := by
  have digits : (m <<< k).log2 = m.log2 + k := by
    rw [Nat.shiftLeft_eq, Nat.log2_eq_iff (by positivity)]
    have low := Nat.log2_self_le positive.ne'
    have high : m < 2 ^ (m.log2 + 1) := Nat.lt_log2_self
    rw [pow_add, Nat.add_right_comm, pow_add 2 (m.log2 + 1)]
    exact ⟨Nat.mul_le_mul_right _ low, Nat.mul_lt_mul_of_pos_right high (by positivity)⟩
  rw [totalExponent, totalExponent, digits]
  push_cast
  ring

theorem amount_decreaseExponent (m : Nat) {e t : Int} (le : t ≤ e) :
    ((decreaseExponent m e t).1 : ℚ) * 2 ^ t = m * 2 ^ e := by
  rw [decreaseExponent, Nat.shiftLeft_eq, two_zpow_eq le]
  push_cast
  ring

theorem rounds_round {sign : Sign} {m : Nat} (positive : 0 < m) (e : Int) :
    Rounds (sign.apply m * 2 ^ e) (packed (round .binary32 sign m e)) := by
  set t := Format.binary32.targetExponent (totalExponent m e) with t_eq
  set k := (e - t).toNat with k_eq
  have opened : round .binary32 sign m e =
      roundWithAccuracy .binary32 sign (m <<< k) (e - k) .exact := rfl
  have target : Format.binary32.targetExponent (totalExponent (m <<< k) (e - k)) = t := by
    rw [totalExponent_shiftLeft positive]
  have same : ((sign.apply (m <<< k : Nat) : Int) : ℚ) * 2 ^ (e - k) = sign.apply m * 2 ^ e := by
    have power : (2 : ℚ) ^ e = 2 ^ k * 2 ^ (e - k) := by
      have kept : (e - (e - k : Int)).toNat = k := by omega
      rw [two_zpow_eq (show e - k ≤ e by omega), kept]
    rw [power, Nat.shiftLeft_eq]
    cases sign <;> simp only [Sign.apply] <;> push_cast <;> ring
  rw [opened, ← same]
  exact rounds_roundWithAccuracy target (by omega)

theorem rounds_zero {x : Float32} (zero : rank x = 0) : Rounds 0 x where
  nearest := by
    rw [zero, abs_zero, ← Precision.value_zero (p := .single)]
    exact Precision.nearest_value (Nat.zero_le _)
  negative less := absurd less (lt_irrefl 0)
  positive more := absurd more (lt_irrefl 0)

/-- A whole number of units is rounded to the nearest number. -/
theorem rounds_normalize (n e : Int) (zero : Sign) :
    Rounds (n * 2 ^ e) (packed (normalize .binary32 n e zero)) := by
  rw [UnpackedFloat.normalize]
  rcases lt_trichotomy n 0 with less | rfl | more
  · have sign_eq : ((n : Int) : ℚ) = Sign.negative.apply ((-n).toNat : Nat) := by
      rw [Sign.apply]
      congr 1
      omega
    rw [compare_lt_iff_lt.mpr less, sign_eq]
    exact rounds_round (by omega) e
  · rw [compare_eq_iff_eq.mpr rfl, Int.cast_zero, zero_mul]
    exact rounds_zero (packed_zero zero).1
  · have sign_eq : ((n : Int) : ℚ) = Sign.positive.apply (n.toNat : Nat) := by
      rw [Sign.apply]
      congr 1
      omega
    rw [compare_gt_iff_gt.mpr more, sign_eq]
    exact rounds_round (by omega) e

/-! ## Operations on opened numbers -/

/-- Finite results written as the format writes its numbers. -/
def Settled : UnpackedFloat → Prop
  | .zero _ => True
  | .finite _ m e _ => Canonical m e
  | _ => False

theorem amount_finite (sign : Sign) (m : Nat) (e : Int) (positive : 0 < m) :
    amount (.finite sign m e positive) = sign.apply m * 2 ^ e :=
  rfl

/-- A settled result is stored without loss, up to infinity. -/
theorem Settled.rounds {result : UnpackedFloat} (settled : Settled result) :
    Rounds (amount result) (packed result) := by
  cases result with
  | zero sign => exact rounds_zero (packed_zero sign).1
  | infinity sign => exact settled.elim
  | notANumber => exact settled.elim
  | finite sign m e positive =>
      obtain ⟨rank_eq, signed⟩ := packed_finite sign positive settled
      obtain ⟨short, fine, full⟩ := settled
      have whole : roundDiv m 1 = m := by simp [roundDiv, Nat.mod_one]
      have count : (m / (1 : Nat) : ℚ) = m * 2 ^ e / 2 ^ e := by
        rw [Nat.cast_one, div_one, mul_div_cancel_right₀ _ (zpow_ne_zero e two_ne_zero)]
      have nearest := nearest_index Nat.one_pos count fine (by omega) (by omega)
      rw [whole] at nearest
      refine rounds_of_nearest (zpow_pos two_pos e) ?_ signed
      rw [rank_eq]
      exact nearest

theorem Settled.neg {result : UnpackedFloat} (settled : Settled result) :
    Settled result.neg ∧ amount result.neg = -amount result := by
  cases result with
  | zero sign => exact ⟨trivial, neg_zero.symm⟩
  | infinity sign => exact settled.elim
  | notANumber => exact settled.elim
  | finite sign m e positive =>
      refine ⟨settled, ?_⟩
      cases sign
      · change (m * 2 ^ e : ℚ) = -((-(m : Int) : Int) * 2 ^ e)
        push_cast
        ring
      · change ((-(m : Int) : Int) * 2 ^ e : ℚ) = -(m * 2 ^ e)
        push_cast
        ring

theorem Settled.abs {result : UnpackedFloat} (settled : Settled result) :
    Settled result.abs ∧ amount result.abs = |amount result| := by
  cases result with
  | zero sign => exact ⟨trivial, abs_zero.symm⟩
  | infinity sign => exact settled.elim
  | notANumber => exact settled.elim
  | finite sign m e positive =>
      have unit_pos : (0 : ℚ) < 2 ^ e := zpow_pos two_pos e
      refine ⟨settled, ?_⟩
      rw [amount_finite, abs_mul, abs_apply, abs_of_pos unit_pos]
      rfl

/-- A difference is the sum with the negated number. -/
theorem sub_eq_add_negated (a b : UnpackedFloat) :
    UnpackedFloat.sub .binary32 a b = UnpackedFloat.add .binary32 a b.neg := by
  cases b with
  | finite sign n f n_pos =>
      cases a with
      | finite sign' m e m_pos =>
          have negated (k : Nat) : (-sign).apply k = -sign.apply k := by
            cases sign
            · exact (neg_neg _).symm
            · rfl
          simp only [UnpackedFloat.sub, UnpackedFloat.neg, UnpackedFloat.add, negated,
            sub_eq_add_neg]
      | _ => rfl
  | _ => cases a <;> rfl

theorem apply_mul (sign sign' : Sign) (m n : Nat) :
    (sign * sign').apply (m * n : Nat) = sign.apply m * sign'.apply n := by
  cases sign <;> cases sign'
  · exact (Nat.cast_mul m n).trans (neg_mul_neg _ _).symm
  · exact (congrArg _ (Nat.cast_mul m n)).trans (neg_mul _ _).symm
  · exact (congrArg _ (Nat.cast_mul m n)).trans (mul_neg _ _).symm
  · exact Nat.cast_mul m n

/-- The product of canonical significands has digits to spare, or sits below the last place. -/
theorem Canonical.le_target {m n : Nat} {e f : Int} (first : Canonical m e)
    (second : Canonical n f) (m_pos : 0 < m) (n_pos : 0 < n) :
    e + f ≤ Format.binary32.targetExponent (totalExponent (m * n) (e + f)) := by
  by_cases lowest : e = -149 ∧ f = -149
  · exact (show e + f ≤ -149 by omega).trans (le_max_right _ _)
  · have large : 2 ^ 23 ≤ m * n := by
      rcases not_and_or.mp lowest with high | high
      · exact (first.full.resolve_left high).trans (Nat.le_mul_of_pos_right m n_pos)
      · exact (second.full.resolve_left high).trans (Nat.le_mul_of_pos_left n m_pos)
    have digits := (Nat.le_log2 (Nat.mul_pos m_pos n_pos).ne').mpr large
    exact (show e + f ≤ (m * n).log2 + 1 + (e + f) - 24 by omega).trans (le_max_left _ _)

theorem apply_div (sign sign' : Sign) (m n : Nat) :
    ((sign / sign').apply m : ℚ) / n = sign.apply m / sign'.apply n := by
  cases sign <;> cases sign'
  · change ((m : Int) : ℚ) / n = (-(m : Int) : Int) / (-(n : Int) : Int)
    push_cast
    exact (neg_div_neg_eq _ _).symm
  · rfl
  · change ((-(m : Int) : Int) : ℚ) / n = (m : Int) / (-(n : Int) : Int)
    push_cast
    rw [neg_div, div_neg]
  · rfl

/-- The digits of a quotient reach down to the last place. -/
theorem divCore_le_target {m n : Nat} {e f t : Int} (m_pos : 0 < m) (n_pos : 0 < n)
    (chosen : min (e - f)
      (Format.binary32.targetExponent (totalExponent m e - totalExponent n f)) = t) :
    t ≤ Format.binary32.targetExponent
      (totalExponent ((m <<< (e - f - t).toNat) / n) t) := by
  change min (e - f)
    (max ((m.log2 + 1 + e) - (n.log2 + 1 + f) - 24 : Int) (-149)) = t at chosen
  by_cases low : t ≤ -149
  · exact low.trans (le_max_right _ _)
  · have shift : n.log2 + 24 ≤ m.log2 + (e - f - t).toNat := by omega
    have digits : 2 ^ 23 ≤ (m <<< (e - f - t).toNat) / n := by
      rw [Nat.le_div_iff_mul_le n_pos, Nat.shiftLeft_eq]
      calc
        2 ^ 23 * n ≤ 2 ^ 23 * 2 ^ (n.log2 + 1) := Nat.mul_le_mul_left _ Nat.lt_log2_self.le
        _ = 2 ^ (n.log2 + 24) := by rw [← pow_add]; congr 1; omega
        _ ≤ 2 ^ (m.log2 + (e - f - t).toNat) := pow_le_pow_right₀ one_le_two shift
        _ = 2 ^ m.log2 * 2 ^ (e - f - t).toNat := pow_add _ _ _
        _ ≤ m * 2 ^ (e - f - t).toNat := Nat.mul_le_mul_right _ (Nat.log2_self_le m_pos.ne')
    have log_le := (Nat.le_log2 (by omega)).mpr digits
    exact (show t ≤ ((m <<< (e - f - t).toNat) / n).log2 + 1 + t - 24 by omega).trans
      (le_max_left _ _)

section Operations

variable {a b : UnpackedFloat} (a_settled : Settled a) (b_settled : Settled b)
include a_settled b_settled

theorem rounds_add_settled :
    Rounds (amount a + amount b) (packed (UnpackedFloat.add .binary32 a b)) := by
  cases a with
  | infinity sign => exact a_settled.elim
  | notANumber => exact a_settled.elim
  | zero sign =>
      have sum_eq : amount (.zero sign) + amount b = amount b := zero_add _
      rw [sum_eq]
      cases b with
      | infinity sign' => exact b_settled.elim
      | notANumber => exact b_settled.elim
      | zero sign' =>
          rw [UnpackedFloat.add]
          split_ifs
          · exact a_settled.rounds
          · exact rounds_zero (packed_zero _).1
      | finite sign' n f n_pos => exact b_settled.rounds
  | finite sign m e m_pos =>
      cases b with
      | infinity sign' => exact b_settled.elim
      | notANumber => exact b_settled.elim
      | zero sign' =>
          have sum_eq : amount (.finite sign m e m_pos) + amount (.zero sign') =
            amount (.finite sign m e m_pos) := add_zero _
          rw [sum_eq]
          exact a_settled.rounds
      | finite sign' n f n_pos =>
          have first := amount_decreaseExponent m (min_le_left e f)
          have second := amount_decreaseExponent n (min_le_right e f)
          have sum_eq : amount (.finite sign m e m_pos) + amount (.finite sign' n f n_pos) =
              ((sign.apply (decreaseExponent m e (min e f)).1 +
                sign'.apply (decreaseExponent n f (min e f)).1 : Int) : ℚ) * 2 ^ min e f := by
            rw [amount_finite, amount_finite]
            cases sign <;> cases sign' <;> simp only [Sign.apply] <;> push_cast <;> linarith
          rw [sum_eq]
          exact rounds_normalize _ _ _

theorem rounds_mul_settled :
    Rounds (amount a * amount b) (packed (UnpackedFloat.mul .binary32 a b)) := by
  cases a with
  | infinity sign => exact a_settled.elim
  | notANumber => exact a_settled.elim
  | zero sign =>
      have product_eq : amount (.zero sign) * amount b = 0 := zero_mul _
      rw [product_eq]
      cases b with
      | infinity sign' => exact b_settled.elim
      | notANumber => exact b_settled.elim
      | zero sign' => exact rounds_zero (packed_zero _).1
      | finite sign' n f n_pos => exact rounds_zero (packed_zero _).1
  | finite sign m e m_pos =>
      cases b with
      | infinity sign' => exact b_settled.elim
      | notANumber => exact b_settled.elim
      | zero sign' =>
          have product_eq : amount (.finite sign m e m_pos) * amount (.zero sign') = 0 :=
            mul_zero _
          rw [product_eq]
          exact rounds_zero (packed_zero _).1
      | finite sign' n f n_pos =>
          have product_eq : amount (.finite sign m e m_pos) * amount (.finite sign' n f n_pos) =
              ((sign * sign').apply (m * n : Nat) : Int) * 2 ^ (e + f) := by
            rw [amount_finite, amount_finite, zpow_add₀ two_ne_zero, apply_mul]
            push_cast
            ring
          rw [product_eq]
          exact rounds_roundWithAccuracy rfl (a_settled.le_target b_settled m_pos n_pos)

theorem rounds_div_settled (nonzero : amount b ≠ 0) :
    Rounds (amount a / amount b) (packed (UnpackedFloat.div .binary32 a b)) := by
  cases b with
  | infinity sign' => exact b_settled.elim
  | notANumber => exact b_settled.elim
  | zero sign' => exact absurd rfl nonzero
  | finite sign' n f n_pos =>
      cases a with
      | infinity sign => exact a_settled.elim
      | notANumber => exact a_settled.elim
      | zero sign =>
          have quotient_eq : amount (.zero sign) / amount (.finite sign' n f n_pos) = 0 :=
            zero_div _
          rw [quotient_eq]
          exact rounds_zero (packed_zero _).1
      | finite sign m e m_pos =>
          obtain ⟨t, chosen⟩ : ∃ t, min (e - f)
            (Format.binary32.targetExponent (totalExponent m e - totalExponent n f)) = t := ⟨_, rfl⟩
          have opened : UnpackedFloat.div .binary32 (.finite sign m e m_pos)
              (.finite sign' n f n_pos) =
                roundWithAccuracy .binary32 (sign / sign') ((m <<< (e - f - t).toNat) / n) t
                  (accuracyOfFraction ((m <<< (e - f - t).toNat) % n) n) := by
            rw [← chosen]
            rfl
          have power : (2 : ℚ) ^ e / 2 ^ f = 2 ^ (e - f - t).toNat * 2 ^ t := by
            rw [← zpow_sub₀ two_ne_zero, two_zpow_eq (show t ≤ e - f from chosen ▸ min_le_left _ _)]
          have shifted : ((sign.apply (m <<< (e - f - t).toNat : Nat) : Int) : ℚ) =
              sign.apply m * 2 ^ (e - f - t).toNat := by
            rw [Nat.shiftLeft_eq]
            cases sign <;> simp only [Sign.apply] <;> push_cast <;> ring
          have quotient_eq : amount (.finite sign m e m_pos) / amount (.finite sign' n f n_pos) =
              (sign / sign').apply (m <<< (e - f - t).toNat : Nat) * (2 ^ t / n) :=
            calc
              _ = (sign.apply m / sign'.apply n : ℚ) * (2 ^ e / 2 ^ f) := mul_div_mul_comm _ _ _ _
              _ = sign.apply (m <<< (e - f - t).toNat : Nat) / sign'.apply n * 2 ^ t := by
                rw [power, shifted]
                ring
              _ = _ := by
                rw [← apply_div]
                ring
          rw [opened, quotient_eq]
          exact rounds_quotient _ n_pos rfl (divCore_le_target m_pos n_pos chosen)

end Operations

end Single
end TextureGraph
