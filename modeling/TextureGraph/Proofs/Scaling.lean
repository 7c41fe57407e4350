import TextureGraph.Proofs.Halfway

/-!
# Reading by way of double precision

Scaling the digits of a decimal by a power of ten in double precision errs by little, and not at all
while the power is one that double precision has.  Decimals that read back in single precision at
once therefore do so by way of double precision as well, although the reading rounds several times:
where the error could carry the double across a middle between two single-precision numbers, there
is no such decimal, or its double happens to be on the right side.

The nearest double would not do: the three decimals that are close to a middle include one whose
nearest double is that middle.
-/

namespace TextureGraph

namespace Precision

variable {p : Precision}

theorem nearest_multiply (even : p.binade % 2 = 0) (a b : Nat) :
    p.Nearest (p.value a * p.value b) (p.multiply a b) := by
  have product_eq : p.value a * p.value b =
      (p.significand a * p.significand b : Nat) * 2 ^ (p.exponent a + p.exponent b) := by
    rw [value, value, zpow_add₀ two_ne_zero]
    push_cast
    ring
  rw [product_eq]
  exact nearest_rank_binaryRatio even _ _

theorem nearest_divide (even : p.binade % 2 = 0) (a : Nat) {b : Nat} (b_pos : 0 < p.value b) :
    p.Nearest (p.value a / p.value b) (p.divide a b) := by
  have significand_pos : 0 < p.significand b := by
    rcases Nat.eq_zero_or_pos (p.significand b) with zero | positive
    · rw [value, zero, Nat.cast_zero, zero_mul] at b_pos
      exact absurd b_pos (lt_irrefl 0)
    · exact positive
  have ratio_eq := binaryRatio_eq (p.significand a) (p.exponent a - p.exponent b)
  have ratio_pos := binaryRatio_snd_pos (p.significand a) (p.exponent a - p.exponent b)
  have quotient_eq : p.value a / p.value b =
      (binaryRatio (p.significand a) (p.exponent a - p.exponent b)).1 /
        ((binaryRatio (p.significand a) (p.exponent a - p.exponent b)).2 * p.significand b :
          Nat) := by
    push_cast
    rw [← div_div, ratio_eq, value, value, zpow_sub₀ two_ne_zero]
    field_simp
  rw [quotient_eq]
  exact nearest_rank even (Nat.mul_pos ratio_pos significand_pos)

end Precision

namespace Numeral

open Decimal (powerOfTen)

/-! ## Powers of ten -/

/-- The doubles next to powers of ten are close to them, and the first ones are exact. -/
theorem value_power {n : Nat} (small : n < 150) :
    |Precision.double.value (power n) - 10 ^ n| ≤ 10 ^ n / 2 ^ 53 ∧
      (n < 23 → Precision.double.value (power n) = 10 ^ n) := by
  set num := (binaryRatio (Precision.double.significand (power n))
    (Precision.double.exponent (power n))).1
  set den := (binaryRatio (Precision.double.significand (power n))
    (Precision.double.exponent (power n))).2
  have checked : ∀ n : Nat, n < 150 →
      let ratio := binaryRatio (Precision.double.significand (power n))
        (Precision.double.exponent (power n))
      ratio.1 * 0x20000000000000 ≤ powerOfTen n * ratio.2 * 0x20000000000001 ∧
        powerOfTen n * ratio.2 * 0x1fffffffffffff ≤ ratio.1 * 0x20000000000000 ∧
        (n < 23 → ratio.1 = powerOfTen n * ratio.2) := by
    decide +kernel
  obtain ⟨above, below, exact⟩ := checked n small
  have den_pos : (0 : ℚ) < den := by exact_mod_cast binaryRatio_snd_pos _ _
  have value_eq : Precision.double.value (power n) = num / den := (binaryRatio_eq _ _).symm
  have above' : (num * 0x20000000000000 : ℚ) ≤ 10 ^ n * den * 0x20000000000001 := by
    rw [← Decimal.powerOfTen_eq]
    exact_mod_cast above
  have below' : (10 ^ n * den * 0x1fffffffffffff : ℚ) ≤ num * 0x20000000000000 := by
    rw [← Decimal.powerOfTen_eq]
    exact_mod_cast below
  rw [value_eq]
  constructor
  · have high : (num / den : ℚ) ≤ 10 ^ n * (0x20000000000001 / 0x20000000000000) := by
      rw [div_le_iff₀ den_pos]
      linarith
    have low : (10 ^ n * (0x1fffffffffffff / 0x20000000000000) : ℚ) ≤ num / den := by
      rw [le_div_iff₀ den_pos]
      linarith
    rw [abs_le]
    constructor <;> linarith
  · intro first
    have exact' : (num : ℚ) = 10 ^ n * den := by
      rw [← Decimal.powerOfTen_eq]
      exact_mod_cast exact first
    rw [exact', mul_div_assoc, div_self den_pos.ne', mul_one]

theorem value_rank_digits {digits : Nat} (short : digits ≤ 0x20000000000000) :
    Precision.double.value (Precision.double.rank digits 1) = digits := by
  have nearest : Precision.double.Nearest (digits / (1 : Nat)) (Precision.double.rank digits 1) :=
    Precision.nearest_rank Single.even_double Nat.one_pos
  have digits_le : (digits : ℚ) ≤ 2 ^ (53 : Int) := by
    have : (digits : ℚ) ≤ 0x20000000000000 := by exact_mod_cast short
    norm_num
    linarith
  have one_eq : (digits : ℚ) = digits * 2 ^ (0 : Int) := by simp
  rw [Nat.cast_one, div_one, one_eq] at nearest
  have value_eq := nearest.value_eq (by rw [Single.binade_double]; omega)
    (by simp [Precision.double]) (by
      rw [Single.value_infinity_double, ← one_eq]
      exact digits_le.trans (zpow_le_zpow_right₀ one_le_two (by norm_num)))
  rw [value_eq, ← one_eq]

/-! ## Scaling -/

section Scale

variable {digits n : Nat}

theorem value_power_pos (small : n < 150) : 0 < Precision.double.value (power n) := by
  have ten_pos : (0 : ℚ) < 10 ^ n := by positivity
  have error := (abs_le.mp (value_power small).1).1
  have : (10 ^ n / 2 ^ 53 : ℚ) ≤ 10 ^ n / 2 := by gcongr; norm_num
  linarith

theorem product_error (small : n < 150) :
    |digits * Precision.double.value (power n) - digits * 10 ^ n| ≤
      (digits * 10 ^ n : ℚ) / (2 ^ 53 - 1) := by
  have ten_pos : (0 : ℚ) < 10 ^ n := by positivity
  have digits_nonneg : (0 : ℚ) ≤ digits := Nat.cast_nonneg digits
  rw [← mul_sub, abs_mul, abs_of_nonneg digits_nonneg, mul_div_assoc]
  refine mul_le_mul_of_nonneg_left ((value_power small).1.trans ?_) digits_nonneg
  exact div_le_div_of_nonneg_left ten_pos.le (by norm_num) (by norm_num)

theorem quotient_error (small : n < 150) :
    |digits / Precision.double.value (power n) - digits / 10 ^ n| ≤
      (digits / 10 ^ n : ℚ) / (2 ^ 53 - 1) := by
  have ten_pos : (0 : ℚ) < 10 ^ n := by positivity
  have power_pos := value_power_pos small
  have error := (value_power small).1
  have quotient_nonneg : (0 : ℚ) ≤ digits / 10 ^ n := by positivity
  have difference : (digits / Precision.double.value (power n) - digits / 10 ^ n : ℚ) =
      digits / 10 ^ n * ((10 ^ n - Precision.double.value (power n)) /
        Precision.double.value (power n)) := by
    field_simp
  rw [difference, abs_mul, abs_of_nonneg quotient_nonneg, div_eq_mul_one_div (digits / 10 ^ n : ℚ)]
  refine mul_le_mul_of_nonneg_left ?_ quotient_nonneg
  rw [abs_div, abs_of_pos power_pos, abs_sub_comm, div_le_div_iff₀ power_pos (by norm_num)]
  have := (abs_le.mp error).1
  linarith

theorem multiply_power_ne_infinity (short : digits ≤ 0x20000000000000) (small : n ≤ 39) :
    Precision.double.multiply (Precision.double.rank digits 1) (power n) ≠
      Precision.double.infinity := by
  intro infinite
  obtain ⟨large, large_eq⟩ := Precision.exists_value (p := .double) (n := 1) (e := 1023)
    (by decide) (by decide)
  rw [Nat.cast_one, one_mul] at large_eq
  have large_lt : large < Precision.double.infinity := by
    rw [← Precision.value_strictMono.lt_iff_lt (a := large), large_eq, Single.value_infinity_double]
    exact zpow_lt_zpow_right₀ one_lt_two (by norm_num)
  have short' : (digits : ℚ) ≤ 2 ^ 53 := by exact_mod_cast short
  have ten_pos : (0 : ℚ) < 10 ^ n := by positivity
  have ten_le : (10 : ℚ) ^ n ≤ 10 ^ 39 := pow_le_pow_right₀ (by norm_num) small
  have power_pos := value_power_pos (n := n) (by omega)
  have power_le : Precision.double.value (power n) ≤ 2 * 10 ^ 39 := by
    have error := (abs_le.mp (value_power (n := n) (by omega)).1).2
    have : (10 ^ n / 2 ^ 53 : ℚ) ≤ 10 ^ n := div_le_self ten_pos.le (by norm_num)
    linarith
  have product_le : (digits * Precision.double.value (power n) : ℚ) ≤
      Precision.double.value large := by
    rw [large_eq]
    calc (digits * Precision.double.value (power n) : ℚ) ≤ 2 ^ 53 * (2 * 10 ^ 39) := by gcongr
      _ ≤ 2 ^ (200 : Int) := by norm_num
      _ ≤ 2 ^ (1023 : Int) := zpow_le_zpow_right₀ one_le_two (by norm_num)
  have nearest := Precision.nearest_multiply Single.even_double
    (Precision.double.rank digits 1) (power n)
  rw [value_rank_digits short] at nearest
  have := nearest.mono (Precision.nearest_value large_lt.le) product_le
  omega

end Scale

/-- What a decimal is read as: the double nearest to a number that is close to the decimal, and
equal to it for small powers of ten. -/
theorem scaled?_spec {d : Decimal} (digits_pos : 0 < d.digits)
    (short : d.digits ≤ 0x20000000000000) (low : -149 ≤ d.exponent) (high : d.exponent ≤ 39) :
    ∃ rank scaled, scaled? d = some rank ∧ Precision.double.Nearest scaled rank ∧
      |scaled - d.value| ≤ d.value / (2 ^ 53 - 1) ∧
      (-22 ≤ d.exponent → d.exponent ≤ 22 → scaled = d.value) := by
  have digits_eq := value_rank_digits short
  have rank_ne : Precision.double.rank d.digits 1 ≠ 0 := by
    intro zero
    rw [zero, Precision.value_zero] at digits_eq
    exact digits_pos.ne (by exact_mod_cast digits_eq)
  simp only [scaled?, if_neg rank_ne, if_neg (show ¬308 < d.exponent by omega)]
  rcases le_or_gt 0 d.exponent with nonneg | negative
  · obtain ⟨n, n_eq⟩ : ∃ n : Nat, d.exponent = n := ⟨d.exponent.toNat, by omega⟩
    have value_eq : d.value = d.digits * 10 ^ n := by rw [Decimal.value, n_eq, zpow_natCast]
    have nearest := Precision.nearest_multiply Single.even_double
      (Precision.double.rank d.digits 1) (power n)
    rw [digits_eq] at nearest
    refine ⟨_, _, ?_, nearest, ?_, fun _ small => ?_⟩
    · rw [if_pos nonneg, n_eq, Int.toNat_natCast,
        if_neg (multiply_power_ne_infinity short (by omega))]
    · rw [value_eq]
      exact product_error (by omega)
    · rw [value_eq, (value_power (n := n) (by omega)).2 (by omega)]
  · obtain ⟨n, n_eq⟩ : ∃ n : Nat, d.exponent = -n := ⟨(-d.exponent).toNat, by omega⟩
    have value_eq : d.value = d.digits / 10 ^ n := by
      rw [Decimal.value, n_eq, zpow_neg, zpow_natCast, div_eq_mul_inv]
    have places_eq : (-d.exponent).toNat = n := by omega
    have no_steps : (n - 1) / 308 = 0 := by omega
    have nearest := Precision.nearest_divide Single.even_double
      (Precision.double.rank d.digits 1) (value_power_pos (n := n) (by omega))
    rw [digits_eq] at nearest
    refine ⟨_, _, ?_, nearest, ?_, fun large _ => ?_⟩
    · rw [if_neg (by omega), places_eq, no_steps, shrink, Nat.mul_zero, Nat.sub_zero]
    · rw [value_eq]
      exact quotient_error (by omega)
    · rw [value_eq, (value_power (n := n) (by omega)).2 (by omega)]

/-! ## Middles -/

section Middle

variable {e : Int} {m : Nat}

theorem nearest_beside (low : -149 ≤ e) (high : e ≤ 104) {n : Nat}
    (n_le : n ≤ 0x20000000000000) :
    ∃ rank, Precision.double.value rank = n * 2 ^ (e - 29) ∧
      Precision.double.Nearest (n * 2 ^ (e - 29)) rank := by
  obtain ⟨rank, rank_eq⟩ := Precision.exists_value (p := .double) (n := n) (e := e - 29)
    (by rw [Single.binade_double]; omega) (by simp only [Precision.double]; omega)
  refine ⟨rank, rank_eq, rank_eq ▸ Precision.nearest_value ?_⟩
  have n_le' : (n : ℚ) ≤ 2 ^ (53 : Int) := by
    norm_num
    exact_mod_cast n_le
  rw [← Precision.value_strictMono.le_iff_le (a := rank), rank_eq, Single.value_infinity_double]
  calc (n * 2 ^ (e - 29) : ℚ) ≤ 2 ^ (53 : Int) * 2 ^ (e - 29) := by gcongr
    _ = 2 ^ (53 + (e - 29)) := (zpow_add₀ two_ne_zero _ _).symm
    _ ≤ 2 ^ (1024 : Int) := zpow_le_zpow_right₀ one_le_two (by omega)

theorem middle_units : (m * 2 ^ (e - 1) : ℚ) = m * 2 ^ 28 * 2 ^ (e - 29) := by
  rw [show e - 1 = (28 : Nat) + (e - 29) by push_cast; ring, zpow_add₀ two_ne_zero, zpow_natCast,
    mul_assoc]

theorem gap_units (e : Int) : (2 : ℚ) ^ (e - 28) = 2 * 2 ^ (e - 29) := by
  rw [show e - 28 = 1 + (e - 29) by ring, zpow_add₀ two_ne_zero, zpow_one]

theorem value_lt_of_far (low : -149 ≤ e) (high : e ≤ 104) (m_pos : 0 < m) (m_lt : m < 0x2000000)
    {value scaled : ℚ} (far : value + 2 ^ (e - 28) ≤ m * 2 ^ (e - 1)) {rank : Nat}
    (nearest : Precision.double.Nearest scaled rank)
    (error : scaled - value ≤ value / (2 ^ 53 - 1)) :
    Precision.double.value rank < m * 2 ^ (e - 1) := by
  -- Even with its error the scaled number does not pass the double just under the middle.
  obtain ⟨beside, beside_eq, beside_nearest⟩ :=
    nearest_beside low high (n := m * 2 ^ 28 - 1) (by omega)
  have beside_cast : ((m * 2 ^ 28 - 1 : Nat) : ℚ) = m * 2 ^ 28 - 1 := by
    rw [Nat.cast_sub (by omega)]
    push_cast
    ring
  have m_le : (m : ℚ) ≤ 2 ^ 25 := by exact_mod_cast m_lt.le
  have unit_pos : (0 : ℚ) < 2 ^ (e - 29) := zpow_pos two_pos _
  rw [middle_units, gap_units] at far
  rw [middle_units]
  rw [beside_cast] at beside_eq beside_nearest
  generalize (2 : ℚ) ^ (e - 29) = unit at *
  have error_le : value / (2 ^ 53 - 1) ≤ unit := by
    rw [div_le_iff₀ (by norm_num)]
    nlinarith
  have scaled_le : scaled ≤ (m * 2 ^ 28 - 1) * unit := by
    linarith
  have rank_le := (Precision.value_strictMono (p := .double)).monotone
    (nearest.mono beside_nearest scaled_le)
  rw [beside_eq] at rank_le
  linarith

theorem lt_value_of_far (low : -149 ≤ e) (high : e ≤ 104) (m_lt : m < 0x2000000)
    {value scaled : ℚ} (far : m * 2 ^ (e - 1) + 2 ^ (e - 28) ≤ value) {rank : Nat}
    (nearest : Precision.double.Nearest scaled rank)
    (error : value - scaled ≤ value / (2 ^ 53 - 1)) :
    m * 2 ^ (e - 1) < Precision.double.value rank := by
  obtain ⟨beside, beside_eq, beside_nearest⟩ :=
    nearest_beside low high (n := m * 2 ^ 28 + 1) (by omega)
  push_cast at beside_eq beside_nearest
  have m_le : (m : ℚ) ≤ 2 ^ 25 - 1 := by
    have : (m + 1 : ℚ) ≤ 2 ^ 25 := by exact_mod_cast m_lt
    linarith
  have unit_pos : (0 : ℚ) < 2 ^ (e - 29) := zpow_pos two_pos _
  rw [middle_units, gap_units] at far
  rw [middle_units]
  generalize (2 : ℚ) ^ (e - 29) = unit at *
  have shrunk : (m * 2 ^ 28 + 1) * unit ≤ value - value / (2 ^ 53 - 1) := by
    have : value - value / (2 ^ 53 - 1) = value * ((2 ^ 53 - 2) / (2 ^ 53 - 1)) := by ring
    rw [this, mul_div_assoc', le_div_iff₀ (by norm_num)]
    nlinarith
  have rank_le := (Precision.value_strictMono (p := .double)).monotone
    (beside_nearest.mono nearest (by linarith))
  rw [beside_eq] at rank_le
  linarith

/-- A double that is nearest to a number close to a harmless decimal compares with the middle like
the decimal itself. -/
theorem compare_middle (low : -149 ≤ e) (high : e ≤ 104) (m_pos : 0 < m) (m_lt : m < 0x2000000)
    {d : Decimal} (harmless : Decimal.Harmless e m d) {rank : Nat} {scaled : ℚ}
    (found : scaled? d = some rank) (nearest : Precision.double.Nearest scaled rank)
    (error : |scaled - d.value| ≤ d.value / (2 ^ 53 - 1))
    (exact : -22 ≤ d.exponent → d.exponent ≤ 22 → scaled = d.value) :
    (d.value < m * 2 ^ (e - 1) → Precision.double.value rank < m * 2 ^ (e - 1)) ∧
      (m * 2 ^ (e - 1) < d.value → m * 2 ^ (e - 1) < Precision.double.value rank) ∧
      (d.value = m * 2 ^ (e - 1) → Precision.double.value rank = m * 2 ^ (e - 1)) := by
  rcases harmless with far | ⟨equal, small_low, small_high⟩ | ⟨other, found', same⟩
  · obtain ⟨error_low, error_high⟩ := abs_le.mp error
    refine ⟨fun less => ?_, fun more => ?_, fun equal => ?_⟩
    · rw [abs_of_neg (sub_neg.mpr less)] at far
      rw [neg_sub, le_sub_iff_add_le'] at far
      exact value_lt_of_far low high m_pos m_lt far nearest error_high
    · rw [abs_of_pos (sub_pos.mpr more)] at far
      rw [neg_le_sub_iff_le_add, ← sub_le_iff_le_add'] at error_low
      rw [le_sub_iff_add_le'] at far
      exact lt_value_of_far low high m_lt far nearest error_low
    · have gap_pos : (0 : ℚ) < 2 ^ (e - 28) := zpow_pos two_pos _
      rw [equal, sub_self, abs_zero] at far
      exact absurd far gap_pos.not_ge
  · have value_eq : Precision.double.value rank = m * 2 ^ (e - 1) := by
      rw [exact small_low small_high, equal] at nearest
      rw [← Decimal.value_middleRank low high m_lt,
        (Precision.nearest_rank_binaryRatio Single.even_double m (e - 1)).unique nearest]
    rw [value_eq, equal]
    exact ⟨id, id, fun _ => rfl⟩
  · cases found.symm.trans found'
    rcases same with ⟨below, below'⟩ | ⟨above, above'⟩
    · exact ⟨fun _ => below', fun more => absurd more below.not_gt,
        fun equal => absurd equal below.ne⟩
    · exact ⟨fun less => absurd less above.not_gt, fun _ => above',
        fun equal => absurd equal above.ne'⟩

end Middle

/-! ## Shortest decimals -/

section Single

variable {target : Nat} {d : Decimal}

theorem middle_eq (rank : Nat) : Precision.single.middle rank =
    (2 * Precision.single.significand rank + 1 : Nat) *
      2 ^ (Precision.single.exponent rank - 1) := by
  rw [Precision.middle, Precision.value, Precision.gap, zpow_sub_one₀ two_ne_zero]
  push_cast
  ring

theorem harmless_of_readsBack (back : Decimal.ReadsBack target d) (digits_pos : 0 < d.digits)
    (finite : target < Precision.single.infinity) {beside : Nat}
    (neighbour : beside = target ∨ beside + 1 = target) :
    Decimal.Harmless (Precision.single.exponent beside)
      (2 * Precision.single.significand beside + 1) d := by
  obtain ⟨low, high⟩ := Decimal.exponent_bounds beside (by omega)
  have significand_lt : Precision.single.significand beside < 2 * 8388608 :=
    Precision.significand_lt beside
  rcases lt_or_ge ((2 : ℚ) ^ (Precision.single.exponent beside - 1) * (1 - 1 / 2 ^ 27))
    (10 ^ d.exponent) with coarse | fine
  · refine Decimal.harmless_of_coarse low high (by omega) (by omega) ?_ digits_pos coarse
    obtain ⟨-, lowest | normal⟩ := Precision.level_add_significand (p := .single) beside
    · left
      rw [Precision.exponent, lowest]
      rfl
    · right
      have : 8388608 ≤ Precision.single.significand beside := normal
      omega
  · -- On a fine grid the decimal is close to its number and so far from the middle.
    left
    have half_eq : |Precision.single.value target - Precision.single.middle beside| =
        2 ^ (Precision.single.exponent beside - 1) := by
      have half_pos : (0 : ℚ) < 2 ^ (Precision.single.exponent beside - 1) := zpow_pos two_pos _
      have gap_eq : Precision.single.gap beside =
          2 * 2 ^ (Precision.single.exponent beside - 1) := by
        rw [Precision.gap, zpow_sub_one₀ two_ne_zero]
        ring
      rcases neighbour with rfl | rfl
      · rw [Precision.middle, gap_eq, abs_sub_comm, abs_of_pos (by linarith)]
        ring
      · rw [Precision.middle, Precision.value_add_one, gap_eq, abs_of_pos (by linarith)]
        ring
    have near : |d.value - Precision.single.value target| ≤ 10 ^ d.exponent := by
      rw [abs_le]
      constructor <;> linarith [back.above, back.below]
    have power_eq : (2 : ℚ) ^ (Precision.single.exponent beside - 28) =
        2 ^ (Precision.single.exponent beside - 1) * (1 / 2 ^ 27) := by
      rw [show Precision.single.exponent beside - 28 =
        Precision.single.exponent beside - 1 + -27 by ring, zpow_add₀ two_ne_zero]
      norm_num
    rw [← middle_eq, power_eq]
    have triangle := abs_sub_le (Precision.single.value target) d.value
      (Precision.single.middle beside)
    rw [half_eq, abs_sub_comm _ d.value] at triangle
    linarith

theorem digits_le_of_readsBack (back : Decimal.ReadsBack target d) :
    d.digits ≤ 0x20000000000000 := by
  have step_pos : (0 : ℚ) < 10 ^ d.exponent := zpow_pos (by norm_num) _
  have significand_lt : (Precision.single.significand target : ℚ) < 2 ^ 24 := by
    exact_mod_cast Precision.significand_lt (p := .single) target
  have half_pos : (0 : ℚ) < 2 ^ (Precision.single.exponent target - 1) := zpow_pos two_pos _
  have value_le : Precision.single.value target ≤
      2 ^ 25 * 2 ^ (Precision.single.exponent target - 1) := by
    rw [Precision.value, zpow_sub_one₀ two_ne_zero]
    have := zpow_pos (two_pos (α := ℚ)) (Precision.single.exponent target)
    nlinarith
  have coarse := back.coarse
  rw [zpow_add_one₀ (by norm_num)] at coarse
  have above := back.above
  rw [Decimal.value] at above
  have digits_le : (d.digits : ℚ) * 10 ^ d.exponent ≤ 0x20000000000000 * 10 ^ d.exponent := by
    linarith
  exact_mod_cast (mul_le_mul_iff_left₀ step_pos).mp digits_le

/-- A decimal that reads back at once also reads back by way of double precision. -/
theorem scaled?_readsBack (back : Decimal.ReadsBack target d) (positive : 0 < target)
    (finite : target < Precision.single.infinity) :
    ∃ rank, scaled? d = some rank ∧
      Precision.single.Nearest (Precision.double.value rank) target := by
  have digits_pos := back.digits_pos positive
  obtain ⟨rank, scaled, found, nearest, error, exact⟩ := scaled?_spec digits_pos
    (digits_le_of_readsBack back) back.exponent_low back.exponent_high
  have at_once : Precision.single.Nearest d.value target := by
    rw [← back.rank_eq]
    exact Decimal.nearest_rank Single.even_single
      (Decimal.inReach_of_bounds back.exponent_low (by linarith [back.exponent_high]))
  have compared {beside : Nat} (neighbour : beside = target ∨ beside + 1 = target) :
      (d.value < Precision.single.middle beside →
          Precision.double.value rank < Precision.single.middle beside) ∧
        (Precision.single.middle beside < d.value →
          Precision.single.middle beside < Precision.double.value rank) ∧
        (d.value = Precision.single.middle beside →
          Precision.double.value rank = Precision.single.middle beside) := by
    obtain ⟨low, high⟩ := Decimal.exponent_bounds beside (by omega)
    have significand_lt : Precision.single.significand beside < 2 * 8388608 :=
      Precision.significand_lt beside
    rw [middle_eq]
    exact compare_middle low high (by omega) (by omega)
      (harmless_of_readsBack back digits_pos finite neighbour) found nearest error exact
  refine ⟨rank, found, at_once.le_infinity, ?_, ?_⟩
  · rintro beside beside_eq
    obtain ⟨-, more, equal⟩ := compared (.inr beside_eq.symm)
    exact (at_once.above beside beside_eq).imp more fun ⟨tie, even⟩ => ⟨(equal tie.symm).symm, even⟩
  · intro below
    obtain ⟨less, -, equal⟩ := compared (.inl rfl)
    exact (at_once.below below).imp less fun ⟨tie, even⟩ => ⟨equal tie, even⟩

-- By way of its nearest double this shortest decimal would be read as the next number.
example :
    let near := Decimal.rank .double ⟨7038531, -32⟩
    let ratio := binaryRatio (Precision.double.significand near) (Precision.double.exponent near)
    Decimal.rank .single ⟨7038531, -32⟩ = 0x15ae43fd ∧
      Precision.single.rank ratio.1 ratio.2 = 0x15ae43fe := by
  decide +kernel

theorem scaled?_whole {n : Nat} (n_pos : 0 < n) (short : n * 10 ≤ 0x20000000000000)
    (at_once : Precision.single.Nearest n target) :
    ∃ rank, scaled? ⟨n * 10, -1⟩ = some rank ∧
      Precision.single.Nearest (Precision.double.value rank) target := by
  obtain ⟨rank, scaled, found, nearest, -, exact⟩ :=
    scaled?_spec (d := ⟨n * 10, -1⟩) (Nat.mul_pos n_pos (by decide)) short (by norm_num)
      (by norm_num)
  have value_eq : (⟨n * 10, -1⟩ : Decimal).value = n := by
    simp [Decimal.value]
  have digits_eq : Precision.double.value (Precision.double.rank n 1) = n :=
    value_rank_digits (by omega)
  rw [exact (by norm_num) (by norm_num), value_eq, ← digits_eq] at nearest
  refine ⟨rank, found, ?_⟩
  have exact_nearest : Precision.double.Nearest (n / (1 : Nat)) (Precision.double.rank n 1) :=
    Precision.nearest_rank Single.even_double Nat.one_pos
  rw [Nat.cast_one, div_one, ← digits_eq] at exact_nearest
  rw [nearest.unique exact_nearest, digits_eq]
  exact at_once

end Single

end Numeral
end TextureGraph
