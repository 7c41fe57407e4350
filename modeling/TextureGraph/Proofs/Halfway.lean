import TextureGraph.Json.Number
import TextureGraph.Proofs.Shortest
import Mathlib.Tactic.IntervalCases

/-!
# Decimals close to halfway

A decimal of few digits that lies close to the middle between two neighbouring single-precision
numbers, but not on it, would be dangerous to round twice.  On the grid of the middles a decimal
step is a fraction `num / den`, so the question is how close its multiples come to whole numbers.  A
bracket of two fractions with neighbouring numerators and denominators around `num / den` answers
it: every other pair of a multiple and a whole number is a combination of the two and no closer.

Searching these brackets for all exponents leaves three decimals that are close; for them the
rounding itself is computed.
-/

namespace TextureGraph

/-! ## Brackets -/

/-- Two fractions, to be placed below and above a number. -/
structure Bracket where
  /-- Denominator of the lower fraction. -/
  lowDen : Nat
  /-- Numerator of the lower fraction. -/
  lowNum : Nat
  /-- Denominator of the upper fraction. -/
  highDen : Nat
  /-- Numerator of the upper fraction. -/
  highNum : Nat

namespace Bracket

/-- Denominators and numerators beyond this are too large to matter. -/
def limit : Nat := 0x2000000

/-- How far the lower fraction is from `num / den`, as a multiple of the product of the two
denominators. -/
def lowError (bracket : Bracket) (num den : Nat) : Nat :=
  num * bracket.lowDen - bracket.lowNum * den

/-- How far the upper fraction is from `num / den`, as a multiple of the product of the two
denominators. -/
def highError (bracket : Bracket) (num den : Nat) : Nat :=
  bracket.highNum * den - num * bracket.highDen

/-- Whether every combination of the two fractions is beyond the limit. -/
def isWide (bracket : Bracket) : Bool :=
  limit ≤ bracket.lowDen + bracket.highDen || limit ≤ bracket.lowNum + bracket.highNum

/-- Adds a multiple of the upper fraction to the lower one. -/
def raise (bracket : Bracket) (count : Nat) : Bracket :=
  { bracket with
    lowDen := bracket.lowDen + count * bracket.highDen
    lowNum := bracket.lowNum + count * bracket.highNum }

/-- Adds a multiple of the lower fraction to the upper one. -/
def lower (bracket : Bracket) (count : Nat) : Bracket :=
  { bracket with
    highDen := bracket.highDen + count * bracket.lowDen
    highNum := bracket.highNum + count * bracket.lowNum }

/-- How often a fraction can be added to another within the limit. -/
def room (den num addedDen addedNum : Nat) : Nat :=
  if addedDen = 0 then (limit - 1 - num) / addedNum
  else if addedNum = 0 then (limit - 1 - den) / addedDen
  else min ((limit - 1 - den) / addedDen) ((limit - 1 - num) / addedNum)

/-- Narrows a bracket of `num / den` until it is wide or one of its fractions is exact. -/
def narrow (num den : Nat) : (steps : Nat) → Bracket → Bracket
  | 0, bracket => bracket
  | steps + 1, bracket =>
      let low := bracket.lowError num den
      let high := bracket.highError num den
      if bracket.isWide || low = 0 || high = 0 then bracket
      else if high ≤ low then
        let most := room bracket.lowDen bracket.lowNum bracket.highDen bracket.highNum
        narrow num den steps (bracket.raise (min (low / high) most))
      else
        let most := room bracket.highDen bracket.highNum bracket.lowDen bracket.lowNum
        narrow num den steps (bracket.lower (min (high / low) most))

/-- A bracket around `num / den` whose fractions are neighbours. -/
structure Encloses (bracket : Bracket) (num den : Nat) : Prop where
  neighbours : bracket.highNum * bracket.lowDen = bracket.lowNum * bracket.highDen + 1
  low : bracket.lowNum * den ≤ num * bracket.lowDen
  high : num * bracket.highDen ≤ bracket.highNum * den

instance (bracket : Bracket) (num den : Nat) : Decidable (bracket.Encloses num den) :=
  decidable_of_iff
    (bracket.highNum * bracket.lowDen = bracket.lowNum * bracket.highDen + 1 ∧
      bracket.lowNum * den ≤ num * bracket.lowDen ∧ num * bracket.highDen ≤ bracket.highNum * den)
    ⟨fun ⟨neighbours, low, high⟩ => ⟨neighbours, low, high⟩,
      fun ⟨neighbours, low, high⟩ => ⟨neighbours, low, high⟩⟩

section Combination

variable {bracket : Bracket} {num den : Nat} (encloses : bracket.Encloses num den)

include encloses

theorem Encloses.combination (d m : Nat) :
    ∃ s t : Int, (d : Int) = s * bracket.lowDen + t * bracket.highDen ∧
      (m : Int) = s * bracket.lowNum + t * bracket.highNum ∧
      (d * num - m * den : Int) =
        s * bracket.lowError num den - t * bracket.highError num den := by
  obtain ⟨neighbours, low, high⟩ := encloses
  have unimodular : (bracket.highNum * bracket.lowDen : Int) =
      bracket.lowNum * bracket.highDen + 1 := by exact_mod_cast neighbours
  have low_eq : (bracket.lowError num den : Int) =
      num * bracket.lowDen - bracket.lowNum * den := by
    rw [lowError, Nat.cast_sub low]
    push_cast
    rfl
  have high_eq : (bracket.highError num den : Int) =
      bracket.highNum * den - num * bracket.highDen := by
    rw [highError, Nat.cast_sub high]
    push_cast
    rfl
  refine ⟨d * bracket.highNum - m * bracket.highDen, m * bracket.lowDen - d * bracket.lowNum,
    ?_, ?_, ?_⟩
  · linear_combination (-(d : Int)) * unimodular
  · linear_combination (-(m : Int)) * unimodular
  · rw [low_eq, high_eq]
    linear_combination (m * den - d * num : Int) * unimodular

/-- Within a wide bracket a pair that is closer than both fractions together is a multiple of one of
them. -/
theorem Encloses.multiple_or_far (wide : bracket.isWide = true) {d m : Nat} (d_pos : 0 < d)
    (d_lt : d < limit) (m_lt : m < limit) :
    (∃ s : Nat, 0 < s ∧ d = s * bracket.lowDen ∧ m = s * bracket.lowNum ∧
        (bracket.lowError num den : Int) ≤ |(d * num - m * den : Int)|) ∨
      (∃ t : Nat, 0 < t ∧ d = t * bracket.highDen ∧ m = t * bracket.highNum ∧
        (bracket.highError num den : Int) ≤ |(d * num - m * den : Int)|) ∨
      (bracket.lowError num den + bracket.highError num den : Int) ≤
        |(d * num - m * den : Int)| := by
  obtain ⟨s, t, d_eq, m_eq, error_eq⟩ := encloses.combination d m
  have low_nonneg : (0 : Int) ≤ bracket.lowError num den := Int.natCast_nonneg _
  have high_nonneg : (0 : Int) ≤ bracket.highError num den := Int.natCast_nonneg _
  have d_pos' : (0 : Int) < d := by exact_mod_cast d_pos
  rw [error_eq]
  rcases lt_trichotomy s 0 with s_neg | rfl | s_pos
  · -- A negative share of the lower fraction needs a positive one of the upper.
    have t_pos : 0 < t := by
      by_contra! t_nonpos
      have : s * bracket.lowDen + t * bracket.highDen ≤ 0 := by
        have := mul_nonpos_of_nonpos_of_nonneg s_neg.le (Int.natCast_nonneg bracket.lowDen)
        have := mul_nonpos_of_nonpos_of_nonneg t_nonpos (Int.natCast_nonneg bracket.highDen)
        linarith
      linarith
    refine .inr (.inr (le_trans ?_ (neg_le_abs _)))
    have : (bracket.lowError num den : Int) ≤ -s * bracket.lowError num den :=
      le_mul_of_one_le_left low_nonneg (by omega)
    have : (bracket.highError num den : Int) ≤ t * bracket.highError num den :=
      le_mul_of_one_le_left high_nonneg (by omega)
    linarith
  · have t_pos : 0 < t := by
      by_contra! t_nonpos
      have := mul_nonpos_of_nonpos_of_nonneg t_nonpos (Int.natCast_nonneg bracket.highDen)
      linarith
    obtain ⟨t, rfl⟩ := Int.eq_ofNat_of_zero_le t_pos.le
    refine .inr (.inl ⟨t, by exact_mod_cast t_pos, ?_, ?_, le_trans ?_ (neg_le_abs _)⟩)
    · rw [zero_mul, zero_add] at d_eq
      exact_mod_cast d_eq
    · rw [zero_mul, zero_add] at m_eq
      exact_mod_cast m_eq
    · have : (bracket.highError num den : Int) ≤ t * bracket.highError num den :=
        le_mul_of_one_le_left high_nonneg (by omega)
      linarith
  · rcases lt_trichotomy t 0 with t_neg | rfl | t_pos
    · refine .inr (.inr (le_trans ?_ (le_abs_self _)))
      have : (bracket.lowError num den : Int) ≤ s * bracket.lowError num den :=
        le_mul_of_one_le_left low_nonneg (by omega)
      have : (bracket.highError num den : Int) ≤ -t * bracket.highError num den :=
        le_mul_of_one_le_left high_nonneg (by omega)
      linarith
    · obtain ⟨s, rfl⟩ := Int.eq_ofNat_of_zero_le s_pos.le
      refine .inl ⟨s, by exact_mod_cast s_pos, ?_, ?_, le_trans ?_ (le_abs_self _)⟩
      · rw [zero_mul, add_zero] at d_eq
        exact_mod_cast d_eq
      · rw [zero_mul, add_zero] at m_eq
        exact_mod_cast m_eq
      · have : (bracket.lowError num den : Int) ≤ s * bracket.lowError num den :=
          le_mul_of_one_le_left low_nonneg (by omega)
        linarith
    · -- Positive shares of both are beyond the limit.
      exfalso
      simp only [isWide, Bool.or_eq_true, decide_eq_true_eq] at wide
      have share (a b : Nat) : (a + b : Int) ≤ s * a + t * b := by
        have := le_mul_of_one_le_left (Int.natCast_nonneg a) (show 1 ≤ s by omega)
        have := le_mul_of_one_le_left (Int.natCast_nonneg b) (show 1 ≤ t by omega)
        linarith
      have := share bracket.lowDen bracket.highDen
      have := share bracket.lowNum bracket.highNum
      omega

theorem Encloses.exact_or_far_of_low (exact : bracket.lowError num den = 0) (d m : Nat) :
    d * num = m * den ∨
      (bracket.highError num den : Int) ≤ |(d * num - m * den : Int)| := by
  obtain ⟨s, t, -, -, error_eq⟩ := encloses.combination d m
  rw [exact, Nat.cast_zero, mul_zero, zero_sub] at error_eq
  rcases eq_or_ne t 0 with rfl | nonzero
  · left
    rw [zero_mul, neg_zero] at error_eq
    have : (d * num : Int) = m * den := by linarith
    exact_mod_cast this
  · right
    rw [error_eq, abs_neg, abs_mul, Nat.abs_cast]
    exact le_mul_of_one_le_left (Int.natCast_nonneg _) (Int.one_le_abs nonzero)

theorem Encloses.exact_or_far_of_high (exact : bracket.highError num den = 0) (d m : Nat) :
    d * num = m * den ∨
      (bracket.lowError num den : Int) ≤ |(d * num - m * den : Int)| := by
  obtain ⟨s, t, -, -, error_eq⟩ := encloses.combination d m
  rw [exact, Nat.cast_zero, mul_zero, sub_zero] at error_eq
  rcases eq_or_ne s 0 with rfl | nonzero
  · left
    rw [zero_mul] at error_eq
    have : (d * num : Int) = m * den := by linarith
    exact_mod_cast this
  · right
    rw [error_eq, abs_mul, Nat.abs_cast]
    exact le_mul_of_one_le_left (Int.natCast_nonneg _) (Int.one_le_abs nonzero)

end Combination
end Bracket

namespace Decimal

/-! ## The search -/

/-- Exponent of the finest decimal grid whose steps are not shorter than `2 ^ (e - 1)`. -/
def halfGrid (e : Int) : Int :=
  -((1 - e) * 30103 / 100000)

/-- A step of that grid as a multiple of `2 ^ (e - 1)`. -/
def halfRatio (e : Int) : Nat × Nat :=
  (powerOfTen (halfGrid e).toNat <<< (1 - e).toNat,
    powerOfTen (-halfGrid e).toNat <<< (e - 1).toNat)

/-- Whether the double that `d` steps are read as lies on the same side of `m * 2 ^ (e - 1)` as they
do. -/
def readsSameSide (e : Int) (d m : Nat) : Bool :=
  let middle := binaryRatio m (e - 1)
  let middleRank := Precision.double.rank middle.1 middle.2
  match Numeral.scaled? ⟨d, halfGrid e⟩ with
  | none => false
  | some rank =>
      d * (halfRatio e).1 < m * (halfRatio e).2 && rank < middleRank ||
        m * (halfRatio e).2 < d * (halfRatio e).1 && middleRank < rank

/-- Whether multiples `d` of a denominator and `m` of a numerator can be left alone: they are not
close, or `m` is no odd significand, or the one such multiple is read on the right side. -/
def isHarmless (e : Int) (d m error : Nat) : Bool :=
  (halfRatio e).2 ≤ 0x8000000 * error ||
    e ≠ -149 && m < 0x1000000 && 0x2000000 ≤ 3 * m ||
    0x1000000 ≤ m && d % 10 ≠ 0 && readsSameSide e d m

/-- Whether a bracket shows that decimals are harmless near middles of exponent `e`. -/
def certifies (e : Int) (bracket : Bracket) : Bool :=
  let num := (halfRatio e).1
  let den := (halfRatio e).2
  let low := bracket.lowError num den
  let high := bracket.highError num den
  decide (bracket.Encloses num den) &&
    den * 0x7ffffff < num * 0x8000000 && num * 0x8000000 ≤ 10 * den * 0x7ffffff &&
    (-22 ≤ halfGrid e && e ≤ 40 &&
        (low = 0 && den ≤ 0x8000000 * high || high = 0 && den ≤ 0x8000000 * low) ||
      bracket.isWide && den ≤ 0x8000000 * (low + high) &&
        isHarmless e bracket.lowDen bracket.lowNum low &&
        isHarmless e bracket.highDen bracket.highNum high)

theorem exists_certificate {e : Int} (low : -149 ≤ e) (high : e ≤ 104) :
    ∃ bracket, certifies e bracket = true := by
  have checked : ∀ n : Nat, n < 254 →
      let ratio := halfRatio (n - 149)
      certifies (n - 149) (Bracket.narrow ratio.1 ratio.2 40 ⟨1, 0, 0, 1⟩) = true := by
    decide +kernel
  have found := checked (e + 149).toNat (by omega)
  rw [show (((e + 149).toNat : Nat) : Int) - 149 = e by omega] at found
  exact ⟨_, found⟩

/-! ## What the search shows -/

/-- The double that a decimal is read as lies on the same side of a number as the decimal. -/
def ReadsSameSide (d : Decimal) (q : ℚ) : Prop :=
  ∃ rank, Numeral.scaled? d = some rank ∧
    (d.value < q ∧ Precision.double.value rank < q ∨ q < d.value ∧ q < Precision.double.value rank)

/-- A decimal is harmless near the middle `m * 2 ^ (e - 1)`: far away, or on it and within the
powers of ten that double precision has, or read on the right side. -/
def Harmless (e : Int) (m : Nat) (d : Decimal) : Prop :=
  (2 : ℚ) ^ (e - 28) ≤ |d.value - m * 2 ^ (e - 1)| ∨
    d.value = m * 2 ^ (e - 1) ∧ -22 ≤ d.exponent ∧ d.exponent ≤ 22 ∨
    ReadsSameSide d (m * 2 ^ (e - 1))

section Middle

variable {e : Int} {m : Nat}

theorem halfRatio_snd_pos (e : Int) : 0 < (halfRatio e).2 := by
  simp only [halfRatio, Nat.shiftLeft_eq]
  exact Nat.mul_pos (powerOfTen_pos _) (Nat.two_pow_pos _)

theorem halfRatio_eq (e : Int) :
    ((halfRatio e).1 / (halfRatio e).2 : ℚ) = 10 ^ halfGrid e / 2 ^ (e - 1) := by
  have shifted := shiftLeft_div_shiftLeft (powerOfTen (halfGrid e).toNat)
    (powerOfTen (-halfGrid e).toNat) (e - 1)
  rw [show -(e - 1) = 1 - e by ring, powerOfTen_div_powerOfTen] at shifted
  exact shifted

theorem value_middleRank (low : -149 ≤ e) (high : e ≤ 104) (m_lt : m < 0x2000000) :
    Precision.double.value
      (Precision.double.rank (binaryRatio m (e - 1)).1 (binaryRatio m (e - 1)).2) =
        m * 2 ^ (e - 1) := by
  have m_lt' : (m : ℚ) < 2 ^ 25 := by exact_mod_cast m_lt
  refine (Precision.nearest_rank_binaryRatio Single.even_double m (e - 1)).value_eq ?_ ?_ ?_
  · rw [Single.binade_double]
    omega
  · simp only [Precision.double]
    omega
  · have step_le : (2 : ℚ) ^ (e - 1) ≤ 2 ^ (103 : Int) := zpow_le_zpow_right₀ one_le_two (by omega)
    rw [Single.value_infinity_double]
    calc (m * 2 ^ (e - 1) : ℚ) ≤ 2 ^ 25 * 2 ^ (103 : Int) := by gcongr
      _ = 2 ^ (128 : Int) := by norm_num
      _ ≤ 2 ^ (1024 : Int) := zpow_le_zpow_right₀ one_le_two (by norm_num)

theorem steps_compare (e : Int) (d m : Nat) :
    ((⟨d, halfGrid e⟩ : Decimal).value < m * 2 ^ (e - 1) ↔
        d * (halfRatio e).1 < m * (halfRatio e).2) ∧
      ((m * 2 ^ (e - 1) : ℚ) < (⟨d, halfGrid e⟩ : Decimal).value ↔
        m * (halfRatio e).2 < d * (halfRatio e).1) := by
  have den_pos : (0 : ℚ) < (halfRatio e).2 := by exact_mod_cast halfRatio_snd_pos e
  have half_pos : (0 : ℚ) < 2 ^ (e - 1) := zpow_pos two_pos _
  have value_eq : (⟨d, halfGrid e⟩ : Decimal).value =
      d * (halfRatio e).1 / (halfRatio e).2 * 2 ^ (e - 1) := by
    rw [mul_div_assoc, halfRatio_eq, value]
    field_simp
  rw [value_eq, mul_lt_mul_iff_left₀ half_pos, mul_lt_mul_iff_left₀ half_pos,
    div_lt_iff₀ den_pos, lt_div_iff₀ den_pos]
  exact ⟨by exact_mod_cast Iff.rfl, by exact_mod_cast Iff.rfl⟩

theorem readsSameSide_spec (low : -149 ≤ e) (high : e ≤ 104) (m_lt : m < 0x2000000) {d : Nat}
    (same : readsSameSide e d m = true) : ReadsSameSide ⟨d, halfGrid e⟩ (m * 2 ^ (e - 1)) := by
  have middle_eq := value_middleRank low high m_lt
  obtain ⟨below_iff, above_iff⟩ := steps_compare e d m
  simp only [readsSameSide] at same
  cases scaled : Numeral.scaled? ⟨d, halfGrid e⟩ with
  | none =>
      rw [scaled] at same
      cases same
  | some rank =>
      rw [scaled] at same
      simp only [Bool.or_eq_true, Bool.and_eq_true, decide_eq_true_eq] at same
      refine ⟨rank, scaled, ?_⟩
      rw [below_iff, above_iff, ← middle_eq, Precision.value_strictMono.lt_iff_lt,
        Precision.value_strictMono.lt_iff_lt]
      exact same

theorem isHarmless_spec (low : -149 ≤ e) (high : e ≤ 104) (odd : m % 2 = 1)
    (m_lt : m < 0x2000000) (normal : e = -149 ∨ 0x1000000 ≤ m) {d den num error s : Nat}
    (s_pos : 0 < s) (d_eq : d = s * den) (m_eq : m = s * num)
    (harmless : isHarmless e den num error = true) :
    (halfRatio e).2 ≤ 0x8000000 * error ∨
      d % 10 ≠ 0 ∧ ReadsSameSide ⟨d, halfGrid e⟩ (m * 2 ^ (e - 1)) := by
  simp only [isHarmless, Bool.or_eq_true, Bool.and_eq_true, decide_eq_true_eq] at harmless
  rcases harmless with (far | ⟨⟨not_lowest, below⟩, above⟩) | ⟨⟨large, last⟩, same⟩
  · exact .inl far
  · -- One such multiple is too small, two are even, and three are too large.
    exfalso
    have s_lt : s < 3 := by
      by_contra! three
      have := Nat.mul_le_mul_right num three
      omega
    interval_cases s <;> omega
  · right
    have s_eq : s = 1 := by
      by_contra other
      have := Nat.mul_le_mul_right num (show 2 ≤ s by omega)
      omega
    rw [s_eq, one_mul] at d_eq m_eq
    subst d_eq m_eq
    exact ⟨last, readsSameSide_spec low high m_lt same⟩

theorem distance_eq (e : Int) (steps m : Nat) :
    |(⟨steps, halfGrid e⟩ : Decimal).value - m * 2 ^ (e - 1)| =
      |(steps * (halfRatio e).1 - m * (halfRatio e).2 : Int)| / (halfRatio e).2 *
        2 ^ (e - 1) := by
  have den_pos : (0 : ℚ) < (halfRatio e).2 := by exact_mod_cast halfRatio_snd_pos e
  have half_pos : (0 : ℚ) < 2 ^ (e - 1) := zpow_pos two_pos _
  have difference : (⟨steps, halfGrid e⟩ : Decimal).value - m * 2 ^ (e - 1) =
      (steps * (halfRatio e).1 - m * (halfRatio e).2) / (halfRatio e).2 * 2 ^ (e - 1) := by
    rw [value, sub_div, mul_div_assoc, halfRatio_eq, mul_div_cancel_right₀ _ den_pos.ne']
    field_simp
  rw [difference, abs_mul, abs_div, abs_of_pos den_pos, abs_of_pos half_pos]
  push_cast
  rfl

theorem close_of_near {steps : Nat}
    (near : |(⟨steps, halfGrid e⟩ : Decimal).value - m * 2 ^ (e - 1)| < 2 ^ (e - 28)) :
    |(steps * (halfRatio e).1 - m * (halfRatio e).2 : Int)| * 0x8000000 < (halfRatio e).2 := by
  have den_pos : (0 : ℚ) < (halfRatio e).2 := by exact_mod_cast halfRatio_snd_pos e
  have half_pos : (0 : ℚ) < 2 ^ (e - 1) := zpow_pos two_pos _
  have power_eq : (2 : ℚ) ^ (e - 28) = 1 / 0x8000000 * 2 ^ (e - 1) := by
    rw [show e - 28 = -27 + (e - 1) by ring, zpow_add₀ two_ne_zero]
    norm_num
  rw [distance_eq, power_eq, mul_lt_mul_iff_left₀ half_pos, div_lt_div_iff₀ den_pos (by norm_num),
    one_mul] at near
  exact_mod_cast near

theorem halfGrid_le {exponent : Int}
    (grid : (halfRatio e).1 * 0x8000000 ≤ 10 * (halfRatio e).2 * 0x7ffffff)
    (coarse : (2 : ℚ) ^ (e - 1) * (1 - 1 / 2 ^ 27) < 10 ^ exponent) : halfGrid e ≤ exponent := by
  have den_pos : (0 : ℚ) < (halfRatio e).2 := by exact_mod_cast halfRatio_snd_pos e
  have half_pos : (0 : ℚ) < 2 ^ (e - 1) := zpow_pos two_pos _
  by_contra! less
  have grid' : ((halfRatio e).1 * 0x8000000 : ℚ) ≤ 10 * (halfRatio e).2 * 0x7ffffff := by
    exact_mod_cast grid
  have bound : ((halfRatio e).1 / (halfRatio e).2 : ℚ) * 0x8000000 ≤ 10 * 0x7ffffff := by
    rw [div_mul_eq_mul_div, div_le_iff₀ den_pos]
    linarith
  rw [halfRatio_eq, div_mul_eq_mul_div, div_le_iff₀ half_pos] at bound
  have finer : (10 : ℚ) ^ exponent * 10 ≤ 10 ^ halfGrid e := by
    rw [← zpow_add_one₀ (by norm_num)]
    exact zpow_le_zpow_right₀ (by norm_num) (by omega)
  linarith

theorem steps_lt_limit {steps : Nat} (m_lt : m < 0x2000000)
    (fine : (halfRatio e).2 * 0x7ffffff < (halfRatio e).1 * 0x8000000)
    (close : |(steps * (halfRatio e).1 - m * (halfRatio e).2 : Int)| * 0x8000000 <
      (halfRatio e).2) : steps < Bracket.limit := by
  have den_pos : (0 : Int) < (halfRatio e).2 := by exact_mod_cast halfRatio_snd_pos e
  have fine' : ((halfRatio e).2 * 0x7ffffff : Int) < (halfRatio e).1 * 0x8000000 := by
    exact_mod_cast fine
  have upper : (steps * (halfRatio e).1 - m * (halfRatio e).2 : Int) * 0x8000000 <
      (halfRatio e).2 :=
    lt_of_le_of_lt (mul_le_mul_of_nonneg_right (le_abs_self _) (by norm_num)) close
  have m_le : (m : Int) ≤ 0x1ffffff := by omega
  by_contra! large
  have large' : (0x2000000 : Int) ≤ steps := by exact_mod_cast large
  nlinarith

theorem exponent_le_of_exact (e_high : e ≤ 40) (m_lt : m < 0x2000000) {d : Decimal}
    (d_pos : 0 < d.digits) (exact : d.value = m * 2 ^ (e - 1)) : d.exponent ≤ 22 := by
  by_contra! large
  have digits_ge : (1 : ℚ) ≤ d.digits := by exact_mod_cast d_pos
  have power_le : (10 : ℚ) ^ (23 : Int) ≤ 10 ^ d.exponent :=
    zpow_le_zpow_right₀ (by norm_num) (by omega)
  have m_lt' : (m : ℚ) < 2 ^ 25 := by exact_mod_cast m_lt
  have half_le : (2 : ℚ) ^ (e - 1) ≤ 2 ^ (39 : Int) := zpow_le_zpow_right₀ one_le_two (by omega)
  have half_pos : (0 : ℚ) < 2 ^ (e - 1) := zpow_pos two_pos _
  have lower : (10 : ℚ) ^ (23 : Int) ≤ d.value := by
    rw [value]
    nlinarith
  have upper : d.value ≤ 2 ^ 25 * 2 ^ (39 : Int) := by
    rw [exact]
    gcongr
  norm_num at lower upper
  linarith

/-- Steps of the grid searched that are close to a middle are on it, or are read on its right side
and do not end in a zero. -/
theorem exact_or_same_of_close (low : -149 ≤ e) (high : e ≤ 104) (odd : m % 2 = 1)
    (m_lt : m < 0x2000000) (normal : e = -149 ∨ 0x1000000 ≤ m) {steps : Nat}
    (steps_pos : 0 < steps)
    (close : |(steps * (halfRatio e).1 - m * (halfRatio e).2 : Int)| * 0x8000000 <
      (halfRatio e).2) :
    (steps * (halfRatio e).1 = m * (halfRatio e).2 ∧ -22 ≤ halfGrid e ∧ e ≤ 40) ∨
      steps % 10 ≠ 0 ∧ ReadsSameSide ⟨steps, halfGrid e⟩ (m * 2 ^ (e - 1)) := by
  obtain ⟨bracket, certified⟩ := exists_certificate low high
  simp only [certifies, Bool.or_eq_true, Bool.and_eq_true, decide_eq_true_eq] at certified
  obtain ⟨⟨⟨encloses, fine⟩, -⟩, clear⟩ := certified
  have steps_lt := steps_lt_limit m_lt fine close
  have not_far {error : Nat} (far : (halfRatio e).2 ≤ 0x8000000 * error)
      (error_le : (error : Int) ≤ |(steps * (halfRatio e).1 - m * (halfRatio e).2 : Int)|) :
      False := by
    omega
  rcases clear with ⟨⟨grid_low, e_high⟩, ⟨exact_low, far⟩ | ⟨exact_high, far⟩⟩ |
    ⟨⟨⟨wide, far⟩, harmless_low⟩, harmless_high⟩
  · rcases encloses.exact_or_far_of_low exact_low steps m with equal | error_le
    · exact .inl ⟨equal, grid_low, e_high⟩
    · exact (not_far far error_le).elim
  · rcases encloses.exact_or_far_of_high exact_high steps m with equal | error_le
    · exact .inl ⟨equal, grid_low, e_high⟩
    · exact (not_far far error_le).elim
  · have of_multiple {den num error s : Nat} (harmless : isHarmless e den num error = true)
        (s_pos : 0 < s) (steps_eq : steps = s * den) (m_eq : m = s * num)
        (error_le : (error : Int) ≤ |(steps * (halfRatio e).1 - m * (halfRatio e).2 : Int)|) :
        steps % 10 ≠ 0 ∧ ReadsSameSide ⟨steps, halfGrid e⟩ (m * 2 ^ (e - 1)) :=
      (isHarmless_spec low high odd m_lt normal s_pos steps_eq m_eq harmless).resolve_left
        fun far => not_far far error_le
    rcases encloses.multiple_or_far wide steps_pos steps_lt m_lt with
      ⟨s, s_pos, steps_eq, m_eq, error_le⟩ | ⟨s, s_pos, steps_eq, m_eq, error_le⟩ | error_le
    · exact .inr (of_multiple harmless_low s_pos steps_eq m_eq error_le)
    · exact .inr (of_multiple harmless_high s_pos steps_eq m_eq error_le)
    · exact (not_far far (by push_cast; exact error_le)).elim

/-- A decimal on a grid with steps of hardly less than half a gap is harmless near every middle. -/
theorem harmless_of_coarse (low : -149 ≤ e) (high : e ≤ 104) (odd : m % 2 = 1)
    (m_lt : m < 0x2000000) (normal : e = -149 ∨ 0x1000000 ≤ m) {d : Decimal}
    (d_pos : 0 < d.digits)
    (coarse : (2 : ℚ) ^ (e - 1) * (1 - 1 / 2 ^ 27) < 10 ^ d.exponent) : Harmless e m d := by
  obtain ⟨bracket, certified⟩ := exists_certificate low high
  simp only [certifies, Bool.or_eq_true, Bool.and_eq_true, decide_eq_true_eq] at certified
  have grid_le := halfGrid_le certified.1.2 coarse
  obtain ⟨shift, shift_eq⟩ : ∃ shift : Nat, d.exponent = halfGrid e + shift :=
    ⟨(d.exponent - halfGrid e).toNat, by omega⟩
  obtain ⟨steps, steps_eq⟩ : ∃ steps, steps = d.digits * 10 ^ shift := ⟨_, rfl⟩
  have steps_pos : 0 < steps := steps_eq ▸ Nat.mul_pos d_pos (Nat.pow_pos (by decide))
  have value_eq : d.value = (⟨steps, halfGrid e⟩ : Decimal).value := by
    rw [value, value, shift_eq, zpow_add₀ (by norm_num), zpow_natCast, steps_eq]
    push_cast
    ring
  rw [Harmless]
  rcases le_or_gt ((2 : ℚ) ^ (e - 28)) |d.value - m * 2 ^ (e - 1)| with far | near
  · exact .inl far
  rw [value_eq] at near
  rcases exact_or_same_of_close low high odd m_lt normal steps_pos (close_of_near near) with
    ⟨equal, grid_low, e_high⟩ | ⟨last, same⟩
  · have zero : (steps * (halfRatio e).1 - m * (halfRatio e).2 : Int) = 0 := by
      rw [sub_eq_zero]
      exact_mod_cast equal
    have distance_zero := distance_eq e steps m
    rw [zero, abs_zero, Int.cast_zero, zero_div, zero_mul, abs_eq_zero, sub_eq_zero, ← value_eq]
      at distance_zero
    exact .inr (.inl ⟨distance_zero, by omega,
      exponent_le_of_exact e_high m_lt d_pos distance_zero⟩)
  · -- Steps that do not end in a zero are those of the decimal itself.
    have shift_zero : shift = 0 := by
      by_contra positive
      obtain ⟨rest, rfl⟩ := Nat.exists_eq_succ_of_ne_zero positive
      rw [Nat.pow_succ, ← Nat.mul_assoc] at steps_eq
      omega
    have d_eq : d = ⟨steps, halfGrid e⟩ := by
      cases d
      simp_all
    exact .inr (.inr (d_eq ▸ same))

end Middle
end Decimal
end TextureGraph
