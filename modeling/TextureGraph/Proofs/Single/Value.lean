import TextureGraph.Proofs.Single.Rounding

/-!
# Single-precision numbers as rational numbers

A finite number stands for a rational number and compares as that number does.  Rounding to single
precision keeps the order, leaves short binary fractions as they are and moves a number of moderate
size by half a unit of the last place at most.
-/

namespace TextureGraph
namespace Single

/-- The rational number that a finite number stands for. -/
def value (x : Float32) : ℚ :=
  if isNegative x then -Precision.single.value (rank x) else Precision.single.value (rank x)

theorem value_nonneg (rank : Nat) : 0 ≤ Precision.single.value rank :=
  (Precision.value_zero (p := .single)).symm.trans_le
    (Precision.value_strictMono.monotone (Nat.zero_le rank))

theorem abs_value (x : Float32) : |value x| = Precision.single.value (rank x) := by
  have nonneg := value_nonneg (rank x)
  rw [value]
  split_ifs
  · rw [abs_neg, abs_of_nonneg nonneg]
  · exact abs_of_nonneg nonneg

theorem value_of_parts {rank significand : Nat} {exponent : Int}
    (parts : Precision.single.significand rank = significand ∧
      Precision.single.exponent rank = exponent) :
    Precision.single.value rank = significand * 2 ^ exponent := by
  rw [Precision.value, parts.1, parts.2]

theorem value_eq_signed (x : Float32) :
    value x = signed (isNegative x) (Precision.single.significand (rank x)) *
      2 ^ Precision.single.exponent (rank x) := by
  rw [value, Precision.value, signed]
  split_ifs
  · push_cast
    ring
  · rfl

theorem value_of_content {x : Float32} {negative : Bool} {significand : Nat} {exponent : Int}
    (content_eq : content x = .finite negative significand exponent) :
    x.isFinite = true ∧ value x = signed negative significand * 2 ^ exponent := by
  rcases lt_trichotomy (rank x) Precision.single.infinity with finite | infinite | beyond
  · rw [content_of_finite finite] at content_eq
    cases content_eq
    exact ⟨(isFinite_iff x).mpr finite, value_eq_signed x⟩
  · rw [content_of_infinite infinite] at content_eq
    cases content_eq
  · rw [content_of_beyond beyond] at content_eq
    cases content_eq

/-! ## Last places -/

theorem minExponent_le (x : Float32) : -149 ≤ Precision.single.exponent (rank x) :=
  Int.le_add_of_nonneg_right (Int.natCast_nonneg _)

/-- A number of at least some size has its last place 23 digits below that size or above. -/
theorem exponent_of_value {r : Nat} {k : Int} (size : 2 ^ k ≤ Precision.single.value r) :
    k - 23 ≤ Precision.single.exponent r := by
  have short := Precision.significand_lt (p := .single) r
  have limit : 2 * Precision.single.binade = 2 ^ 24 := rfl
  have digits : (Precision.single.significand r : ℚ) < 2 ^ (24 : Int) := by
    exact_mod_cast short.trans_eq limit
  have unit_pos : (0 : ℚ) < 2 ^ Precision.single.exponent r := zpow_pos two_pos _
  have below : (2 : ℚ) ^ k < 2 ^ (24 + Precision.single.exponent r) := by
    rw [zpow_add₀ two_ne_zero]
    exact size.trans_lt ((mul_lt_mul_iff_of_pos_right unit_pos).mpr digits)
  have := (zpow_lt_zpow_iff_right₀ one_lt_two).mp below
  omega

/-- A number is a multiple of its last place and of every finer one. -/
theorem exists_multiple {x : Float32} {k : Int} (fine : k ≤ Precision.single.exponent (rank x)) :
    ∃ n : Int, value x = n * 2 ^ k := by
  refine ⟨signed (isNegative x) (Precision.single.significand (rank x)) *
    2 ^ (Precision.single.exponent (rank x) - k).toNat, ?_⟩
  rw [value_eq_signed, two_zpow_eq fine]
  push_cast
  ring

/-! ## Order -/

theorem value_le_iff_place (x y : Float32) : value x ≤ value y ↔ place x ≤ place y := by
  have increasing {r s : Nat} :
      Precision.single.value r ≤ Precision.single.value s ↔ (r : Int) ≤ s :=
    Precision.value_strictMono.le_iff_le.trans Nat.cast_le.symm
  have x_nonneg := value_nonneg (rank x)
  have y_nonneg := value_nonneg (rank y)
  rw [value, value, place, place, signed, signed]
  split_ifs with x_negative y_negative y_negative
  · rw [neg_le_neg_iff, neg_le_neg_iff, increasing]
  · exact iff_of_true (by linarith) (by omega)
  · constructor
    · intro le
      have x_zero : Precision.single.value (rank x) ≤ Precision.single.value 0 := by
        rw [Precision.value_zero]
        linarith
      have y_zero : Precision.single.value (rank y) ≤ Precision.single.value 0 := by
        rw [Precision.value_zero]
        linarith
      rw [increasing] at x_zero y_zero
      omega
    · intro le
      have x_zero : rank x = 0 := by omega
      have y_zero : rank y = 0 := by omega
      rw [x_zero, y_zero, Precision.value_zero, neg_zero]
  · exact increasing

theorem value_eq_of_beq {x y : Float32} (equal : (x == y) = true) : value x = value y := by
  obtain ⟨x_number, y_number⟩ := number_of_beq equal
  have same := (beq_iff_place x_number y_number).mp equal
  exact le_antisymm ((value_le_iff_place x y).mpr same.le) ((value_le_iff_place y x).mpr same.ge)

section Finite

variable {x y : Float32} (x_finite : x.isFinite = true) (y_finite : y.isFinite = true)

include x_finite in
theorem isNaN_of_isFinite : x.isNaN = false := by
  rw [isFinite_iff] at x_finite
  rw [← Bool.not_eq_true, isNaN_iff]
  exact x_finite.le.not_gt

include x_finite y_finite

/-- Finite numbers compare as the rational numbers do. -/
theorem le_iff_value : x ≤ y ↔ value x ≤ value y := by
  rw [le_iff_place (isNaN_of_isFinite x_finite) (isNaN_of_isFinite y_finite), value_le_iff_place]

theorem lt_iff_value : x < y ↔ value x < value y := by
  rw [lt_iff_place (isNaN_of_isFinite x_finite) (isNaN_of_isFinite y_finite), ← not_le, ← not_le,
    value_le_iff_place]

theorem beq_iff_value : (x == y) = true ↔ value x = value y := by
  rw [beq_iff_place (isNaN_of_isFinite x_finite) (isNaN_of_isFinite y_finite), le_antisymm_iff,
    le_antisymm_iff, value_le_iff_place, value_le_iff_place]

end Finite

theorem isFinite_of_abs_le {x y : Float32} (finite : y.isFinite = true)
    (le : |value x| ≤ |value y|) : x.isFinite = true := by
  rw [isFinite_iff] at finite ⊢
  rw [abs_value, abs_value] at le
  exact (Precision.value_strictMono.le_iff_le.mp le).trans_lt finite

/-! ## Rounding -/

theorem rounds_value {x : Float32} (finite : x.isFinite = true) : Rounds (value x) x where
  nearest := by
    rw [abs_value]
    exact Precision.nearest_value ((isFinite_iff x).mp finite).le
  negative less := by
    by_contra positive
    rw [value, if_neg positive] at less
    exact less.not_ge (value_nonneg _)
  positive more := by
    by_contra negative
    rw [value, if_pos (Bool.eq_true_of_not_eq_false negative)] at more
    exact more.not_ge (neg_nonpos.mpr (value_nonneg _))

namespace Rounds

variable {q r : ℚ} {x y : Float32}

theorem rank_of_zero (rounds : Rounds 0 x) : rank x = 0 := by
  have nearest := rounds.nearest
  rw [abs_zero, ← Precision.value_zero (p := .single)] at nearest
  exact nearest.unique (Precision.nearest_value (Nat.zero_le _))

theorem value_of_nonneg (rounds : Rounds q x) (nonneg : 0 ≤ q) :
    value x = Precision.single.value (rank x) := by
  rcases nonneg.lt_or_eq with positive | rfl
  · rw [value, rounds.positive positive]
    exact if_neg Bool.false_ne_true
  · rw [value, rounds.rank_of_zero, Precision.value_zero, neg_zero, ite_self]

theorem value_of_nonpos (rounds : Rounds q x) (nonpos : q ≤ 0) :
    value x = -Precision.single.value (rank x) := by
  rcases nonpos.lt_or_eq with negative | rfl
  · rw [value, rounds.negative negative]
    exact if_pos rfl
  · rw [value, rounds.rank_of_zero, Precision.value_zero, neg_zero, ite_self]

theorem mono (first : Rounds q x) (second : Rounds r y) (le : q ≤ r) : value x ≤ value y := by
  have x_nonneg := value_nonneg (rank x)
  have y_nonneg := value_nonneg (rank y)
  rcases le_total 0 q with q_nonneg | q_nonpos
  · have r_nonneg := q_nonneg.trans le
    have sizes : |q| ≤ |r| := by rwa [abs_of_nonneg q_nonneg, abs_of_nonneg r_nonneg]
    rw [first.value_of_nonneg q_nonneg, second.value_of_nonneg r_nonneg]
    exact Precision.value_strictMono.monotone (first.nearest.mono second.nearest sizes)
  · rw [first.value_of_nonpos q_nonpos]
    rcases le_total 0 r with r_nonneg | r_nonpos
    · rw [second.value_of_nonneg r_nonneg]
      linarith
    · have sizes : |r| ≤ |q| := by
        rw [abs_of_nonpos q_nonpos, abs_of_nonpos r_nonpos]
        linarith
      rw [second.value_of_nonpos r_nonpos]
      exact neg_le_neg
        (Precision.value_strictMono.monotone (second.nearest.mono first.nearest sizes))

theorem value_congr (first : Rounds q x) (second : Rounds q y) : value x = value y :=
  le_antisymm (first.mono second le_rfl) (second.mono first le_rfl)

theorem abs_mono (first : Rounds q x) (second : Rounds r y) (le : |q| ≤ |r|) :
    |value x| ≤ |value y| := by
  rw [abs_value, abs_value]
  exact Precision.value_strictMono.monotone (first.nearest.mono second.nearest le)

theorem value_nonneg (rounds : Rounds q x) (nonneg : 0 ≤ q) : 0 ≤ value x := by
  rw [rounds.value_of_nonneg nonneg]
  exact Single.value_nonneg _

theorem value_nonpos (rounds : Rounds q x) (nonpos : q ≤ 0) : value x ≤ 0 := by
  rw [rounds.value_of_nonpos nonpos]
  exact neg_nonpos.mpr (Single.value_nonneg _)

/-- Among the numbers on its side of zero, the one that is nearest is what a result rounds to. -/
theorem value_eq_iff (rounds : Rounds q x) (same_side : 0 ≤ q * value y) :
    value x = value y ↔ Precision.single.Nearest |q| (rank y) := by
  have ranks : |value x| = |value y| ↔ rank x = rank y := by
    rw [abs_value, abs_value]
    exact Precision.value_strictMono.injective.eq_iff
  have nearest : rank x = rank y ↔ Precision.single.Nearest |q| (rank y) :=
    ⟨fun same => same ▸ rounds.nearest, rounds.nearest.unique⟩
  rw [← nearest, ← ranks]
  refine ⟨congrArg _, fun sizes => ?_⟩
  rcases lt_trichotomy q 0 with less | rfl | more
  · have y_nonpos : value y ≤ 0 := nonpos_of_mul_nonneg_right same_side less
    rw [abs_of_nonpos (rounds.value_nonpos less.le), abs_of_nonpos y_nonpos] at sizes
    exact neg_injective sizes
  · rw [ranks, rounds.rank_of_zero] at sizes
    rw [value, value, rounds.rank_of_zero, ← sizes, Precision.value_zero, neg_zero, ite_self,
      ite_self]
  · have y_nonneg : 0 ≤ value y := nonneg_of_mul_nonneg_right same_side more
    rwa [abs_of_nonneg (rounds.value_nonneg more.le), abs_of_nonneg y_nonneg] at sizes

/-- Only what is halfway to the next number beyond the last rounds to an infinity. -/
theorem isFinite (rounds : Rounds q x)
    (below : |q| < Precision.single.middle (Precision.single.infinity - 1)) :
    x.isFinite = true := by
  have within := rounds.nearest.le_infinity
  have infinity_pos : 0 < Precision.single.infinity := by decide
  refine (isFinite_iff x).mpr (within.lt_of_ne fun infinite => ?_)
  rcases rounds.nearest.above (Precision.single.infinity - 1) (by omega) with above | ⟨tie, -⟩
  · exact below.not_gt above
  · exact below.ne' tie

/-- A number of a finite size rounds to a finite number, off by half a gap at that size at most. -/
theorem error (rounds : Rounds q x) (bound : Nat) (finite : bound < Precision.single.infinity)
    (within : |q| ≤ Precision.single.value bound) :
    x.isFinite = true ∧ |value x - q| ≤ Precision.single.gap bound / 2 := by
  have rank_le : rank x ≤ bound :=
    rounds.nearest.mono (Precision.nearest_value finite.le) within
  have gap_mono {s : Nat} (le : s ≤ bound) :
      Precision.single.gap s ≤ Precision.single.gap bound := by
    refine zpow_le_zpow_right₀ one_le_two ?_
    have levels := Nat.div_le_div_right (c := Precision.single.binade) le
    rw [Precision.exponent, Precision.exponent]
    omega
  have distance : |value x - q| = |Precision.single.value (rank x) - (|q|)| := by
    rcases le_total 0 q with nonneg | nonpos
    · rw [rounds.value_of_nonneg nonneg, abs_of_nonneg nonneg]
    · rw [rounds.value_of_nonpos nonpos, abs_of_nonpos nonpos, ← abs_neg]
      congr 1
      ring
  refine ⟨(isFinite_iff x).mpr (rank_le.trans_lt finite), ?_⟩
  rw [distance, abs_le]
  constructor
  · have high : |q| ≤ Precision.single.middle (rank x) := by
      rcases rounds.nearest.below (rank_le.trans_lt finite) with less | ⟨tie, -⟩
      · exact less.le
      · exact tie.le
    have gap_le := gap_mono rank_le
    rw [Precision.middle] at high
    linarith
  · rcases Nat.eq_zero_or_eq_succ_pred (rank x) with zero | successor
    · have gap_pos := Precision.gap_pos (p := .single) bound
      rw [zero, Precision.value_zero]
      linarith [abs_nonneg q]
    · set below := (rank x).pred
      have low : Precision.single.middle below ≤ |q| := by
        rcases rounds.nearest.above below successor with less | ⟨tie, -⟩
        · exact less.le
        · exact tie.le
      have gap_le := gap_mono (s := below) (by omega)
      rw [successor, Nat.succ_eq_add_one, Precision.value_add_one]
      rw [Precision.middle] at low
      linarith

theorem exact {r : Nat} (rounds : Rounds q x) (finite : r < Precision.single.infinity)
    (size : |q| = Precision.single.value r) : x.isFinite = true ∧ value x = q := by
  have rank_eq : rank x = r := by
    have nearest := rounds.nearest
    rw [size] at nearest
    exact nearest.unique (Precision.nearest_value finite.le)
  refine ⟨(isFinite_iff x).mpr (rank_eq ▸ finite), ?_⟩
  rcases le_total 0 q with nonneg | nonpos
  · rw [rounds.value_of_nonneg nonneg, rank_eq, ← size, abs_of_nonneg nonneg]
  · rw [rounds.value_of_nonpos nonpos, rank_eq, ← size, abs_of_nonpos nonpos, neg_neg]

/-- A number at most 32 rounds to one within `2 ^ (-19)`. -/
theorem close (rounds : Rounds q x) (within : |q| ≤ 32) :
    x.isFinite = true ∧ |value x - q| ≤ 1 / 2 ^ 19 := by
  have parts : Precision.single.significand 0x42000000 = 2 ^ 23 ∧
      Precision.single.exponent 0x42000000 = -18 := by
    decide
  have bound_eq : Precision.single.value 0x42000000 = 32 :=
    (value_of_parts parts).trans (by norm_num)
  have gap_eq : Precision.single.gap 0x42000000 / 2 = 1 / 2 ^ 19 := by
    rw [Precision.gap, parts.2]
    norm_num
  exact gap_eq ▸ rounds.error 0x42000000 (by decide) (bound_eq ▸ within)

end Rounds

/-! ## Short binary fractions -/

/-- A binary fraction of at most 24 digits. -/
def Short (q : ℚ) : Prop :=
  ∃ (n : Int) (e : Nat), n.natAbs ≤ 2 ^ 24 ∧ e ≤ 149 ∧ q = n / 2 ^ e

theorem short_intCast {n : Int} (small : n.natAbs ≤ 2 ^ 24) : Short n :=
  ⟨n, 0, small, Nat.zero_le _, by simp⟩

theorem short_zero : Short 0 :=
  short_intCast (n := 0) (by decide)

theorem short_one : Short 1 :=
  ⟨1, 0, by decide, by decide, by norm_num⟩

theorem Short.exists_rank {q : ℚ} (short : Short q) :
    ∃ r < Precision.single.infinity, |q| = Precision.single.value r := by
  obtain ⟨n, e, n_le, e_le, rfl⟩ := short
  have limit : Precision.single.value 0x4b800000 = 2 ^ 24 :=
    (@value_of_parts _ (2 ^ 23) 1 (by decide)).trans (by norm_num)
  have size : |(n / 2 ^ e : ℚ)| = n.natAbs * 2 ^ (-e : Int) := by
    rw [abs_div, abs_of_pos (show (0 : ℚ) < 2 ^ e by positivity), Nat.cast_natAbs, zpow_neg,
      zpow_natCast, Int.cast_abs, div_eq_mul_inv]
  obtain ⟨r, r_eq⟩ := Precision.exists_value (p := .single) (n := n.natAbs) (e := -e) n_le
    (show (-149 : Int) ≤ -e by omega)
  refine ⟨r, ?_, size.trans r_eq.symm⟩
  have small : Precision.single.value r ≤ Precision.single.value 0x4b800000 := by
    have n_le' : (n.natAbs : ℚ) ≤ 2 ^ 24 := by exact_mod_cast n_le
    have shrinks : (2 : ℚ) ^ (-e : Int) ≤ 1 := zpow_le_one_of_nonpos₀ one_le_two (by omega)
    rw [r_eq, limit]
    exact (mul_le_of_le_one_right (Nat.cast_nonneg _) shrinks).trans n_le'
  exact (Precision.value_strictMono.le_iff_le.mp small).trans_lt (by decide)

theorem Short.exists_rounds {q : ℚ} (short : Short q) : ∃ x, Rounds q x ∧ value x = q := by
  obtain ⟨r, finite, size⟩ := short.exists_rank
  obtain ⟨n, e, -, -, rfl⟩ := short
  have rounds := rounds_normalize n (-e) .positive
  have power : ((2 : ℚ) ^ e)⁻¹ = 2 ^ (-e : Int) := by rw [zpow_neg, zpow_natCast]
  rw [← power, ← div_eq_mul_inv] at rounds
  exact ⟨_, rounds, (rounds.exact finite size).2⟩

namespace Rounds

variable {q b : ℚ} {x : Float32}

/-- Rounding leaves a short fraction as it is. -/
theorem of_short (rounds : Rounds q x) (short : Short q) : x.isFinite = true ∧ value x = q := by
  obtain ⟨r, finite, size⟩ := short.exists_rank
  exact rounds.exact finite size

/-- Rounding does not pass a short fraction. -/
theorem value_le (rounds : Rounds q x) (short : Short b) (le : q ≤ b) : value x ≤ b := by
  obtain ⟨y, rounds_bound, y_eq⟩ := short.exists_rounds
  exact y_eq ▸ rounds.mono rounds_bound le

theorem le_value (rounds : Rounds q x) (short : Short b) (le : b ≤ q) : b ≤ value x := by
  obtain ⟨y, rounds_bound, y_eq⟩ := short.exists_rounds
  exact y_eq ▸ rounds_bound.mono rounds le

end Rounds

end Single
end TextureGraph
