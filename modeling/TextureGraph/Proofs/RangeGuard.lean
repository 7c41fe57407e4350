import TextureGraph.Operation.Catalogue
import TextureGraph.Operation.Formula
import TextureGraph.Proofs.Reachable
import TextureGraph.Proofs.Single.Arithmetic

/-!
# The guard of a nearly empty range

A range that is nearly empty is given the length one before it is divided by.  Its upper end becomes
the lower one plus one, rounded, and that is the lower end again for multiples of four of size
`2 ^ 24` or more, other than `-2 ^ 24`.  An empty range there, and no other range, leads to a
division by zero.
-/

namespace TextureGraph

open Single (near_one near_tenThousandth near_zero rank value)

/-! ## Adding one -/

/-- One is added to the number without effect, for it is no more than half the distance to the next
number. -/
def AbsorbsOne (q : ℚ) : Prop :=
  2 ^ 24 ≤ |q| ∧ q ≠ -2 ^ 24 ∧ ∃ n : Int, q = 4 * n

theorem one_within_half_gap_iff {r : Nat} (large : 2 ^ 24 ≤ Precision.single.value r)
    (steps : Nat) :
    (1 < Precision.single.gap r / 2 ∨ 1 = Precision.single.gap r / 2 ∧ (r + steps) % 2 = 0) ↔
      ∃ n : Int, Precision.single.value r + steps * Precision.single.gap r = 4 * n := by
  obtain ⟨digits, -⟩ := Precision.level_add_significand (p := .single) r
  have binade : Precision.single.binade = 2 ^ 23 := rfl
  rw [binade] at digits
  have coarse := Single.exponent_of_value (k := 24) (by exact_mod_cast large)
  obtain ⟨e, e_eq⟩ : ∃ e : Nat, Precision.single.exponent r = e + 1 :=
    ⟨(Precision.single.exponent r - 1).toNat, by omega⟩
  have gap_eq : Precision.single.gap r = 2 * 2 ^ e := by
    rw [Precision.gap, e_eq]
    exact_mod_cast pow_succ' (2 : ℚ) e
  have value_eq : Precision.single.value r + steps * Precision.single.gap r =
      (Precision.single.significand r + steps : Nat) * (2 * 2 ^ e) := by
    rw [← gap_eq, Precision.value, Precision.gap]
    push_cast
    ring
  have parity : (r + steps) % 2 = (Precision.single.significand r + steps) % 2 := by omega
  rw [value_eq, gap_eq, parity, mul_div_cancel_left₀ _ (two_ne_zero' ℚ)]
  generalize Precision.single.significand r + steps = m
  -- Just above `2 ^ 24` half a gap is one, and the multiples of four are those of even rank; further
  -- up it is more than one, and all numbers are multiples of four.
  cases e with
  | zero =>
      constructor
      · rintro (more | ⟨-, even⟩)
        · exact absurd more (by norm_num)
        · refine ⟨(m / 2 : Nat), ?_⟩
          have halves : (m : ℚ) = 2 * (m / 2 : Nat) := by
            exact_mod_cast (show m = 2 * (m / 2) by omega)
          rw [Int.cast_natCast]
          linarith
      · rintro ⟨n, multiple⟩
        have halves : (m : Int) = 2 * n := by
          have : (m : ℚ) = 2 * n := by linarith
          exact_mod_cast this
        exact .inr ⟨by norm_num, by omega⟩
  | succ e =>
      have doubled : (1 : ℚ) < 2 ^ (e + 1) := one_lt_pow₀ one_lt_two (Nat.succ_ne_zero e)
      refine iff_of_true (.inl doubled) ⟨m * 2 ^ e, ?_⟩
      push_cast
      ring

theorem nearest_add_one_iff {r : Nat} (finite : r < Precision.single.infinity)
    (large : 2 ^ 24 ≤ Precision.single.value r) :
    Precision.single.Nearest (Precision.single.value r + 1) r ↔
      ∃ n : Int, Precision.single.value r = 4 * n := by
  have multiple := one_within_half_gap_iff large 0
  rw [Nat.cast_zero, zero_mul, add_zero, add_zero] at multiple
  exact (Precision.nearest_value_add_iff finite zero_le_one).trans multiple

theorem nearest_sub_one_iff {r : Nat} (finite : r < Precision.single.infinity)
    (large : 2 ^ 24 < Precision.single.value r) :
    Precision.single.Nearest (Precision.single.value r - 1) r ↔
      ∃ n : Int, Precision.single.value r = 4 * n := by
  have limit : Precision.single.value 0x4b800000 = 2 ^ 24 :=
    (@Single.value_of_parts _ (2 ^ 23) 1 (by decide)).trans (by norm_num)
  rw [← limit] at large
  have reached := Precision.value_strictMono.lt_iff_lt.mp large
  obtain ⟨below, rfl⟩ : ∃ below, r = below + 1 := Nat.exists_eq_succ_of_ne_zero (by omega)
  have large_below : 2 ^ 24 ≤ Precision.single.value below :=
    limit.symm.trans_le (Precision.value_strictMono.monotone (Nat.le_of_lt_succ reached))
  have multiple := one_within_half_gap_iff large_below 1
  rw [Nat.cast_one, one_mul, ← Precision.value_add_one] at multiple
  exact (Precision.nearest_value_sub_iff (by omega) zero_le_one).trans multiple

theorem value_add_one_eq_iff {x : Float32} (finite : x.isFinite = true) :
    value (x + 1.0) = value x ↔ AbsorbsOne (value x) := by
  have rounds := near_one.add_exact finite
  have rank_lt := (Single.isFinite_iff x).mp finite
  have size := Single.abs_value x
  rcases lt_or_ge (value x) (-2 ^ 24) with low | above
  · have same_side : 0 ≤ (value x + 1) * value x := by nlinarith
    rw [abs_of_neg (by linarith)] at size
    have shrunk : |value x + 1| = Precision.single.value (rank x) - 1 := by
      rw [← size, abs_of_neg (by linarith)]
      ring
    rw [rounds.value_eq_iff same_side, shrunk, nearest_sub_one_iff rank_lt (by linarith), ← size]
    constructor
    · rintro ⟨n, n_eq⟩
      refine ⟨le_abs.mpr (.inr (by linarith)), by linarith, -n, ?_⟩
      push_cast
      linarith
    · rintro ⟨-, -, n, n_eq⟩
      refine ⟨-n, ?_⟩
      push_cast
      linarith
  rcases lt_or_ge (value x) (2 ^ 24) with moderate | high
  · -- The next whole number lies between the number and its sum with one.
    refine iff_of_false ?_ ?_
    · have short : Single.Short (⌊value x⌋ + 1 : Int) := by
        have floor_low : -2 ^ 24 ≤ ⌊value x⌋ := Int.le_floor.mpr (by exact_mod_cast above)
        have floor_high : ⌊value x⌋ < 2 ^ 24 := Int.floor_lt.mpr (by exact_mod_cast moderate)
        exact Single.short_intCast (by omega)
      have passed := rounds.le_value short (by
        push_cast
        linarith [Int.floor_le (value x)])
      have next := Int.lt_floor_add_one (value x)
      push_cast at passed
      exact (next.trans_le passed).ne'
    · rintro ⟨large, apart, -⟩
      rcases le_abs.mp large with high | low
      · exact moderate.not_ge high
      · exact apart (le_antisymm (by linarith) above)
  · have same_side : 0 ≤ (value x + 1) * value x := by nlinarith
    rw [abs_of_pos (by linarith)] at size
    have grown : |value x + 1| = Precision.single.value (rank x) + 1 := by
      rw [← size, abs_of_pos (by linarith)]
    rw [rounds.value_eq_iff same_side, grown, nearest_add_one_iff rank_lt (by linarith), ← size]
    exact ⟨fun multiple => ⟨high.trans (le_abs_self _), by linarith, multiple⟩,
      fun absorbs => absorbs.2.2⟩

/-! ## Nearly empty ranges -/

theorem one_le_abs_sub {low high : Float32} (large : 2 ^ 24 ≤ |value low|)
    (apart : value high ≠ value low) : 1 ≤ |value high - value low| := by
  rcases lt_or_ge |value high| (2 ^ 23) with small | large_high
  · have difference := abs_sub_abs_le_abs_sub (value low) (value high)
    rw [abs_sub_comm] at difference
    linarith
  · rw [Single.abs_value] at large large_high
    have low_whole := Single.exponent_of_value (k := 24) (by exact_mod_cast large)
    have high_whole := Single.exponent_of_value (k := 23) (by exact_mod_cast large_high)
    obtain ⟨m, m_eq⟩ := Single.exists_multiple (x := low) (k := 0) (by omega)
    obtain ⟨n, n_eq⟩ := Single.exists_multiple (x := high) (k := 0) (by omega)
    rw [zpow_zero, mul_one] at m_eq n_eq
    rw [m_eq, n_eq] at apart ⊢
    have distinct : n - m ≠ 0 := sub_ne_zero.mpr fun same => apart (congrArg _ same)
    exact_mod_cast Int.one_le_abs distinct

section Range

variable {low high : Float32} (low_finite : low.isFinite = true)
  (high_finite : high.isFinite = true)
include low_finite high_finite

theorem nearly_empty_of_eq (same : value high = value low) : (high - low).abs < 1e-4 := by
  have rounds := Single.rounds_sub high_finite low_finite
  rw [same, sub_self] at rounds
  obtain ⟨finite, value_eq⟩ := rounds.of_short Single.short_zero
  obtain ⟨abs_finite, abs_eq⟩ := Single.value_abs finite
  rw [near_tenThousandth.lt_iff abs_finite, abs_eq, value_eq, abs_zero]
  norm_num

theorem eq_of_nearly_empty (large : 2 ^ 24 ≤ |value low|) (empty : (high - low).abs < 1e-4) :
    value high = value low := by
  by_contra apart
  have finite := Single.isFinite_of_abs_lt near_tenThousandth.finite empty
  obtain ⟨abs_finite, abs_eq⟩ := Single.value_abs finite
  have one_le := one_le_abs_sub large apart
  have computed := (Single.rounds_value near_one.finite).abs_mono
    (Single.rounds_sub high_finite low_finite) (by rwa [near_one.value_eq, abs_one])
  rw [near_one.value_eq, abs_one] at computed
  rw [near_tenThousandth.lt_iff abs_finite, abs_eq] at empty
  have small : (13743895 / 2 ^ 37 : ℚ) < 1 := by norm_num
  linarith

/-- A range is divided by zero after its guard exactly if it is empty at a number that absorbs
one. -/
theorem rangeEnd_sub_beq_zero_iff :
    (Operation.rangeEnd low high - low == 0.0) = true ↔
      value high = value low ∧ AbsorbsOne (value low) := by
  have raised_finite : (low + 1.0).isFinite = true :=
    Single.isFinite_add_of_small low_finite near_one.finite
      (.inr (by rw [near_one.value_eq, abs_one]))
  rw [Operation.rangeEnd]
  split_ifs with empty
  · rw [Single.sub_beq_zero_iff raised_finite low_finite, value_add_one_eq_iff low_finite]
    exact ⟨fun absorbs => ⟨eq_of_nearly_empty low_finite high_finite absorbs.1 empty, absorbs⟩,
      And.right⟩
  · rw [Single.sub_beq_zero_iff high_finite low_finite]
    have apart (same : value high = value low) : False :=
      empty (nearly_empty_of_eq low_finite high_finite same)
    exact ⟨fun same => (apart same).elim, fun both => (apart both.1).elim⟩

end Range

/-! ## Remapping -/

/-- An input gives a finite number. -/
structure Inputs.ReadsFinite (inputs : Inputs) (pin : UInt64) (x : Float32) : Prop where
  read : inputs.float pin = .ok x
  finite : x.isFinite = true

namespace Operation

/-- Remapping divides by the length of its guarded range.  For finite inputs that length is zero
exactly if the range is empty at a number that absorbs one, and then the level is not finite. -/
theorem remap_divides_by_zero_iff {inputs : Inputs} {x low high targetLow targetHigh : Float32}
    (x_read : inputs.ReadsFinite 0 x) (low_read : inputs.ReadsFinite 1 low)
    (high_read : inputs.ReadsFinite 2 high) (targetLow_read : inputs.ReadsFinite 3 targetLow)
    (targetHigh_read : inputs.ReadsFinite 4 targetHigh) (outputPin : UInt64) :
    ∃ divisor level : Float32,
      divisor = rangeEnd low high - low ∧
        level = targetLow + (x - low) / divisor * (targetHigh - targetLow) ∧
        remap.color inputs outputPin = .ok (Color.gray level) ∧
        ((divisor == 0.0) = true ↔ value high = value low ∧ AbsorbsOne (value low)) ∧
        ((divisor == 0.0) = true → level.isFinite = false) := by
  refine ⟨_, _, rfl, rfl, ?_, rangeEnd_sub_beq_zero_iff low_read.finite high_read.finite, ?_⟩
  · simp only [color, x_read.read, low_read.read, high_read.read, targetLow_read.read,
      targetHigh_read.read]
    rfl
  · intro zero
    have divisor_eq := (Single.value_eq_of_beq zero).trans near_zero.value_eq
    exact Single.not_finite_add (Single.not_finite_mul (Single.not_finite_div_zero divisor_eq))

/-- Inputs of a range that is empty at a number, which is also the one to be remapped. -/
def emptyRange (low : Float32) : Inputs where
  node := ⟨⟨1⟩, "Remap", ⟨0.0, 0.0⟩, [], []⟩
  sample := ⟨0.0, 0.0⟩
  settings := ⟨256, 256⟩
  isConnected _ := false
  resolve pin _ := .ok (some (.float (if pin < 3 then low else if pin = 3 then 10.0 else 20.0)))

/-- The guard still works for the number `-2 ^ 24`. -/
theorem remap_divides_by_zero_iff_emptyRange :
    ∃ level : Float32,
      remap.color (emptyRange (-16777216.0)) 0 = .ok (Color.gray level) ∧
        ¬(rangeEnd (-16777216.0) (-16777216.0) - -16777216.0 == 0.0) = true := by
  obtain ⟨finite, value_eq⟩ := Single.value_of_content
    (show Single.content (-16777216.0) = .finite true (2 ^ 23) 1 by decide +kernel)
  have reads (pin : UInt64) (below : pin < 3) :
      (emptyRange (-16777216.0)).ReadsFinite pin (-16777216.0) := by
    refine ⟨?_, finite⟩
    rw [Inputs.float]
    simp only [emptyRange, if_pos below]
    rfl
  obtain ⟨_, level, rfl, -, color_eq, zero_iff, -⟩ := remap_divides_by_zero_iff
    (reads 0 (by decide)) (reads 1 (by decide)) (reads 2 (by decide))
    ⟨rfl, by decide +kernel⟩ ⟨rfl, by decide +kernel⟩ 0
  refine ⟨level, color_eq, fun zero => (zero_iff.mp zero).2.2.1 ?_⟩
  rw [value_eq]
  norm_num [Single.signed]

/-- A node with a huge empty range. -/
def hugeEmptyRange : Graph :=
  Graph.empty.afterEdits .builtin
    [.addNode "Remap" ⟨0.0, 0.0⟩, .setInputDefault ⟨1⟩ 0 (.float 1e8),
      .setInputDefault ⟨1⟩ 1 (.float 1e8), .setInputDefault ⟨1⟩ 2 (.float 1e8),
      .setInputDefault ⟨1⟩ 3 (.float 10.0), .setInputDefault ⟨1⟩ 4 (.float 20.0)]

theorem hugeEmptyRange_divides_by_zero :
    (1e8 : Float32).isFinite = true ∧ (10.0 : Float32).isFinite = true ∧
      (20.0 : Float32).isFinite = true ∧ (rangeEnd 1e8 1e8 - 1e8 == 0.0) = true ∧
      (Evaluator.builtin ⟨256, 256⟩).evaluate hugeEmptyRange ⟨1⟩ 0 ⟨0.0, 0.0⟩ =
        .ok (.color (Color.gray Single.nan)) := by
  decide +kernel

end Operation
end TextureGraph
