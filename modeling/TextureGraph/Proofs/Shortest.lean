import TextureGraph.Number.Decimal
import TextureGraph.Proofs.SingleRank
import Mathlib.Tactic.LinearCombination

/-!
# Shortest decimals read back

The search for the fewest decimal digits always finds a decimal that rounds back to the number it
started from.  That decimal is next to the number on its grid, and its grid is not much finer than
the distance between neighbouring numbers, so it has at most ten digits.
-/

namespace TextureGraph
namespace Decimal

/-! ## Decimals as numbers -/

/-- The number of a decimal. -/
def value (d : Decimal) : ℚ :=
  d.digits * 10 ^ d.exponent

theorem value_of_whole {d : Decimal} (whole : 0 ≤ d.exponent) :
    d.value = (d.digits * 10 ^ d.exponent.toNat : Nat) := by
  obtain ⟨n, n_eq⟩ := Int.eq_ofNat_of_zero_le whole
  rw [value, n_eq, zpow_natCast, Int.toNat_natCast]
  push_cast
  rfl

theorem powerOfTen_eq (n : Nat) : (powerOfTen n : ℚ) = 10 ^ n := by
  rw [powerOfTen, Nat.pow_eq]
  push_cast
  rfl

theorem powerOfTen_pos (n : Nat) : 0 < powerOfTen n :=
  Nat.pow_pos (by decide)

theorem powerOfTen_div_powerOfTen (e : Int) :
    (powerOfTen e.toNat / powerOfTen (-e).toNat : ℚ) = 10 ^ e := by
  rw [powerOfTen_eq, powerOfTen_eq]
  rcases le_total 0 e with nonneg | nonpos
  · obtain ⟨n, rfl⟩ := Int.eq_ofNat_of_zero_le nonneg
    simp
  · obtain ⟨n, rfl⟩ : ∃ n : Nat, e = -n := ⟨e.natAbs, by omega⟩
    simp [zpow_neg]

theorem ratio_eq (d : Decimal) : (d.ratio.1 / d.ratio.2 : ℚ) = d.value := by
  rw [value, ← powerOfTen_div_powerOfTen]
  simp only [ratio]
  push_cast
  ring

/-- Exponents for which no power of ten is out of reach. -/
def InReach (exponent : Int) : Prop :=
  -400 ≤ exponent ∧ exponent ≤ 400

theorem inReach_of_bounds {exponent : Int} (low : -149 ≤ exponent) (high : exponent ≤ 40) :
    InReach exponent :=
  ⟨by omega, by omega⟩

/-- Rounding a decimal finds the nearest rank. -/
theorem nearest_rank {p : Precision} (even : p.binade % 2 = 0) {d : Decimal}
    (reach : InReach d.exponent) : p.Nearest d.value (d.rank p) := by
  obtain ⟨low, high⟩ := reach
  by_cases zero : d.digits = 0
  · rw [rank, if_pos zero, value, zero, Nat.cast_zero, zero_mul, ← Precision.value_zero]
    exact Precision.nearest_value (Nat.zero_le _)
  · have ratio_pos : 0 < d.ratio.2 := powerOfTen_pos _
    rw [rank, if_neg zero, if_neg (by omega), if_neg (by omega), ← ratio_eq]
    exact Precision.nearest_rank even ratio_pos

/-! ## Neighbours on a grid -/

section Grid

variable {tie : DecimalTie} {target num den : Nat} {exponent : Int}

theorem scaled_eq (num den : Nat) (exponent : Int) :
    ((num * powerOfTen (-exponent).toNat : Nat) / (den * powerOfTen exponent.toNat : Nat) : ℚ) =
      num / den / 10 ^ exponent := by
  rw [← powerOfTen_div_powerOfTen]
  push_cast
  rw [mul_div_mul_comm, div_div_eq_mul_div (num / den : ℚ), mul_div_assoc]

/-- The greatest step of a grid that does not exceed `num / den`. -/
def stepBelow (num den : Nat) (exponent : Int) : Nat :=
  num * powerOfTen (-exponent).toNat / (den * powerOfTen exponent.toNat)

theorem stepBelow_bounds (num : Nat) {den : Nat} (den_pos : 0 < den) (exponent : Int) :
    (⟨stepBelow num den exponent, exponent⟩ : Decimal).value ≤ num / den ∧
      (num / den : ℚ) < (⟨stepBelow num den exponent + 1, exponent⟩ : Decimal).value := by
  have step_pos : (0 : ℚ) < 10 ^ exponent := zpow_pos (by norm_num) _
  have scaledDen_pos : 0 < den * powerOfTen exponent.toNat := Nat.mul_pos den_pos (powerOfTen_pos _)
  have bounds :=
    Precision.cast_div_bounds (num * powerOfTen (-exponent).toNat) scaledDen_pos
  rw [scaled_eq] at bounds
  rw [value, value, ← le_div_iff₀ step_pos, ← div_lt_iff₀ step_pos]
  push_cast
  exact bounds

theorem onGrid?_eq_some {digits : Nat}
    (found : onGrid? tie target num den exponent = some digits) :
    rank .single ⟨digits, exponent⟩ = target ∧
      (digits = stepBelow num den exponent ∨ digits = stepBelow num den exponent + 1) := by
  simp only [onGrid?] at found
  split_ifs at found with below_fits above_fits
  · cases found
    exact ⟨below_fits.1, .inl rfl⟩
  · cases found
    exact ⟨above_fits, .inr rfl⟩

theorem onGrid?_eq_none (missing : onGrid? tie target num den exponent = none) :
    rank .single ⟨stepBelow num den exponent, exponent⟩ ≠ target ∧
      rank .single ⟨stepBelow num den exponent + 1, exponent⟩ ≠ target := by
  simp only [onGrid?] at missing
  split_ifs at missing with below_fits above_fits
  exact ⟨fun fits => below_fits ⟨fits, fun preferred => above_fits preferred.1⟩, above_fits⟩

/-- If some grid within the search has a neighbour that fits, the search stops at the first one. -/
theorem search_spec {grids : Nat} {last : Int} (last_le : last ≤ exponent)
    (within : exponent - grids < last)
    (fits : onGrid? tie target num den last ≠ none) :
    ∃ found : Decimal, search tie target num den grids exponent = found ∧
      onGrid? tie target num den found.exponent = some found.digits ∧
      last ≤ found.exponent ∧ found.exponent ≤ exponent ∧
      (found.exponent = exponent ∨
        onGrid? tie target num den (found.exponent + 1) = none) := by
  induction grids generalizing exponent with
  | zero => exact absurd within (by simpa using last_le)
  | succ grids induction =>
      cases here : onGrid? tie target num den exponent with
      | some digits =>
          refine ⟨⟨digits, exponent⟩, ?_, here, last_le, le_rfl, .inl rfl⟩
          rw [search, here]
      | none =>
          have coarser : last ≠ exponent := by
            rintro rfl
            exact fits here
          obtain ⟨found, search_eq, fits_found, low, high, first⟩ :=
            @induction (exponent - 1) (by omega) (by push_cast at within; omega)
          refine ⟨found, ?_, fits_found, low, by omega, .inr ?_⟩
          · rw [search, here, ← search_eq]
          · rcases first with at_start | missed
            · rwa [at_start, Int.sub_add_cancel]
            · exact missed

end Grid

/-! ## The shortest decimal -/

/-- A decimal that reads back as the single-precision number of a rank, lies next to it on a grid,
and this grid is at most ten times finer than needed. -/
structure ReadsBack (target : Nat) (d : Decimal) : Prop where
  rank_eq : d.rank .single = target
  above : d.value ≤ Precision.single.value target + 10 ^ d.exponent
  below : Precision.single.value target ≤ d.value + 10 ^ d.exponent
  coarse : (2 : ℚ) ^ (Precision.single.exponent target - 1) ≤ 10 ^ (d.exponent + 1)
  exponent_low : -149 ≤ d.exponent
  exponent_high : d.exponent ≤ 39

section Shortest

variable {target : Nat}

theorem ReadsBack.digits_pos {d : Decimal} (back : ReadsBack target d) (positive : 0 < target) :
    0 < d.digits := by
  rcases Nat.eq_zero_or_pos d.digits with zero | digits_pos
  · have rank_eq := back.rank_eq
    rw [rank, if_pos zero] at rank_eq
    omega
  · exact digits_pos

theorem ReadsBack.rank_whole {d : Decimal} (back : ReadsBack target d) (whole : 0 ≤ d.exponent) :
    rank .single ⟨d.digits * 10 ^ d.exponent.toNat * 10, -1⟩ = target := by
  have value_eq : (⟨d.digits * 10 ^ d.exponent.toNat * 10, -1⟩ : Decimal).value = d.value := by
    rw [value_of_whole whole, value]
    push_cast
    ring
  have high := back.exponent_high
  have tenths_in_reach : InReach (-1) := inReach_of_bounds (by decide) (by decide)
  have nearest_written := nearest_rank (d := ⟨d.digits * 10 ^ d.exponent.toNat * 10, -1⟩)
    Single.even_single tenths_in_reach
  have nearest := nearest_rank (d := d) Single.even_single
    (inReach_of_bounds back.exponent_low (by omega))
  rw [value_eq] at nearest_written
  rw [nearest_written.unique nearest, back.rank_eq]

theorem exponent_bounds (target : Nat) (finite : target < Precision.single.infinity) :
    -149 ≤ Precision.single.exponent target ∧ Precision.single.exponent target ≤ 104 := by
  have bound : target < 2139095040 := finite
  have exponent_eq : Precision.single.exponent target = -149 + (target / 8388608 - 1 : Nat) := rfl
  omega

theorem exists_multiple (target : Nat) :
    ∃ n : Nat, Precision.single.value target = n * 10 ^ (-149 : Int) := by
  have low : (-149 : Int) ≤ Precision.single.exponent target := by
    simp only [Precision.exponent, Precision.single]
    omega
  obtain ⟨level, level_eq⟩ : ∃ level : Nat, Precision.single.exponent target = level - 149 :=
    ⟨(Precision.single.exponent target + 149).toNat, by omega⟩
  refine ⟨Precision.single.significand target * 2 ^ level * 5 ^ 149, ?_⟩
  have ten : (10 : ℚ) ^ (-149 : Int) = 2 ^ (-149 : Int) * 5 ^ (-149 : Int) := by
    rw [← mul_zpow]
    norm_num
  have five : (5 : ℚ) ^ 149 * 5 ^ (-149 : Int) = 1 := by norm_num
  rw [Precision.value, level_eq, sub_eq_add_neg, zpow_add₀ two_ne_zero, ten, zpow_natCast]
  push_cast
  linear_combination
    (-(Precision.single.significand target : ℚ) * 2 ^ level * 2 ^ (-149 : Int)) * five

/-- The grid at which the search starts. -/
def startExponent (binary : Int) : Int :=
  binary * 30103 / 100000 + 1

theorem startExponent_bounds {binary : Int} (low : -148 ≤ binary) (high : binary ≤ 128) :
    -44 ≤ startExponent binary ∧ startExponent binary ≤ 39 := by
  rw [startExponent]
  omega

theorem two_zpow_le_startExponent {binary : Int} (low : -148 ≤ binary) (high : binary ≤ 128) :
    (2 : ℚ) ^ binary ≤ 10 ^ (startExponent binary + 1) := by
  have checked : ∀ n : Nat, n < 277 →
      2 ^ ((n : Int) - 148).toNat * 10 ^ (-(startExponent (n - 148) + 1)).toNat ≤
        10 ^ (startExponent (n - 148) + 1).toNat * 2 ^ (-((n : Int) - 148)).toNat := by
    decide +kernel
  have holds := checked (binary + 148).toNat (by omega)
  rw [show (((binary + 148).toNat : Nat) : Int) - 148 = binary by omega] at holds
  have cast_le : (2 : ℚ) ^ binary.toNat * 10 ^ (-(startExponent binary + 1)).toNat ≤
      10 ^ (startExponent binary + 1).toNat * 2 ^ (-binary).toNat := by
    exact_mod_cast holds
  have two_eq : (2 : ℚ) ^ binary = 2 ^ binary.toNat / 2 ^ (-binary).toNat := by
    have := shiftLeft_div_shiftLeft 1 1 (-binary)
    simpa [Nat.shiftLeft_eq, zpow_neg] using this.symm
  rw [two_eq, ← powerOfTen_div_powerOfTen, powerOfTen_eq, powerOfTen_eq,
    div_le_div_iff₀ (by positivity) (by positivity)]
  exact cast_le

theorem rank_eq_of_between {d : Decimal} (reach : InReach d.exponent)
    (finite : target < Precision.single.infinity)
    (low : Precision.single.value target ≤ d.value)
    (high : d.value < Precision.single.middle target) : d.rank .single = target := by
  refine (nearest_rank Single.even_single reach).unique ⟨finite.le, ?_, fun _ => .inl high⟩
  rintro below rfl
  exact .inl ((Precision.middle_lt_value below).trans_le low)

section Ratio

variable {tie : DecimalTie} {num den : Nat} (den_pos : 0 < den)
  (finite : target < Precision.single.infinity)
  (ratio_eq : (num / den : ℚ) = Precision.single.value target)

include den_pos finite ratio_eq

theorem onGrid?_finest : onGrid? tie target num den (-149) ≠ none := by
  intro missing
  obtain ⟨n, multiple⟩ := exists_multiple target
  obtain ⟨low, high⟩ := stepBelow_bounds num den_pos (-149)
  have step_pos : (0 : ℚ) < 10 ^ (-149 : Int) := zpow_pos (by norm_num) _
  rw [ratio_eq, multiple, value] at low high
  have step_le : stepBelow num den (-149) ≤ n := by
    exact_mod_cast (mul_le_mul_iff_left₀ step_pos).mp low
  have lt_step : n < stepBelow num den (-149) + 1 := by
    exact_mod_cast (mul_lt_mul_iff_left₀ step_pos).mp high
  have value_eq : (⟨stepBelow num den (-149), -149⟩ : Decimal).value =
      Precision.single.value target := by
    rw [value, multiple, show stepBelow num den (-149) = n by omega]
  have reach : InReach (-149) := inReach_of_bounds (by omega) (by omega)
  refine (onGrid?_eq_none missing).1 (rank_eq_of_between reach finite value_eq.ge ?_)
  exact value_eq.trans_lt (Precision.value_lt_middle target)

/-- A grid without a neighbour that reads back has steps of at least half a gap, since otherwise the
step above the number would read back. -/
theorem coarse_of_missed {exponent : Int} (reach : InReach exponent)
    (missed : onGrid? tie target num den exponent = none) :
    (2 : ℚ) ^ (Precision.single.exponent target - 1) ≤ 10 ^ exponent := by
  by_contra! short
  obtain ⟨low, high⟩ := stepBelow_bounds num den_pos exponent
  rw [ratio_eq] at low high
  refine (onGrid?_eq_none missed).2 (rank_eq_of_between reach finite high.le ?_)
  rw [zpow_sub_one₀ two_ne_zero] at short
  rw [Precision.middle, Precision.gap]
  simp only [value] at low ⊢
  push_cast
  linarith

end Ratio

theorem near_of_neighbour {digits num den : Nat} {exponent : Int} (den_pos : 0 < den)
    (neighbour : digits = stepBelow num den exponent ∨ digits = stepBelow num den exponent + 1) :
    (⟨digits, exponent⟩ : Decimal).value ≤ num / den + 10 ^ exponent ∧
      (num / den : ℚ) ≤ (⟨digits, exponent⟩ : Decimal).value + 10 ^ exponent := by
  obtain ⟨low, high⟩ := stepBelow_bounds num den_pos exponent
  have step_pos : (0 : ℚ) < 10 ^ exponent := zpow_pos (by norm_num) _
  simp only [value] at low high ⊢
  push_cast at high
  rcases neighbour with rfl | rfl <;> push_cast <;> constructor <;> linarith

/-- The shortest decimal reads back. -/
theorem shortest_readsBack (tie : DecimalTie) (target : Nat)
    (finite : target < Precision.single.infinity) : ReadsBack target (shortest tie target) := by
  have ratio_eq := binaryRatio_eq (Precision.single.significand target)
    (Precision.single.exponent target)
  have den_pos := binaryRatio_snd_pos (Precision.single.significand target)
    (Precision.single.exponent target)
  rw [← Precision.value] at ratio_eq
  obtain ⟨exponent_low, exponent_high⟩ := exponent_bounds target finite
  have log_lt : (Precision.single.significand target).log2 < 24 := by
    rcases Nat.eq_zero_or_pos (Precision.single.significand target) with zero | positive
    · simp [zero]
    · exact (Nat.log2_lt positive.ne').mpr (Precision.significand_lt target)
  set binary : Int :=
    ((Precision.single.significand target).log2 : Int) + 1 + Precision.single.exponent target
  have binary_low : -148 ≤ binary := by omega
  have binary_high : binary ≤ 128 := by omega
  obtain ⟨start_low, start_high⟩ := startExponent_bounds binary_low binary_high
  have shortest_eq : shortest tie target = search tie target
      (binaryRatio (Precision.single.significand target) (Precision.single.exponent target)).1
      (binaryRatio (Precision.single.significand target) (Precision.single.exponent target)).2
      (startExponent binary + 150).toNat (startExponent binary) := rfl
  generalize binaryRatio (Precision.single.significand target) (Precision.single.exponent target) =
    ratio at *
  have last_le : (-149 : Int) ≤ startExponent binary := by omega
  have within : startExponent binary - (startExponent binary + 150).toNat < (-149 : Int) := by omega
  obtain ⟨found, search_eq, fits, low, high, first⟩ :=
    search_spec last_le within (onGrid?_finest den_pos finite ratio_eq)
  obtain ⟨rank_eq, neighbour⟩ := onGrid?_eq_some fits
  obtain ⟨above, below⟩ := near_of_neighbour den_pos neighbour
  rw [ratio_eq] at above below
  rw [shortest_eq, search_eq]
  refine ⟨rank_eq, above, below, ?_, by omega, by omega⟩
  rcases first with at_start | missed
  · rw [at_start]
    have order : Precision.single.exponent target - 1 ≤ binary := by omega
    exact (zpow_le_zpow_right₀ one_le_two order).trans
      (two_zpow_le_startExponent binary_low binary_high)
  · exact coarse_of_missed den_pos finite ratio_eq (inReach_of_bounds (by omega) (by omega)) missed

end Shortest
end Decimal
end TextureGraph
