import TextureGraph.Number.Rounding
import Mathlib.Algebra.Order.Field.Power
import Mathlib.Data.Rat.Floor
import Mathlib.Tactic.FieldSimp
import Mathlib.Tactic.Linarith
import Mathlib.Tactic.NormNum
import Mathlib.Tactic.Positivity
import Mathlib.Tactic.Ring

/-!
# Ranks as numbers

`Precision.value` is the number of a rank, and `Precision.Nearest` says that a rank is that of the
nearest number of the format, a tie going to the even rank.  At most one rank is nearest, and
`Precision.rank` finds it, so everything else about rounding follows from where a number lies among
the middles between neighbours.
-/

namespace TextureGraph

theorem shiftLeft_div_shiftLeft (num den : Nat) (e : Int) :
    ((num <<< (-e).toNat : Nat) : ℚ) / ((den <<< e.toNat : Nat) : ℚ) = num / den / 2 ^ e := by
  rw [Nat.shiftLeft_eq, Nat.shiftLeft_eq]
  push_cast
  rcases le_total 0 e with nonneg | nonpos
  · obtain ⟨n, rfl⟩ := Int.eq_ofNat_of_zero_le nonneg
    simp [div_div]
  · obtain ⟨n, rfl⟩ : ∃ n : Nat, e = -n := ⟨e.natAbs, by omega⟩
    simp [zpow_neg, mul_div_right_comm]

theorem binaryRatio_eq (significand : Nat) (exponent : Int) :
    ((binaryRatio significand exponent).1 : ℚ) / (binaryRatio significand exponent).2 =
      significand * 2 ^ exponent := by
  have shifted := shiftLeft_div_shiftLeft significand 1 (-exponent)
  rw [neg_neg] at shifted
  rw [binaryRatio, shifted, zpow_neg]
  simp

theorem binaryRatio_snd_pos (significand : Nat) (exponent : Int) :
    0 < (binaryRatio significand exponent).2 := by
  simp [binaryRatio, Nat.shiftLeft_eq]

theorem quotientLog2_spec {num den : Nat} (num_pos : 0 < num) (den_pos : 0 < den) :
    (2 : ℚ) ^ quotientLog2 num den ≤ num / den ∧
      (num / den : ℚ) < 2 ^ (quotientLog2 num den + 1) := by
  have den_pos' : (0 : ℚ) < den := by exact_mod_cast den_pos
  have num_low : (2 : ℚ) ^ (num.log2 : Int) ≤ num := by
    rw [zpow_natCast]
    exact_mod_cast Nat.log2_self_le num_pos.ne'
  have num_high : (num : ℚ) < 2 ^ (num.log2 + 1 : Int) := by
    have below : num < 2 ^ (num.log2 + 1) := Nat.lt_log2_self
    exact_mod_cast below
  have den_low : (2 : ℚ) ^ (den.log2 : Int) ≤ den := by
    rw [zpow_natCast]
    exact_mod_cast Nat.log2_self_le den_pos.ne'
  have den_high : (den : ℚ) < 2 ^ (den.log2 + 1 : Int) := by
    have below : den < 2 ^ (den.log2 + 1) := Nat.lt_log2_self
    exact_mod_cast below
  have two_ne : (2 : ℚ) ≠ 0 := two_ne_zero
  set guess : Int := (num.log2 : Int) - den.log2 with guess_eq
  have above_half : (2 : ℚ) ^ (guess - 1) ≤ num / den := by
    rw [le_div_iff₀ den_pos']
    calc (2 : ℚ) ^ (guess - 1) * den ≤ 2 ^ (guess - 1) * 2 ^ (den.log2 + 1 : Int) := by gcongr
      _ = 2 ^ (num.log2 : Int) := by rw [← zpow_add₀ two_ne, guess_eq]; congr 1; ring
      _ ≤ num := num_low
  have below_double : (num / den : ℚ) < 2 ^ (guess + 1) := by
    rw [div_lt_iff₀ den_pos']
    calc (num : ℚ) < 2 ^ (num.log2 + 1 : Int) := num_high
      _ = 2 ^ (guess + 1) * 2 ^ (den.log2 : Int) := by
        rw [← zpow_add₀ two_ne, guess_eq]; congr 1; ring
      _ ≤ 2 ^ (guess + 1) * den := by gcongr
  have guess_too_high :
      num <<< (-guess).toNat < den <<< guess.toNat ↔ (num / den : ℚ) < 2 ^ guess := by
    have shifted_pos : (0 : ℚ) < (den <<< guess.toNat : Nat) := by
      rw [Nat.shiftLeft_eq]
      positivity
    have power_pos : (0 : ℚ) < 2 ^ guess := zpow_pos two_pos guess
    rw [← div_lt_one power_pos, ← shiftLeft_div_shiftLeft, div_lt_one shifted_pos]
    exact Nat.cast_lt.symm
  rw [quotientLog2]
  simp only [← guess_eq]
  split_ifs with high
  · exact ⟨above_half, by simpa using guess_too_high.mp high⟩
  · exact ⟨not_lt.mp fun low => high (guess_too_high.mpr low), below_double⟩

namespace Precision

variable {p : Precision}

/-! ## Values of ranks -/

/-- The number of a finite rank. -/
def value (p : Precision) (rank : Nat) : ℚ :=
  p.significand rank * 2 ^ p.exponent rank

/-- The distance from the number of a rank to the next. -/
def gap (p : Precision) (rank : Nat) : ℚ :=
  2 ^ p.exponent rank

/-- The middle between the number of a rank and the next. -/
def middle (p : Precision) (rank : Nat) : ℚ :=
  p.value rank + p.gap rank / 2

theorem binade_eq : p.binade = 2 ^ p.fractionBits := by
  rw [binade, Nat.one_shiftLeft]

theorem binade_pos : 0 < p.binade := by
  rw [binade_eq]
  positivity

theorem gap_pos (rank : Nat) : 0 < p.gap rank :=
  zpow_pos two_pos _

theorem significand_lt (rank : Nat) : p.significand rank < 2 * p.binade := by
  have fraction_lt := Nat.mod_lt rank (binade_pos (p := p))
  unfold significand
  dsimp only
  split_ifs <;> omega

/-- The digits of a rank: its level and its significand. -/
theorem level_add_significand (rank : Nat) :
    (rank / p.binade - 1) * p.binade + p.significand rank = rank ∧
      (rank / p.binade - 1 = 0 ∨ p.binade ≤ p.significand rank) := by
  have digits := Nat.div_add_mod' rank p.binade
  unfold significand
  dsimp only
  split_ifs with first
  · rw [first] at digits ⊢
    constructor <;> omega
  · obtain ⟨level, level_eq⟩ : ∃ level, rank / p.binade = level + 1 :=
      Nat.exists_eq_succ_of_ne_zero first
    rw [level_eq, Nat.add_mul] at digits
    rw [level_eq, Nat.add_sub_cancel]
    constructor <;> omega

section Index

variable {level place : Nat} (normal : level = 0 ∨ p.binade ≤ place)

include normal

theorem exponent_index (below : place < 2 * p.binade) :
    p.exponent (level * p.binade + place) = p.minExponent + level := by
  have quotient : (level * p.binade + place) / p.binade = level + place / p.binade := by
    rw [Nat.mul_comm, Nat.mul_add_div binade_pos]
  have small : place / p.binade < 2 := Nat.div_lt_of_lt_mul (by omega)
  rw [exponent, quotient]
  rcases normal with rfl | high
  · congr 1
    omega
  · have one_le : 1 ≤ place / p.binade := (Nat.one_le_div_iff binade_pos).mpr high
    congr 1
    omega

theorem significand_index (below : place < 2 * p.binade) :
    p.significand (level * p.binade + place) = place := by
  have exponent_eq := exponent_index normal below
  obtain ⟨digits, -⟩ := level_add_significand (p := p) (level * p.binade + place)
  have level_eq : (level * p.binade + place) / p.binade - 1 = level := by
    rw [exponent] at exponent_eq
    omega
  rw [level_eq] at digits
  omega

theorem value_index (within : place ≤ 2 * p.binade) :
    p.value (level * p.binade + place) = place * 2 ^ (p.minExponent + level) := by
  rcases Nat.lt_or_ge place (2 * p.binade) with below | top
  · rw [value, significand_index normal below, exponent_index normal below]
  · -- The last place of a level is the first of the next one.
    obtain rfl : place = 2 * p.binade := Nat.le_antisymm within top
    have next : level * p.binade + 2 * p.binade = (level + 1) * p.binade + p.binade := by ring
    have first : p.binade < 2 * p.binade := by
      have := binade_pos (p := p)
      omega
    rw [next, value, significand_index (.inr le_rfl) first, exponent_index (.inr le_rfl) first]
    push_cast
    rw [← add_assoc, zpow_add_one₀ two_ne_zero]
    ring

end Index

theorem value_add_one (rank : Nat) : p.value (rank + 1) = p.value rank + p.gap rank := by
  obtain ⟨digits, normal⟩ := level_add_significand (p := p) rank
  have below := significand_lt (p := p) rank
  have normal_next : rank / p.binade - 1 = 0 ∨ p.binade ≤ p.significand rank + 1 :=
    normal.imp_right fun high => high.trans (Nat.le_succ _)
  have next := value_index normal_next below
  rw [← Nat.add_assoc, digits] at next
  rw [next, value, gap, exponent]
  push_cast
  ring

theorem middle_lt_value (rank : Nat) : p.middle rank < p.value (rank + 1) := by
  have := gap_pos (p := p) rank
  rw [middle, value_add_one]
  linarith

theorem value_lt_middle (rank : Nat) : p.value rank < p.middle rank := by
  have := gap_pos (p := p) rank
  rw [middle]
  linarith

theorem value_strictMono : StrictMono p.value :=
  strictMono_nat_of_lt_succ fun rank => (value_lt_middle rank).trans (middle_lt_value rank)

theorem middle_strictMono : StrictMono p.middle :=
  strictMono_nat_of_lt_succ fun rank => (middle_lt_value rank).trans (value_lt_middle (rank + 1))

theorem value_zero : p.value 0 = 0 := by
  simp [value, significand]

/-- A number with a short significand and a large enough exponent has a rank. -/
theorem exists_value {n : Nat} {e : Int} (short : n ≤ 2 * p.binade) (fine : p.minExponent ≤ e) :
    ∃ rank, p.value rank = n * 2 ^ e := by
  obtain ⟨level, rfl⟩ : ∃ level : Nat, e = p.minExponent + level :=
    ⟨(e - p.minExponent).toNat, by omega⟩
  clear fine
  -- A significand that does not fill its level is doubled and moved one level down.
  induction level generalizing n with
  | zero => exact ⟨0 * p.binade + n, value_index (.inl rfl) short⟩
  | succ level induction =>
      rcases Nat.lt_or_ge n p.binade with small | large
      · obtain ⟨rank, rank_eq⟩ := induction (show 2 * n ≤ 2 * p.binade by omega)
        refine ⟨rank, rank_eq.trans ?_⟩
        push_cast
        rw [← add_assoc, zpow_add_one₀ two_ne_zero]
        ring
      · exact ⟨(level + 1) * p.binade + n, value_index (.inr large) short⟩

/-! ## The nearest rank -/

/-- The rank of the number nearest to a given one, of two the even rank; beyond the last middle it
is that of infinity. -/
structure Nearest (p : Precision) (q : ℚ) (rank : Nat) : Prop where
  le_infinity : rank ≤ p.infinity
  above : ∀ below, rank = below + 1 →
    p.middle below < q ∨ p.middle below = q ∧ rank % 2 = 0
  below : rank < p.infinity → q < p.middle rank ∨ q = p.middle rank ∧ rank % 2 = 0

/-- A larger number has no smaller nearest rank. -/
theorem Nearest.mono {q r : ℚ} {rank other : Nat} (nearest : p.Nearest q rank)
    (nearest_other : p.Nearest r other) (order : q ≤ r) : rank ≤ other := by
  by_contra! less
  obtain ⟨below, rfl⟩ : ∃ below, rank = below + 1 := Nat.exists_eq_succ_of_ne_zero (by omega)
  have high := nearest_other.below (less.trans_le nearest.le_infinity)
  have low := nearest.above below rfl
  have middles : p.middle other ≤ p.middle below := middle_strictMono.monotone (by omega)
  rcases high with high | ⟨high, even⟩ <;> rcases low with low | ⟨low, even'⟩
  · linarith
  · linarith
  · linarith
  · have same : other = below := middle_strictMono.injective (by linarith)
    omega

theorem Nearest.unique {q : ℚ} {rank other : Nat} (nearest : p.Nearest q rank)
    (nearest_other : p.Nearest q other) : rank = other :=
  le_antisymm (nearest.mono nearest_other le_rfl) (nearest_other.mono nearest le_rfl)

theorem nearest_value {rank : Nat} (finite : rank ≤ p.infinity) :
    p.Nearest (p.value rank) rank where
  le_infinity := finite
  above below := by
    rintro rfl
    exact .inl (middle_lt_value below)
  below _ := .inl (value_lt_middle rank)

/-- A number that has a rank and is at most infinity rounds to itself. -/
theorem Nearest.value_eq {n rank : Nat} {e : Int} (nearest : p.Nearest (n * 2 ^ e) rank)
    (short : n ≤ 2 * p.binade) (fine : p.minExponent ≤ e)
    (bounded : (n * 2 ^ e : ℚ) ≤ p.value p.infinity) : p.value rank = n * 2 ^ e := by
  obtain ⟨exact_rank, exact_eq⟩ := exists_value short fine
  rw [← exact_eq] at bounded nearest ⊢
  have finite := value_strictMono.le_iff_le.mp bounded
  rw [nearest.unique (nearest_value finite)]

theorem nearest_min {q : ℚ} {rank : Nat}
    (above : ∀ below, rank = below + 1 →
      p.middle below < q ∨ p.middle below = q ∧ rank % 2 = 0)
    (below : q < p.middle rank ∨ q = p.middle rank ∧ rank % 2 = 0) :
    p.Nearest q (min p.infinity rank) := by
  rcases Nat.lt_or_ge p.infinity rank with beyond | within
  · rw [min_eq_left beyond.le]
    refine ⟨le_rfl, fun last last_eq => .inl ?_, fun less => absurd less (lt_irrefl _)⟩
    obtain ⟨earlier, rfl⟩ : ∃ earlier, rank = earlier + 1 :=
      Nat.exists_eq_succ_of_ne_zero (by omega)
    have order : p.middle last < p.middle earlier := middle_strictMono (by omega)
    rcases above earlier rfl with bound | ⟨bound, -⟩ <;> linarith
  · rw [min_eq_right within]
    exact ⟨within, above, fun _ => below⟩

/-- Between the numbers of two neighbouring ranks the nearest rank is decided by their middle. -/
theorem nearest_of_between {q : ℚ} {rank : Nat}
    (low : p.value rank ≤ q) (high : q < p.value (rank + 1)) :
    (q < p.middle rank → p.Nearest q (min p.infinity rank)) ∧
      (p.middle rank < q → p.Nearest q (min p.infinity (rank + 1))) ∧
      (q = p.middle rank → p.Nearest q (min p.infinity (rank + rank % 2))) := by
  have above (below : Nat) (rank_eq : rank = below + 1) : p.middle below < q := by
    have := middle_lt_value (p := p) below
    rw [← rank_eq] at this
    linarith
  have next_below : q < p.middle (rank + 1) := high.trans (value_lt_middle _)
  refine ⟨fun less => ?_, fun more => ?_, fun tie => ?_⟩
  · exact nearest_min (fun below rank_eq => .inl (above below rank_eq)) (.inl less)
  · refine nearest_min (fun below rank_eq => .inl ?_) (.inl next_below)
    obtain rfl : rank = below := by omega
    exact more
  · rcases Nat.mod_two_eq_zero_or_one rank with even | odd
    · rw [even, Nat.add_zero]
      exact nearest_min (fun below rank_eq => .inl (above below rank_eq)) (.inr ⟨tie, even⟩)
    · rw [odd]
      refine nearest_min (fun below rank_eq => .inr ?_) (.inl next_below)
      obtain rfl : rank = below := by omega
      exact ⟨tie.symm, by omega⟩

/-- A number keeps its rank when it grows by less than half the gap above it, or by just that half
if its rank is even. -/
theorem nearest_value_add_iff {rank : Nat} {δ : ℚ} (finite : rank < p.infinity) (nonneg : 0 ≤ δ) :
    p.Nearest (p.value rank + δ) rank ↔
      δ < p.gap rank / 2 ∨ δ = p.gap rank / 2 ∧ rank % 2 = 0 := by
  constructor
  · intro nearest
    have below := nearest.below finite
    rwa [middle, add_lt_add_iff_left, add_right_inj] at below
  · intro close
    refine ⟨finite.le, fun below rank_eq => .inl ?_, fun _ => ?_⟩
    · have less := middle_lt_value (p := p) below
      rw [← rank_eq] at less
      linarith
    · rwa [middle, add_lt_add_iff_left, add_right_inj]

/-- A number keeps its rank when it shrinks by less than half the gap below it, or by just that half
if its rank is even. -/
theorem nearest_value_sub_iff {rank : Nat} {δ : ℚ} (finite : rank < p.infinity) (nonneg : 0 ≤ δ) :
    p.Nearest (p.value (rank + 1) - δ) (rank + 1) ↔
      δ < p.gap rank / 2 ∨ δ = p.gap rank / 2 ∧ (rank + 1) % 2 = 0 := by
  have half : p.middle rank = p.value (rank + 1) - p.gap rank / 2 := by
    rw [value_add_one, middle]
    ring
  constructor
  · intro nearest
    have above := nearest.above rank rfl
    rwa [half, sub_lt_sub_iff_left, sub_right_inj, eq_comm] at above
  · intro close
    refine ⟨finite, fun below rank_eq => ?_, fun _ => .inl ?_⟩
    · obtain rfl : rank = below := by omega
      rwa [half, sub_lt_sub_iff_left, sub_right_inj, eq_comm]
    · have less := value_lt_middle (p := p) (rank + 1)
      linarith

theorem cast_div_bounds (num : Nat) {den : Nat} (den_pos : 0 < den) :
    ((num / den : Nat) : ℚ) ≤ num / den ∧ (num / den : ℚ) < (num / den : Nat) + 1 := by
  have den_pos' : (0 : ℚ) < den := by exact_mod_cast den_pos
  have low := Nat.div_mul_le_self num den
  have high := Nat.lt_mul_of_div_lt (Nat.lt_succ_self (num / den)) den_pos
  rw [le_div_iff₀ den_pos', div_lt_iff₀ den_pos']
  exact ⟨by exact_mod_cast low, by exact_mod_cast high⟩

theorem roundDiv_eq {num den : Nat} (den_pos : 0 < den) :
    roundDiv num den =
      if (num / den : ℚ) < (num / den : Nat) + 1 / 2 then num / den
      else if (num / den : Nat) + 1 / 2 < (num / den : ℚ) then num / den + 1
      else num / den + num / den % 2 := by
  have den_pos' : (0 : ℚ) < den := by exact_mod_cast den_pos
  have split : (num : ℚ) = den * (num / den : Nat) + (num % den : Nat) := by
    exact_mod_cast (Nat.div_add_mod num den).symm
  have less : (num / den : ℚ) < (num / den : Nat) + 1 / 2 ↔ 2 * (num % den) < den := by
    rw [div_lt_iff₀ den_pos', ← Nat.cast_lt (α := ℚ)]
    push_cast
    constructor <;> intro <;> linarith
  have more : ((num / den : Nat) + 1 / 2 : ℚ) < num / den ↔ den < 2 * (num % den) := by
    rw [lt_div_iff₀ den_pos', ← Nat.cast_lt (α := ℚ)]
    push_cast
    constructor <;> intro <;> linarith
  simp only [roundDiv, less, more]

theorem binade_cast : (p.binade : ℚ) = 2 ^ (p.fractionBits : Int) := by
  rw [binade_eq, zpow_natCast]
  push_cast
  rfl

/-- The last place kept is that of a level, and the quotient fills the level counted in it. -/
theorem place_bounds (p : Precision) {num den : Nat} (num_pos : 0 < num) (den_pos : 0 < den) :
    ∃ level : Nat, p.place num den = p.minExponent + level ∧
      (num / den / 2 ^ p.place num den : ℚ) < 2 * p.binade ∧
      (level = 0 ∨ (p.binade : ℚ) ≤ num / den / 2 ^ p.place num den) := by
  obtain ⟨log_low, log_high⟩ := quotientLog2_spec num_pos den_pos
  have two_ne : (2 : ℚ) ≠ 0 := two_ne_zero
  have place_eq : p.place num den =
      max p.minExponent (quotientLog2 num den - p.fractionBits) := rfl
  set e := p.place num den
  have unit_pos : (0 : ℚ) < 2 ^ e := zpow_pos two_pos e
  refine ⟨(e - p.minExponent).toNat, by omega, ?_, ?_⟩
  · rw [div_lt_iff₀ unit_pos, binade_cast]
    calc (num / den : ℚ) < 2 ^ (quotientLog2 num den + 1) := log_high
      _ ≤ 2 ^ (1 + (p.fractionBits : Int) + e) := zpow_le_zpow_right₀ one_le_two (by omega)
      _ = 2 * 2 ^ (p.fractionBits : Int) * 2 ^ e := by
        rw [zpow_add₀ two_ne, zpow_add₀ two_ne, zpow_one]
  · rcases Nat.eq_zero_or_pos (e - p.minExponent).toNat with zero | positive
    · exact .inl zero
    · right
      rw [le_div_iff₀ unit_pos, binade_cast, ← zpow_add₀ two_ne]
      exact (zpow_le_zpow_right₀ one_le_two (by omega)).trans log_low

/-- A number counted in the last place of a level that it fills has the rank to which its count is
rounded. -/
theorem nearest_round (even : p.binade % 2 = 0) {q : ℚ} {level num den : Nat} (den_pos : 0 < den)
    (count : (num / den : ℚ) = q / 2 ^ (p.minExponent + level))
    (below : (num / den : ℚ) < 2 * p.binade)
    (normal : level = 0 ∨ (p.binade : ℚ) ≤ num / den) :
    p.Nearest q (min p.infinity (level * p.binade + roundDiv num den)) := by
  -- The count lies between `place` and the next whole number, which are the significands of
  -- neighbouring ranks.
  have unit_pos : (0 : ℚ) < 2 ^ (p.minExponent + level) := zpow_pos two_pos _
  rw [roundDiv_eq den_pos, count]
  obtain ⟨floor_le, lt_floor⟩ := cast_div_bounds num den_pos
  rw [count] at floor_le lt_floor below normal
  generalize num / den = place at *
  have place_below : place < 2 * p.binade := by
    have := floor_le.trans_lt below
    exact_mod_cast this
  have place_normal : level = 0 ∨ p.binade ≤ place := by
    refine normal.imp_right fun high => Nat.lt_succ_iff.mp ?_
    have := high.trans_lt lt_floor
    exact_mod_cast this
  have value_eq := value_index place_normal place_below.le
  have exponent_eq := exponent_index place_normal place_below
  have low : p.value (level * p.binade + place) ≤ q := by
    rw [value_eq]
    exact (le_div_iff₀ unit_pos).mp floor_le
  have high : q < p.value (level * p.binade + place + 1) := by
    have := (div_lt_iff₀ unit_pos).mp lt_floor
    rw [value_add_one, value_eq, gap, exponent_eq]
    linarith
  have middle_eq :
      p.middle (level * p.binade + place) = (place + 1 / 2) * 2 ^ (p.minExponent + level) := by
    rw [middle, value_eq, gap, exponent_eq]
    ring
  have parity : (level * p.binade + place) % 2 = place % 2 := by
    rw [Nat.add_mod, Nat.mul_mod, even]
    simp
  obtain ⟨nearest_less, nearest_more, nearest_tie⟩ := nearest_of_between low high
  rw [middle_eq, ← div_lt_iff₀ unit_pos] at nearest_less
  rw [middle_eq, ← lt_div_iff₀ unit_pos] at nearest_more
  rw [middle_eq, ← div_eq_iff unit_pos.ne', parity, add_assoc] at nearest_tie
  split_ifs with less more
  · exact nearest_less less
  · exact nearest_more more
  · exact nearest_tie (le_antisymm (not_lt.mp more) (not_lt.mp less))

/-- Rounding a quotient finds the nearest rank. -/
theorem nearest_rank (even : p.binade % 2 = 0) {num den : Nat} (den_pos : 0 < den) :
    p.Nearest (num / den) (p.rank num den) := by
  rcases Nat.eq_zero_or_pos num with rfl | num_pos
  · rw [rank, if_pos rfl, Nat.cast_zero, zero_div, ← value_zero (p := p)]
    exact nearest_value (Nat.zero_le _)
  obtain ⟨level, level_eq, below, normal⟩ := p.place_bounds num_pos den_pos
  have scaled := shiftLeft_div_shiftLeft num den (p.place num den)
  have rank_eq : p.rank num den = min p.infinity ((p.place num den - p.minExponent).toNat <<<
      p.fractionBits + roundDiv (num <<< (-p.place num den).toNat)
        (den <<< (p.place num den).toNat)) := if_neg num_pos.ne'
  have scaledDen_pos : 0 < den <<< (p.place num den).toNat := by
    rw [Nat.shiftLeft_eq]
    positivity
  have level_toNat : (p.place num den - p.minExponent).toNat = level := by omega
  rw [rank_eq, level_toNat, Nat.shiftLeft_eq, ← binade_eq]
  rw [← scaled] at below normal
  exact nearest_round even scaledDen_pos (level_eq ▸ scaled) below normal

theorem nearest_rank_binaryRatio (even : p.binade % 2 = 0) (significand : Nat) (exponent : Int) :
    p.Nearest (significand * 2 ^ exponent)
      (p.rank (binaryRatio significand exponent).1 (binaryRatio significand exponent).2) := by
  rw [← binaryRatio_eq]
  exact nearest_rank even (binaryRatio_snd_pos significand exponent)

end Precision
end TextureGraph
