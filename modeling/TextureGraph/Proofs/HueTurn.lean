import TextureGraph.Proofs.HueCircle
import TextureGraph.Proofs.Single.WholePart

/-!
# Hues in single precision

A number of turns below zero is brought into a turn by adding one.  For numbers within `2 ^ -25` of
zero that sum rounds to one, so the hue is a whole turn there; it is below one everywhere else.
This holds of the hue of a colour, which is below zero before red, and of the hue to which a shift
leads.
-/

namespace TextureGraph

open Single (Between Near Rounds Short near_one near_tenThousandth near_zero rank short_one
  short_zero value)
open Scalar (wholePart)

/-! ## Wrapping into a turn -/

/-- A number so little below zero that its sum with one rounds to one. -/
def JustBelowZero (x : Float32) : Prop :=
  -1 / 2 ^ 25 ≤ value x ∧ value x < 0

/-- A hue that wraps a number of turns: it is in the unit interval, and a whole turn exactly if the
number is just below zero. -/
structure Wraps (turns hue : Float32) : Prop where
  between : Between 0 1 hue
  lt_one_iff : value hue < 1 ↔ ¬JustBelowZero turns

/-- A sum with one rounds to one if it misses one by at most half the distance to the number
before. -/
theorem value_lt_one_iff {q : ℚ} {x : Float32} (rounds : Rounds (q + 1) x) (low : -1 ≤ q)
    (negative : q < 0) : value x < 1 ↔ q < -1 / 2 ^ 25 := by
  have le_one : value x ≤ 1 := rounds.value_le short_one (by linarith)
  have rank_one : rank (1.0 : Float32) = 0x3f7fffff + 1 := by decide +kernel
  have value_one := Single.abs_value 1.0
  rw [near_one.value_eq, abs_one, rank_one] at value_one
  have same_side : 0 ≤ (q + 1) * value 1.0 := by
    rw [near_one.value_eq]
    linarith
  have missed : |q + 1| = Precision.single.value (0x3f7fffff + 1) - -q := by
    rw [← value_one, abs_of_nonneg (by linarith)]
    ring
  -- Numbers before one are half as far apart as those behind it.
  have half_gap : Precision.single.gap 0x3f7fffff / 2 = 1 / 2 ^ 25 := by
    have last : Precision.single.exponent 0x3f7fffff = -24 := by decide
    rw [Precision.gap, last]
    norm_num
  have reached : value x = 1 ↔ -q ≤ 1 / 2 ^ 25 := by
    have nearest := rounds.value_eq_iff same_side
    rw [near_one.value_eq, rank_one, missed,
      Precision.nearest_value_sub_iff (by decide) (by linarith), half_gap] at nearest
    rw [nearest, le_iff_lt_or_eq]
    exact or_congr_right (and_iff_left (by decide))
  rw [lt_iff_le_and_ne, and_iff_right le_one, Ne, reached, not_le]
  constructor <;> intro <;> linarith

/-- Adding one to a negative number of turns wraps it. -/
theorem wraps_of_between {turns one : Float32} (finite : turns.isFinite = true)
    (low : -1 ≤ value turns) (high : value turns < 1) (one_near : Near 0 1 one) :
    Wraps turns (if turns < 0.0 then turns + one else turns) := by
  have negative_iff := near_zero.lt_iff finite
  split_ifs with negative
  · rw [negative_iff] at negative
    have rounds := one_near.add_exact finite
    refine ⟨rounds.between short_zero short_one (by linarith) (by linarith), ?_⟩
    rw [value_lt_one_iff rounds low negative, JustBelowZero, not_and', not_le]
    exact (imp_iff_right negative).symm
  · rw [negative_iff, not_lt] at negative
    exact ⟨⟨finite, negative, high.le⟩, iff_of_true high fun below => below.2.not_ge negative⟩

/-! ## Shifted hues -/

theorem value_remainder_one {x : Float32} (finite : x.isFinite = true) :
    (Single.remainder x 1.0).isFinite = true ∧
      value (Single.remainder x 1.0) = value x - wholePart (value x) := by
  have exact := Single.value_remainder finite near_one.finite
    (by rw [near_one.value_eq]; exact one_ne_zero)
  rwa [near_one.value_eq, div_one, one_mul] at exact

/-- What follows the whole part of a number is just below zero only if the number itself is. -/
theorem justBelowZero_remainder_iff {x : Float32} (finite : x.isFinite = true) :
    JustBelowZero (Single.remainder x 1.0) ↔ JustBelowZero x := by
  obtain ⟨-, rest_eq⟩ := value_remainder_one finite
  rw [JustBelowZero, JustBelowZero, rest_eq]
  rcases le_or_gt 0 (value x) with nonneg | negative
  · rw [wholePart, if_pos nonneg]
    have rest_nonneg := Int.floor_le (value x)
    constructor
    · rintro ⟨-, below⟩
      linarith
    · rintro ⟨-, below⟩
      linarith
  rw [wholePart, if_neg negative.not_ge]
  rcases lt_or_ge (-1) (value x) with small | large
  · rw [Int.ceil_eq_zero_iff.mpr ⟨small, negative.le⟩, Int.cast_zero, sub_zero]
  · -- From one on numbers have at most 23 digits after the point.
    refine iff_of_false ?_ fun below => by linarith [below.1]
    rintro ⟨low, high⟩
    have size : 2 ^ (0 : Int) ≤ Precision.single.value (rank x) := by
      rw [← Single.abs_value, abs_of_neg negative, zpow_zero]
      linarith
    obtain ⟨n, n_eq⟩ := Single.exists_multiple (Single.exponent_of_value size)
    have units : (value x - ⌈value x⌉) * 2 ^ 23 = (n - ⌈value x⌉ * 2 ^ 23 : Int) := by
      have whole : value x * 2 ^ 23 = n := by
        rw [n_eq]
        norm_num
        ring
      rw [sub_mul, whole]
      push_cast
      rfl
    have above : (-1 : ℚ) < (n - ⌈value x⌉ * 2 ^ 23 : Int) := by linarith
    have below : ((n - ⌈value x⌉ * 2 ^ 23 : Int) : ℚ) < 0 := by linarith
    have above' : -1 < n - ⌈value x⌉ * 2 ^ 23 := by exact_mod_cast above
    have below' : n - ⌈value x⌉ * 2 ^ 23 < 0 := by exact_mod_cast below
    omega

/-- A shift wraps every finite sum of turns. -/
theorem wraps_shiftHue {hue shift : Float32} (finite : (hue + shift).isFinite = true) :
    Wraps (hue + shift) (Hsv.shiftHue hue shift) := by
  obtain ⟨rest_finite, rest_eq⟩ := value_remainder_one finite
  have bounds : -1 ≤ value (Single.remainder (hue + shift) 1.0) ∧
      value (Single.remainder (hue + shift) 1.0) < 1 := by
    rw [rest_eq, wholePart]
    split_ifs
    · have low := Int.floor_le (value (hue + shift))
      have high := Int.lt_floor_add_one (value (hue + shift))
      constructor <;> linarith
    · have low := Int.le_ceil (value (hue + shift))
      have high := Int.ceil_lt_add_one (value (hue + shift))
      constructor <;> linarith
  have near_abs : Near 0 1 (Float32.abs 1.0) :=
    Single.near_literal (2 ^ 23) (-23) (by decide +kernel) (by norm_num)
  obtain ⟨between, lt_one_iff⟩ := wraps_of_between rest_finite bounds.1 bounds.2 near_abs
  exact ⟨between, lt_one_iff.trans (not_congr (justBelowZero_remainder_iff finite))⟩

/-! ## The hue of a colour -/

theorem short_neg_one : Short (-1) :=
  ⟨-1, 0, by decide, by decide, by norm_num⟩

theorem short_five : Short 5 :=
  ⟨5, 0, by decide, by decide, by norm_num⟩

theorem near_two : Near 0 2 (2.0 : Float32) :=
  Single.near_literal (2 ^ 23) (-22) (by decide +kernel) (by norm_num)

theorem near_four : Near 0 4 (4.0 : Float32) :=
  Single.near_literal (2 ^ 23) (-21) (by decide +kernel) (by norm_num)

theorem near_six : Near 0 6 (6.0 : Float32) :=
  Single.near_literal (3 * 2 ^ 22) (-21) (by decide +kernel) (by norm_num)

theorem rounds_sixth {x : Float32} (finite : x.isFinite = true) :
    Rounds (value x / 6) (x / 6.0) := by
  have rounds := Single.rounds_div finite near_six.finite (by rw [near_six.value_eq]; norm_num)
  rwa [near_six.value_eq] at rounds

section Extremes

variable {x y : Float32} (x_finite : x.isFinite = true) (y_finite : y.isFinite = true)

theorem larger_eq (x y : Float32) : Scalar.larger x y = x ∨ Scalar.larger x y = y := by
  rw [Scalar.larger]
  split_ifs
  · exact .inr rfl
  · exact .inl rfl
  · exact .inr rfl

include x_finite y_finite

theorem value_larger :
    (Scalar.larger x y).isFinite = true ∧ value (Scalar.larger x y) = max (value x) (value y) := by
  have number := (Single.beq_self_iff x).mpr (Single.isNaN_of_isFinite x_finite)
  rw [Scalar.larger]
  split_ifs with less
  · exact ⟨y_finite, (max_eq_right ((Single.lt_iff_value x_finite y_finite).mp less).le).symm⟩
  · have le := not_lt.mp (mt (Single.lt_iff_value x_finite y_finite).mpr less)
    exact ⟨x_finite, (max_eq_left le).symm⟩

theorem value_smaller :
    (Scalar.smaller x y).isFinite = true ∧
      value (Scalar.smaller x y) = min (value x) (value y) := by
  have number := (Single.beq_self_iff x).mpr (Single.isNaN_of_isFinite x_finite)
  rw [Scalar.smaller]
  split_ifs with less
  · exact ⟨y_finite, (min_eq_right ((Single.lt_iff_value y_finite x_finite).mp less).le).symm⟩
  · have le := not_lt.mp (mt (Single.lt_iff_value y_finite x_finite).mpr less)
    exact ⟨x_finite, (min_eq_left le).symm⟩

end Extremes

namespace Rgb

/-- The channels lie in the unit interval. -/
structure InUnit (c : Rgb Float32) : Prop where
  red : 0.0 ≤ c.red ∧ c.red ≤ 1.0
  green : 0.0 ≤ c.green ∧ c.green ≤ 1.0
  blue : 0.0 ≤ c.blue ∧ c.blue ≤ 1.0

/-- The rational numbers that the channels stand for. -/
def rational (c : Rgb Float32) : Rgb ℚ :=
  ⟨value c.red, value c.green, value c.blue⟩

/-- The largest channel. -/
def largest (c : Rgb Float32) : Float32 :=
  Scalar.larger (Scalar.larger c.red c.green) c.blue

/-- The smallest channel. -/
def smallest (c : Rgb Float32) : Float32 :=
  Scalar.smaller (Scalar.smaller c.red c.green) c.blue

/-- How far the channels lie apart. -/
def extent (c : Rgb Float32) : Float32 :=
  c.largest - c.smallest

/-- The hue in sixths of a turn, before it is wrapped. -/
def sector (c : Rgb Float32) : Float32 :=
  if c.largest == c.red then Single.remainder ((c.green - c.blue) / c.extent) 6.0
  else if c.largest == c.green then (c.blue - c.red) / c.extent + 2.0
  else (c.red - c.green) / c.extent + 4.0

/-- The hue lies just before red, which is the strongest channel. -/
def JustBeforeRed (c : Rgb Float32) : Prop :=
  0.0001 < c.extent ∧ (c.largest == c.red) = true ∧
    JustBelowZero ((c.green - c.blue) / c.extent / 6.0)

theorem toHsv_single (c : Rgb Float32) :
    c.toHsv =
      ⟨if 0.0001 < c.extent then
          if c.sector / 6.0 < 0.0 then c.sector / 6.0 + 1.0 else c.sector / 6.0
        else 0.0,
        if 0.0001 < c.largest then c.extent / c.largest else 0.0, c.largest⟩ :=
  rfl

theorem largest_eq (c : Rgb Float32) :
    c.largest = c.red ∨ c.largest = c.green ∨ c.largest = c.blue := by
  rw [largest]
  rcases larger_eq (Scalar.larger c.red c.green) c.blue with outer | outer
  · rw [outer]
    exact (larger_eq c.red c.green).imp_right .inl
  · exact .inr (.inr outer)

variable {c : Rgb Float32} (inUnit : c.InUnit)

section Range

include inUnit

theorem InUnit.between : Between 0 1 c.red ∧ Between 0 1 c.green ∧ Between 0 1 c.blue :=
  ⟨Single.between_unit_iff.mpr inUnit.red, Single.between_unit_iff.mpr inUnit.green,
    Single.between_unit_iff.mpr inUnit.blue⟩

theorem InUnit.value_largest :
    c.largest.isFinite = true ∧ value c.largest = c.rational.strongest := by
  obtain ⟨red, green, blue⟩ := inUnit.between
  obtain ⟨inner_finite, inner_eq⟩ := value_larger red.finite green.finite
  obtain ⟨finite, value_eq⟩ := value_larger inner_finite blue.finite
  rw [inner_eq] at value_eq
  exact ⟨finite, value_eq⟩

theorem InUnit.value_smallest :
    c.smallest.isFinite = true ∧ value c.smallest = c.rational.weakest := by
  obtain ⟨red, green, blue⟩ := inUnit.between
  obtain ⟨inner_finite, inner_eq⟩ := value_smaller red.finite green.finite
  obtain ⟨finite, value_eq⟩ := value_smaller inner_finite blue.finite
  rw [inner_eq] at value_eq
  exact ⟨finite, value_eq⟩

theorem InUnit.rational_bounds : 0 ≤ c.rational.weakest ∧ c.rational.strongest ≤ 1 := by
  obtain ⟨red, green, blue⟩ := inUnit.between
  exact ⟨le_min (le_min red.low_le green.low_le) blue.low_le,
    max_le (max_le red.le_high green.le_high) blue.le_high⟩

theorem InUnit.rounds_extent : Rounds c.rational.spread c.extent := by
  obtain ⟨largest_finite, largest_eq⟩ := inUnit.value_largest
  obtain ⟨smallest_finite, smallest_eq⟩ := inUnit.value_smallest
  have rounds := Single.rounds_sub largest_finite smallest_finite
  rwa [largest_eq, smallest_eq] at rounds

theorem InUnit.between_extent : Between 0 1 c.extent := by
  have ordered := c.rational.spans_red.1.trans c.rational.spans_red.2
  obtain ⟨weakest_nonneg, strongest_le⟩ := inUnit.rational_bounds
  refine inUnit.rounds_extent.between short_zero short_one ?_ ?_ <;> rw [spread] <;> linarith

theorem InUnit.extent_le_largest : value c.extent ≤ value c.largest := by
  obtain ⟨finite, largest_eq⟩ := inUnit.value_largest
  refine inUnit.rounds_extent.mono (Single.rounds_value finite) ?_
  rw [largest_eq, spread]
  linarith [inUnit.rational_bounds.1]

end Range

section Chromatic

variable (chromatic : 0.0001 < c.extent)
include inUnit chromatic

theorem InUnit.extent_pos : 0 < value c.extent := by
  rw [near_tenThousandth.gt_iff inUnit.between_extent.finite] at chromatic
  exact lt_trans (by norm_num) chromatic

/-- The difference of two channels, as a share of how far the channels lie apart. -/
theorem InUnit.between_offset {x y : Float32} (x_finite : x.isFinite = true)
    (y_finite : y.isFinite = true) (x_spans : c.rational.Spans (value x))
    (y_spans : c.rational.Spans (value y)) : Between (-1) 1 ((x - y) / c.extent) := by
  have positive := inUnit.extent_pos chromatic
  have size : |value (x - y)| ≤ value c.extent := by
    have spread_le := x_spans.abs_sub_le y_spans le_rfl
    have computed := (Single.rounds_sub x_finite y_finite).abs_mono inUnit.rounds_extent
      (spread_le.trans (le_abs_self _))
    rwa [abs_of_pos positive] at computed
  have difference_finite : (x - y).isFinite = true :=
    Single.isFinite_of_abs_le inUnit.between_extent.finite (size.trans (le_abs_self _))
  obtain ⟨low, high⟩ := abs_le.mp size
  refine (Single.rounds_div difference_finite inUnit.between_extent.finite positive.ne').between
    short_neg_one short_one ?_ ?_
  · rw [le_div_iff₀ positive]
    linarith
  · exact (div_le_one positive).mpr high

theorem InUnit.sector_of_red (leads : (c.largest == c.red) = true) :
    Between (-1) 1 ((c.green - c.blue) / c.extent) ∧ c.sector.isFinite = true ∧
      value c.sector = value ((c.green - c.blue) / c.extent) := by
  obtain ⟨-, green, blue⟩ := inUnit.between
  have offset := inUnit.between_offset chromatic green.finite blue.finite
    c.rational.spans_green c.rational.spans_blue
  obtain ⟨finite, value_eq⟩ := Single.value_remainder offset.finite near_six.finite
    (by rw [near_six.value_eq]; norm_num)
  have exact := remainder_six offset.low_le offset.le_high
  rw [near_six.value_eq] at value_eq
  rw [sector, if_pos leads]
  exact ⟨offset, finite, value_eq.trans exact⟩

theorem InUnit.sector_of_not_red (follows : ¬(c.largest == c.red) = true) :
    Between 1 5 c.sector := by
  obtain ⟨red, green, blue⟩ := inUnit.between
  rw [sector, if_neg follows]
  split_ifs
  · have offset := inUnit.between_offset chromatic blue.finite red.finite
      c.rational.spans_blue c.rational.spans_red
    exact (near_two.add_exact offset.finite).between short_one short_five
      (by linarith [offset.low_le]) (by linarith [offset.le_high])
  · have offset := inUnit.between_offset chromatic red.finite green.finite
      c.rational.spans_red c.rational.spans_green
    exact (near_four.add_exact offset.finite).between short_one short_five
      (by linarith [offset.low_le]) (by linarith [offset.le_high])

/-- Before it is wrapped, a hue lies within a quarter of a turn of red, if red is the strongest
channel, or between zero and seven eighths of a turn. -/
theorem InUnit.turns_cases :
    (((c.largest == c.red) = true ∧ Between (-1 / 4) (1 / 4) (c.sector / 6.0)) ∨
      (¬(c.largest == c.red) = true ∧ Between 0 (7 / 8) (c.sector / 6.0))) := by
  by_cases leads : (c.largest == c.red) = true
  · obtain ⟨⟨-, low, high⟩, finite, same⟩ := inUnit.sector_of_red chromatic leads
    rw [← same] at low high
    refine .inl ⟨leads, (rounds_sixth finite).between ⟨-1, 2, by decide, by decide, by norm_num⟩
      ⟨1, 2, by decide, by decide, by norm_num⟩ ?_ ?_⟩ <;> linarith
  · obtain ⟨finite, low, high⟩ := inUnit.sector_of_not_red chromatic leads
    refine .inr ⟨leads, (rounds_sixth finite).between short_zero
      ⟨7, 3, by decide, by decide, by norm_num⟩ ?_ ?_⟩ <;> linarith

theorem InUnit.justBelowZero_turns_iff : JustBelowZero (c.sector / 6.0) ↔ c.JustBeforeRed := by
  rw [JustBeforeRed, and_iff_right chromatic]
  rcases inUnit.turns_cases chromatic with ⟨leads, -⟩ | ⟨follows, between⟩
  · obtain ⟨offset, finite, same⟩ := inUnit.sector_of_red chromatic leads
    have sector_rounds := rounds_sixth finite
    rw [same] at sector_rounds
    rw [and_iff_right leads, JustBelowZero, JustBelowZero,
      sector_rounds.value_congr (rounds_sixth offset.finite)]
  · exact iff_of_false (fun below => below.2.not_ge between.low_le) fun before => follows before.1

theorem InUnit.wraps_turns : Wraps (c.sector / 6.0) c.toHsv.hue := by
  rw [toHsv_single, if_pos chromatic]
  rcases inUnit.turns_cases chromatic with ⟨-, finite, low, high⟩ | ⟨-, finite, low, high⟩
  · exact wraps_of_between finite (by linarith) (by linarith) near_one
  · exact wraps_of_between finite (by linarith) (by linarith) near_one

end Chromatic

section Parts

include inUnit

theorem InUnit.hue_bounds :
    Between 0 1 c.toHsv.hue ∧ (value c.toHsv.hue < 1 ↔ ¬c.JustBeforeRed) := by
  by_cases chromatic : 0.0001 < c.extent
  · obtain ⟨between, lt_one_iff⟩ := inUnit.wraps_turns chromatic
    exact ⟨between, lt_one_iff.trans (not_congr (inUnit.justBelowZero_turns_iff chromatic))⟩
  · rw [toHsv_single, if_neg chromatic]
    dsimp only
    rw [near_zero.value_eq]
    exact ⟨Single.between_zero, iff_of_true zero_lt_one fun before => chromatic before.1⟩

theorem InUnit.between_saturation : Between 0 1 c.toHsv.saturation := by
  obtain ⟨largest_finite, largest_eq⟩ := inUnit.value_largest
  rw [toHsv_single]
  dsimp only
  split_ifs with bright
  · have positive : 0 < value c.largest := by
      rw [near_tenThousandth.gt_iff largest_finite] at bright
      exact lt_trans (by norm_num) bright
    have extent := inUnit.between_extent
    exact (Single.rounds_div extent.finite largest_finite positive.ne').between short_zero short_one
      (div_nonneg extent.low_le positive.le)
      ((div_le_one positive).mpr inUnit.extent_le_largest)
  · exact Single.between_zero

/-- No channel is larger than the value of a colour. -/
theorem InUnit.le_largest : c.red ≤ c.largest ∧ c.green ≤ c.largest ∧ c.blue ≤ c.largest := by
  obtain ⟨red, green, blue⟩ := inUnit.between
  obtain ⟨finite, largest_eq⟩ := inUnit.value_largest
  rw [Single.le_iff_value red.finite finite, Single.le_iff_value green.finite finite,
    Single.le_iff_value blue.finite finite, largest_eq]
  exact ⟨c.rational.spans_red.2, c.rational.spans_green.2, c.rational.spans_blue.2⟩

end Parts

/-- Hue, saturation and value of a colour whose channels lie in the unit interval lie there too, and
so does the hue that adjusting it by a finite shift leads to.  The hue is less than a whole turn
unless it lies just before red, and the shifted hue is less than that unless the sum is just below
zero. -/
theorem hue_lt_one_iff {c : Rgb Float32} (inUnit : c.InUnit) :
    (0.0 ≤ c.toHsv.hue ∧ c.toHsv.hue ≤ 1.0) ∧ (c.toHsv.hue < 1.0 ↔ ¬c.JustBeforeRed) ∧
      (0.0 ≤ c.toHsv.saturation ∧ c.toHsv.saturation ≤ 1.0) ∧
      (c.toHsv.value = c.red ∨ c.toHsv.value = c.green ∨ c.toHsv.value = c.blue) ∧
      (c.red ≤ c.toHsv.value ∧ c.green ≤ c.toHsv.value ∧ c.blue ≤ c.toHsv.value) ∧
      ∀ shift : Hsv Float32, shift.hue.isFinite = true →
        c.adjust shift =
            Hsv.toRgb ⟨Hsv.shiftHue c.toHsv.hue shift.hue,
              Scalar.clampUnit (c.toHsv.saturation + shift.saturation),
              Scalar.clampUnit (c.toHsv.value + shift.value)⟩ ∧
          (0.0 ≤ Hsv.shiftHue c.toHsv.hue shift.hue ∧
            Hsv.shiftHue c.toHsv.hue shift.hue ≤ 1.0) ∧
          (Hsv.shiftHue c.toHsv.hue shift.hue < 1.0 ↔
            ¬JustBelowZero (c.toHsv.hue + shift.hue)) := by
  obtain ⟨hue, hue_iff⟩ := inUnit.hue_bounds
  refine ⟨Single.between_unit_iff.mp hue, ?_, Single.between_unit_iff.mp inUnit.between_saturation,
    c.largest_eq, inUnit.le_largest, fun shift finite => ⟨rfl, ?_⟩⟩
  · rw [near_one.lt_iff hue.finite, hue_iff]
  · have small : |value c.toHsv.hue| ≤ 1 := by
      rw [abs_of_nonneg hue.low_le]
      exact hue.le_high
    obtain ⟨between, lt_one_iff⟩ :=
      wraps_shiftHue (Single.isFinite_add_of_small hue.finite finite (.inl small))
    rw [near_one.lt_iff between.finite]
    exact ⟨Single.between_unit_iff.mp between, lt_one_iff⟩

/-- The hue of a violet is less than a whole turn, also after half a turn. -/
theorem hue_lt_one_iff_violet :
    (⟨0.5, 0.0, 1.0⟩ : Rgb Float32).toHsv.hue < 1.0 ∧
      (⟨0.5, 0.0, 1.0⟩ : Rgb Float32).adjust ⟨0.5, 0.0, 0.0⟩ =
        Hsv.toRgb ⟨Hsv.shiftHue (⟨0.5, 0.0, 1.0⟩ : Rgb Float32).toHsv.hue 0.5, 1.0, 1.0⟩ ∧
      Hsv.shiftHue (⟨0.5, 0.0, 1.0⟩ : Rgb Float32).toHsv.hue 0.5 < 1.0 := by
  have inUnit : (⟨0.5, 0.0, 1.0⟩ : Rgb Float32).InUnit := by
    refine ⟨?_, ?_, ?_⟩ <;> decide +kernel
  have blue_leads : ¬(Rgb.largest ⟨0.5, 0.0, 1.0⟩ == 0.5) = true := by decide +kernel
  obtain ⟨-, sum_eq⟩ := Single.value_of_content
    (show Single.content ((⟨0.5, 0.0, 1.0⟩ : Rgb Float32).toHsv.hue + 0.5) =
      .finite false 10485760 (-23) by decide +kernel)
  have parts : Scalar.clampUnit ((⟨0.5, 0.0, 1.0⟩ : Rgb Float32).toHsv.saturation + 0.0) = 1.0 ∧
      Scalar.clampUnit ((⟨0.5, 0.0, 1.0⟩ : Rgb Float32).toHsv.value + 0.0) = 1.0 := by
    decide +kernel
  obtain ⟨-, lt_one_iff, -, -, -, shifted⟩ := hue_lt_one_iff inUnit
  obtain ⟨adjust_eq, -, shifted_lt_one_iff⟩ := shifted ⟨0.5, 0.0, 0.0⟩ (by decide +kernel)
  rw [parts.1, parts.2] at adjust_eq
  refine ⟨lt_one_iff.mpr fun before => blue_leads before.2.1, adjust_eq,
    shifted_lt_one_iff.mpr ?_⟩
  rintro ⟨-, below⟩
  rw [sum_eq] at below
  norm_num [Single.signed] at below

/-- Two hues of a whole turn: that of a red with a trace of blue, and that of red turned back a
little. -/
theorem hue_of_whole_turn :
    (⟨1.0, 0.0, 1e-10⟩ : Rgb Float32).InUnit ∧ (⟨1.0, 0.0, 0.0⟩ : Rgb Float32).InUnit ∧
      ¬(⟨1.0, 0.0, 1e-10⟩ : Rgb Float32).toHsv.hue < 1.0 ∧ (-1e-10 : Float32).isFinite = true ∧
      ¬Hsv.shiftHue (⟨1.0, 0.0, 0.0⟩ : Rgb Float32).toHsv.hue (-1e-10) < 1.0 := by
  refine ⟨⟨?_, ?_, ?_⟩, ⟨?_, ?_, ?_⟩, ?_, ?_, ?_⟩ <;> decide +kernel

end Rgb
end TextureGraph
