import Mathlib.Tactic.Linarith
import Mathlib.Tactic.Ring
import TextureGraph.Color.Hsv
import TextureGraph.Proofs.Exact

/-!
# Colours around the hue circle

In exact arithmetic a colour is recovered from its hue, saturation and value.  A hue lies within a
sixth of a turn of its strongest channel; how far it lies from there and on which side says which
channel comes second and by how much.
-/

namespace TextureGraph

/-! ## Three channels in a circle -/

/-- A channel of a colour. -/
inductive Channel where
  | red
  | green
  | blue

namespace Channel

/-- The channel before another one around the circle. -/
def previous : Channel → Channel
  | red => blue
  | green => red
  | blue => green

/-- The hue of a channel, in sixths of a turn. -/
def start : Channel → ℚ
  | red => 0
  | green => 2
  | blue => 4

/-- The hue that lies an offset behind a channel, or before it if the offset is negative. -/
def sector (channel : Channel) (offset : ℚ) : ℚ :=
  if offset < 0 then channel.previous.start + (offset + 2) else channel.start + offset

/-- The colour whose channels are given around the circle, beginning with a certain one. -/
def arrange (channel : Channel) (first second third : ℚ) : Rgb ℚ :=
  match channel with
  | red => ⟨first, second, third⟩
  | green => ⟨third, first, second⟩
  | blue => ⟨second, third, first⟩

theorem arrange_previous (channel : Channel) (first second third : ℚ) :
    channel.previous.arrange third first second = channel.arrange first second third := by
  cases channel <;> rfl

theorem start_nonneg (channel : Channel) : 0 ≤ channel.start := by
  cases channel <;> simp [start]

theorem floor_start (channel : Channel) : channel.start = 2 * ⌊channel.start / 2⌋ := by
  cases channel <;> norm_num [start]

/-- Only before red a turn has to be added. -/
theorem sector_eq (channel : Channel) {offset : ℚ} (low : -1 ≤ offset) :
    channel.sector offset =
      if channel.start + offset < 0 then channel.start + offset + 6 else channel.start + offset := by
  rw [sector]
  split_ifs with before turned turned <;> cases channel <;> simp only [previous, start] at * <;>
    linarith

theorem sector_bounds (channel : Channel) {offset : ℚ} (low : -1 ≤ offset) (high : offset ≤ 1) :
    0 ≤ channel.sector offset ∧ channel.sector offset < 6 := by
  cases channel <;> simp only [sector, previous, start] <;> split_ifs <;> constructor <;> linarith

end Channel

/-! ## From the circle to the channels -/

namespace Hsv

/-- How far the strongest and the weakest channel lie apart. -/
def chroma (c : Hsv ℚ) : ℚ :=
  c.value * c.saturation

/-- The weakest channel. -/
def base (c : Hsv ℚ) : ℚ :=
  c.value - c.chroma

variable {c : Hsv ℚ} {offset : ℚ}

theorem toRgb_exact (c : Hsv ℚ) :
    c.toRgb =
      let second := c.chroma * (1 - |Scalar.remainder (6 * c.hue) 2 - 1|) + c.base
      if 6 * c.hue < 1 then ⟨c.value, second, c.base⟩
      else if 6 * c.hue < 2 then ⟨second, c.value, c.base⟩
      else if 6 * c.hue < 3 then ⟨c.base, c.value, second⟩
      else if 6 * c.hue < 4 then ⟨c.base, second, c.value⟩
      else if 6 * c.hue < 5 then ⟨second, c.base, c.value⟩
      else ⟨c.value, c.base, second⟩ := by
  have abs_eq (x : ℚ) : Scalar.abs x = |x| := rfl
  rw [mul_comm 6 c.hue]
  norm_num only [toRgb, base, chroma, abs_eq]
  split_ifs <;> simp

theorem remainder_start_add (channel : Channel) (nonneg : 0 ≤ offset) (lt_two : offset < 2) :
    Scalar.remainder (channel.start + offset) 2 = offset := by
  have whole : Scalar.wholePart ((channel.start + offset) / 2) = ⌊channel.start / 2⌋ := by
    have start_nonneg := channel.start_nonneg
    have start_eq := channel.floor_start
    exact Scalar.wholePart_eq_of_nonneg (by linarith) (by linarith) (by linarith)
  change channel.start + offset - 2 * Scalar.wholePart ((channel.start + offset) / 2) = offset
  rw [whole, ← channel.floor_start, add_sub_cancel_left]

/-- From a channel to the next one, the next channel rises until both are equal, and then the first
one falls. -/
theorem toRgb_behind (channel : Channel) (turn : 6 * c.hue = channel.start + offset)
    (nonneg : 0 ≤ offset) (lt_two : offset < 2) :
    c.toRgb = channel.arrange (c.chroma * min 1 (2 - offset) + c.base)
      (c.chroma * min 1 offset + c.base) c.base := by
  have full : c.chroma * 1 + c.base = c.value := by rw [mul_one, base, add_sub_cancel]
  have rest : Scalar.remainder (6 * c.hue) 2 = offset := by
    rw [turn, remainder_start_add channel nonneg lt_two]
  rw [toRgb_exact, rest]
  dsimp only
  obtain rising | falling := lt_or_ge offset 1
  · have share : 1 - |offset - 1| = offset := by
      rw [abs_of_neg (by linarith)]
      ring
    rw [share, min_eq_left (by linarith), min_eq_right rising.le, full]
    cases channel with
    | red =>
        rw [Channel.start] at turn
        exact if_pos (by linarith)
    | green =>
        rw [Channel.start] at turn
        rw [if_neg (by linarith), if_neg (by linarith), if_pos (by linarith), Channel.arrange]
    | blue =>
        rw [Channel.start] at turn
        rw [if_neg (by linarith), if_neg (by linarith), if_neg (by linarith),
          if_neg (by linarith), if_pos (by linarith), Channel.arrange]
  · have share : 1 - |offset - 1| = 2 - offset := by
      rw [abs_of_nonneg (by linarith)]
      ring
    rw [share, min_eq_right (by linarith), min_eq_left falling, full]
    cases channel with
    | red =>
        rw [Channel.start] at turn
        rw [if_neg (by linarith), if_pos (by linarith), Channel.arrange]
    | green =>
        rw [Channel.start] at turn
        rw [if_neg (by linarith), if_neg (by linarith), if_neg (by linarith),
          if_pos (by linarith), Channel.arrange]
    | blue =>
        rw [Channel.start] at turn
        rw [if_neg (by linarith), if_neg (by linarith), if_neg (by linarith),
          if_neg (by linarith), if_neg (by linarith), Channel.arrange]

/-- Near a channel, that channel is the strongest one; behind it the next channel comes second, and
before it the previous one. -/
theorem toRgb_near (channel : Channel) (turn : 6 * c.hue = channel.sector offset)
    (low : -1 ≤ offset) (high : offset ≤ 1) :
    c.toRgb = channel.arrange c.value (c.chroma * max offset 0 + c.base)
      (c.chroma * max (-offset) 0 + c.base) := by
  have full : c.chroma * 1 + c.base = c.value := by rw [mul_one, base, add_sub_cancel]
  rw [Channel.sector] at turn
  split_ifs at turn with before
  · rw [toRgb_behind channel.previous turn (by linarith) (by linarith), channel.arrange_previous,
      min_eq_left (by linarith), min_eq_right (by linarith), full, max_eq_right before.le,
      max_eq_left (by linarith), mul_zero, zero_add, sub_add_cancel_right]
  · have behind : 0 ≤ offset := not_lt.mp before
    rw [toRgb_behind channel turn behind (by linarith), min_eq_left (by linarith),
      min_eq_right high, full, max_eq_left behind, max_eq_right (neg_nonpos.mpr behind), mul_zero,
      zero_add]

theorem shiftHue_intCast {hue : ℚ} (turns : Int) (nonneg : 0 ≤ hue) (lt_one : hue < 1) :
    shiftHue hue (turns : ℚ) = hue := by
  have rest : Scalar.remainder (hue + turns) 1 = hue + turns - Scalar.wholePart (hue + turns) := by
    change hue + turns - 1 * Scalar.wholePart ((hue + turns) / 1) = _
    rw [one_mul, div_one]
  have unit : Scalar.abs (1 : ℚ) = 1 := abs_one
  norm_num only [shiftHue, Scalar.remainderAbove, rest, unit, Scalar.wholePart]
  by_cases up : 0 ≤ hue + turns
  · have floor_eq : ⌊hue + turns⌋ = turns := by
      rw [Int.floor_add_intCast, Int.floor_eq_zero_iff.mpr ⟨nonneg, lt_one⟩, zero_add]
    rw [if_pos up, floor_eq, add_sub_cancel_right, if_neg nonneg.not_gt]
  · -- the remainder has the sign of the sum; below zero it lacks a turn
    rw [if_neg up, Int.ceil_add_intCast]
    obtain rfl | positive := nonneg.eq_or_lt
    · simp
    · have ceil_eq : ⌈hue⌉ = 1 :=
        Int.ceil_eq_iff.mpr ⟨by simpa using positive, by simpa using lt_one.le⟩
      rw [ceil_eq]
      push_cast
      rw [if_pos (by linarith)]
      ring

end Hsv

/-! ## From the channels to the circle and back -/

namespace Rgb

variable (c : Rgb ℚ)

/-- The largest channel. -/
def strongest : ℚ :=
  max (max c.red c.green) c.blue

/-- The smallest channel. -/
def weakest : ℚ :=
  min (min c.red c.green) c.blue

/-- How far the channels lie apart. -/
def spread : ℚ :=
  c.strongest - c.weakest

theorem toHsv_exact :
    c.toHsv =
      ⟨c.hue c.strongest c.spread,
        if 1 / 10000 < c.strongest then c.spread / c.strongest else 0, c.strongest⟩ := by
  simp only [toHsv, Scalar.larger_exact, Scalar.smaller_exact]
  norm_num [strongest, weakest, spread]

theorem strongest_eq : c.strongest = c.red ∨ c.strongest = c.green ∨ c.strongest = c.blue := by
  rw [strongest]
  obtain outer | outer := max_choice (max c.red c.green) c.blue
  · rw [outer]
    exact (max_choice c.red c.green).imp_right .inl
  · exact .inr (.inr outer)

/-- A number lies among the channels. -/
def Spans (x : ℚ) : Prop :=
  c.weakest ≤ x ∧ x ≤ c.strongest

theorem spans_red : c.Spans c.red := by
  simp [Spans, weakest, strongest]

theorem spans_green : c.Spans c.green := by
  simp [Spans, weakest, strongest]

theorem spans_blue : c.Spans c.blue := by
  simp [Spans, weakest, strongest]

variable {c}

theorem Spans.offset_bounds {x y : ℚ} (x_spans : c.Spans x) (y_spans : c.Spans y)
    (positive : 0 < c.spread) : -1 ≤ (x - y) / c.spread ∧ (x - y) / c.spread ≤ 1 := by
  rw [le_div_iff₀ positive, div_le_one positive, spread]
  constructor <;> linarith [x_spans.1, x_spans.2, y_spans.1, y_spans.2]

theorem remainder_six {offset : ℚ} (low : -1 ≤ offset) (high : offset ≤ 1) :
    Scalar.remainder offset 6 = offset := by
  have whole : Scalar.wholePart (offset / 6) = 0 := by
    rw [Scalar.wholePart]
    split_ifs with nonneg
    · exact Int.floor_eq_zero_iff.mpr ⟨nonneg, by linarith⟩
    · exact Int.ceil_eq_zero_iff.mpr ⟨by linarith, by linarith⟩
  change offset - 6 * Scalar.wholePart (offset / 6) = offset
  rw [whole, Int.cast_zero, mul_zero, sub_zero]

theorem six_mul_hue (chromatic : 1 / 10000 < c.spread) :
    6 * c.toHsv.hue =
      let sector :=
        if c.strongest = c.red then (c.green - c.blue) / c.spread
        else if c.strongest = c.green then (c.blue - c.red) / c.spread + 2
        else (c.red - c.green) / c.spread + 4
      if sector < 0 then sector + 6 else sector := by
  have near_red := c.spans_green.offset_bounds c.spans_blue (by linarith)
  rw [toHsv_exact, hue]
  norm_num only [remainder_six near_red.1 near_red.2, if_pos chromatic, beq_iff_eq]
  split_ifs <;> linarith

/-- A colour lies near its strongest channel, behind it if the next channel comes second and before
it if the previous one does.  Of equal channels the first one counts as the strongest. -/
theorem exists_leading (chromatic : 1 / 10000 < c.spread) :
    ∃ (channel : Channel) (next previous : ℚ),
      c = channel.arrange c.strongest next previous ∧ c.Spans next ∧ c.Spans previous ∧
        6 * c.toHsv.hue = channel.sector ((next - previous) / c.spread) := by
  have positive : 0 < c.spread := by linarith
  have turn := six_mul_hue chromatic
  by_cases red : c.strongest = c.red
  · refine ⟨.red, c.green, c.blue, ?_, c.spans_green, c.spans_blue, ?_⟩
    · rw [red, Channel.arrange]
    · have offset := c.spans_green.offset_bounds c.spans_blue positive
      simpa only [if_pos red, Channel.sector_eq _ offset.1, Channel.start, zero_add] using turn
  · by_cases green : c.strongest = c.green
    · refine ⟨.green, c.blue, c.red, ?_, c.spans_blue, c.spans_red, ?_⟩
      · rw [green, Channel.arrange]
      · have offset := c.spans_blue.offset_bounds c.spans_red positive
        simpa only [if_neg red, if_pos green, Channel.sector_eq _ offset.1, Channel.start,
          add_comm (2 : ℚ)] using turn
    · have blue : c.strongest = c.blue :=
        (c.strongest_eq.resolve_left red).resolve_left green
      refine ⟨.blue, c.red, c.green, ?_, c.spans_red, c.spans_green, ?_⟩
      · rw [blue, Channel.arrange]
      · have offset := c.spans_red.offset_bounds c.spans_green positive
        simpa only [if_neg red, if_neg green, Channel.sector_eq _ offset.1, Channel.start,
          add_comm (4 : ℚ)] using turn

theorem weakest_arrange (channel : Channel) (first second third : ℚ) :
    (channel.arrange first second third).weakest = min first (min second third) := by
  cases channel with
  | red => exact min_assoc _ _ _
  | green => exact (min_assoc _ _ _).trans (min_comm _ _ |>.trans (min_assoc _ _ _))
  | blue => exact min_comm _ _

theorem hue_of_gray (gray : c.spread ≤ 1 / 10000) : c.toHsv.hue = 0 := by
  rw [toHsv_exact, hue]
  norm_num only [if_neg gray.not_gt]

theorem chroma_toHsv (chromatic : 1 / 10000 < c.spread) (weakest_nonneg : 0 ≤ c.weakest) :
    c.toHsv.chroma = c.spread := by
  have strongest_gt : 1 / 10000 < c.strongest := by
    rw [spread] at chromatic
    linarith
  simp only [Hsv.chroma, toHsv_exact, if_pos strongest_gt]
  exact mul_div_cancel₀ _ (by linarith)

theorem mul_max_add_min {length : ℚ} (positive : 0 < length) (x y : ℚ) :
    length * max ((x - y) / length) 0 + min x y = x := by
  rw [mul_max_of_nonneg _ _ positive.le, mul_div_cancel₀ _ positive.ne', mul_zero]
  obtain ordered | ordered := le_total x y
  · rw [max_eq_right (by linarith), min_eq_left ordered, zero_add]
  · rw [max_eq_left (by linarith), min_eq_right ordered, sub_add_cancel]

/-- A colour whose channels lie apart is recovered from its hue, saturation and value. -/
theorem toRgb_toHsv (chromatic : 1 / 10000 < c.spread) (weakest_nonneg : 0 ≤ c.weakest) :
    c.toHsv.toRgb = c := by
  have positive : 0 < c.spread := by linarith
  obtain ⟨channel, next, previous, arranged, next_spans, previous_spans, turn⟩ :=
    exists_leading chromatic
  have weakest_eq : c.weakest = min next previous := by
    calc
      c.weakest = (channel.arrange c.strongest next previous).weakest := congrArg weakest arranged
      _ = min c.strongest (min next previous) := weakest_arrange channel _ _ _
      _ = min next previous := min_eq_right ((min_le_left _ _).trans next_spans.2)
  have chroma_eq := chroma_toHsv chromatic weakest_nonneg
  have value_eq : c.toHsv.value = c.strongest := by rw [toHsv_exact]
  have base_eq : c.toHsv.base = min next previous := by
    rw [Hsv.base, value_eq, chroma_eq, spread, sub_sub_cancel, weakest_eq]
  have offset := next_spans.offset_bounds previous_spans positive
  calc
    c.toHsv.toRgb = channel.arrange c.strongest
        (c.spread * max ((next - previous) / c.spread) 0 + min next previous)
        (c.spread * max (-((next - previous) / c.spread)) 0 + min next previous) := by
      rw [Hsv.toRgb_near channel turn offset.1 offset.2, chroma_eq, value_eq, base_eq]
    _ = channel.arrange c.strongest next previous := by
      rw [mul_max_add_min positive, ← neg_div, neg_sub, min_comm, mul_max_add_min positive]
    _ = c := arranged.symm

/-- A nearly gray colour comes back with all channels in its range. -/
theorem spans_toRgb_toHsv (gray : c.spread ≤ 1 / 10000) :
    c.Spans c.toHsv.toRgb.red ∧ c.Spans c.toHsv.toRgb.green ∧ c.Spans c.toHsv.toRgb.blue := by
  have ordered : c.weakest ≤ c.strongest := c.spans_red.1.trans c.spans_red.2
  have turn : 6 * c.toHsv.hue = Channel.red.sector 0 := by
    rw [hue_of_gray gray, Channel.sector, if_neg (lt_irrefl _), Channel.start, mul_zero, zero_add]
  have chroma_bounds : 0 ≤ c.toHsv.chroma ∧ c.toHsv.chroma ≤ c.spread := by
    have spread_nonneg : 0 ≤ c.spread := sub_nonneg.mpr ordered
    simp only [Hsv.chroma, toHsv_exact]
    split_ifs with bright
    · have positive : 0 < c.strongest := by linarith
      rw [mul_div_cancel₀ _ positive.ne']
      exact ⟨spread_nonneg, le_rfl⟩
    · rw [mul_zero]
      exact ⟨le_rfl, spread_nonneg⟩
  have value_eq : c.toHsv.value = c.strongest := by rw [toHsv_exact]
  have base_spans : c.Spans c.toHsv.base := by
    rw [Spans, Hsv.base, value_eq]
    rw [spread] at chroma_bounds
    constructor <;> linarith
  rw [Hsv.toRgb_near .red turn (by norm_num) (by norm_num), value_eq]
  simp only [Channel.arrange, neg_zero, max_self, mul_zero, zero_add]
  exact ⟨⟨ordered, le_rfl⟩, base_spans, base_spans⟩

/-- Hue, saturation and value of a colour whose channels lie in the unit interval do so as well, and
no hue is a whole turn. -/
theorem toHsv_bounds (weakest_nonneg : 0 ≤ c.weakest) (strongest_le_one : c.strongest ≤ 1) :
    (0 ≤ c.toHsv.hue ∧ c.toHsv.hue < 1) ∧
      (0 ≤ c.toHsv.saturation ∧ c.toHsv.saturation ≤ 1) ∧
      0 ≤ c.toHsv.value ∧ c.toHsv.value ≤ 1 := by
  have ordered : c.weakest ≤ c.strongest := c.spans_red.1.trans c.spans_red.2
  refine ⟨?_, ?_, ?_⟩
  · by_cases gray : c.spread ≤ 1 / 10000
    · simp [hue_of_gray gray]
    · have chromatic : 1 / 10000 < c.spread := not_le.mp gray
      have positive : 0 < c.spread := by linarith
      obtain ⟨channel, next, previous, _, next_spans, previous_spans, turn⟩ :=
        exists_leading chromatic
      have offset := next_spans.offset_bounds previous_spans positive
      have bounds := channel.sector_bounds offset.1 offset.2
      rw [← turn] at bounds
      constructor <;> linarith
  · simp only [toHsv_exact]
    split_ifs with bright
    · have positive : 0 < c.strongest := by linarith
      rw [div_le_one positive, spread]
      exact ⟨div_nonneg (sub_nonneg.mpr ordered) positive.le, by linarith⟩
    · exact ⟨le_rfl, zero_le_one⟩
  · rw [toHsv_exact]
    exact ⟨weakest_nonneg.trans ordered, strongest_le_one⟩

theorem adjust_turns (weakest_nonneg : 0 ≤ c.weakest) (strongest_le_one : c.strongest ≤ 1)
    (turns : Int) : c.adjust ⟨turns, 0, 0⟩ = c.toHsv.toRgb := by
  obtain ⟨⟨hue_nonneg, hue_lt⟩, ⟨saturation_nonneg, saturation_le⟩, value_nonneg, value_le⟩ :=
    toHsv_bounds weakest_nonneg strongest_le_one
  have clamped {x : ℚ} (nonneg : 0 ≤ x) (le_one : x ≤ 1) : Scalar.clampUnit (x + 0) = x := by
    rw [Scalar.clampUnit_exact, add_zero, min_eq_right le_one, max_eq_right nonneg]
  simp only [adjust, Hsv.shiftHue_intCast turns hue_nonneg hue_lt,
    clamped saturation_nonneg saturation_le, clamped value_nonneg value_le]

/-- No channel of a colour differs by more than a bound from that of another. -/
def Within (bound : ℚ) (c other : Rgb ℚ) : Prop :=
  |c.red - other.red| ≤ bound ∧ |c.green - other.green| ≤ bound ∧ |c.blue - other.blue| ≤ bound

theorem Spans.abs_sub_le {bound x y : ℚ} (x_spans : c.Spans x) (y_spans : c.Spans y)
    (gray : c.spread ≤ bound) : |x - y| ≤ bound := by
  rw [spread] at gray
  rw [abs_le]
  constructor <;> linarith [x_spans.1, x_spans.2, y_spans.1, y_spans.2]

/-- In exact arithmetic a colour of the unit cube comes back from its hue, saturation and value: as
it was if its channels lie apart, and otherwise with no channel changed by more than a
ten-thousandth.  The same holds after adjusting it by whole turns of its hue and nothing else, and
its alpha stays. -/
theorem hsv_lossless {red green blue : ℚ} (red_mem : 0 ≤ red ∧ red ≤ 1)
    (green_mem : 0 ≤ green ∧ green ≤ 1) (blue_mem : 0 ≤ blue ∧ blue ≤ 1) :
    let c : Rgb ℚ := ⟨red, green, blue⟩
    let spread := max (max red green) blue - min (min red green) blue
    (1 / 10000 < spread → c.toHsv.toRgb = c) ∧
      (spread ≤ 1 / 10000 → Within (1 / 10000) c.toHsv.toRgb c) ∧
      ∀ (turns : Int) (alpha : ℚ),
        let adjusted := (⟨red, green, blue, alpha⟩ : Rgba ℚ).adjust ⟨turns, 0, 0⟩
        (1 / 10000 < spread → adjusted = ⟨red, green, blue, alpha⟩) ∧
          (spread ≤ 1 / 10000 →
            Within (1 / 10000) ⟨adjusted.red, adjusted.green, adjusted.blue⟩ c) ∧
          adjusted.alpha = alpha := by
  intro c spread
  have weakest_nonneg : 0 ≤ c.weakest := le_min (le_min red_mem.1 green_mem.1) blue_mem.1
  have strongest_le_one : c.strongest ≤ 1 := max_le (max_le red_mem.2 green_mem.2) blue_mem.2
  have exactly (chromatic : 1 / 10000 < c.spread) : c.toHsv.toRgb = c :=
    toRgb_toHsv chromatic weakest_nonneg
  have nearly (gray : c.spread ≤ 1 / 10000) : Within (1 / 10000) c.toHsv.toRgb c := by
    obtain ⟨red_spans, green_spans, blue_spans⟩ := spans_toRgb_toHsv gray
    exact ⟨red_spans.abs_sub_le c.spans_red gray, green_spans.abs_sub_le c.spans_green gray,
      blue_spans.abs_sub_le c.spans_blue gray⟩
  refine ⟨exactly, nearly, ?_⟩
  intro turns alpha adjusted
  have adjusted_eq : adjusted =
      ⟨c.toHsv.toRgb.red, c.toHsv.toRgb.green, c.toHsv.toRgb.blue, alpha⟩ := by
    rw [← adjust_turns weakest_nonneg strongest_le_one turns]
    rfl
  rw [adjusted_eq]
  refine ⟨fun chromatic => ?_, nearly, rfl⟩
  rw [exactly chromatic]

/-- A colour that keeps its channels when its hue goes round three times backwards, and a nearly
gray one that comes back changed a little. -/
theorem hsv_lossless_skyAndFog :
    (⟨1 / 5, 1 / 2, 9 / 10, 1 / 3⟩ : Rgba ℚ).adjust ⟨(-3 : Int), 0, 0⟩ =
        ⟨1 / 5, 1 / 2, 9 / 10, 1 / 3⟩ ∧
      Within (1 / 10000) (⟨1 / 2, 10001 / 20000, 1 / 2⟩ : Rgb ℚ).toHsv.toRgb
        ⟨1 / 2, 10001 / 20000, 1 / 2⟩ := by
  have sky := @hsv_lossless (1 / 5) (1 / 2) (9 / 10) (by norm_num) (by norm_num) (by norm_num)
  have fog :=
    @hsv_lossless (1 / 2) (10001 / 20000) (1 / 2) (by norm_num) (by norm_num) (by norm_num)
  exact ⟨(sky.2.2 (-3) (1 / 3)).1 (by norm_num), fog.2.1 (by norm_num)⟩

end Rgb
end TextureGraph
