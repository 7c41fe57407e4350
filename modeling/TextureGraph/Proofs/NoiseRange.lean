import Mathlib.Tactic.Linarith
import Mathlib.Tactic.Positivity
import Mathlib.Tactic.Ring
import TextureGraph.Noise.Gradient
import TextureGraph.Proofs.Exact

/-!
# The range of gradient noise

In exact arithmetic the four corners of a cell pull the noise away from zero by at most the
distance to each along the axes.  The smooth weight lies on the same side of one half as the offset
it belongs to, so the blend of those distances never exceeds one.  Noise is therefore in the unit
interval, and a number of layers stays below one by the weight that no layer has used.
-/

namespace TextureGraph
namespace Noise

/-! ## The smooth weight -/

/-- The weight and its offset lie on the same side of one half. -/
theorem fade_sub_half (t : ℚ) :
    fade t - 1 / 2 = (t - 1 / 2) * (6 * (t * (1 - t)) ^ 2 + 2 * (t * (1 - t)) + 1) := by
  norm_num only [fade]
  ring

theorem fade_one_sub (t : ℚ) : fade (1 - t) = 1 - fade t := by
  norm_num only [fade]
  ring

theorem fade_nonneg {t : ℚ} (nonneg : 0 ≤ t) : 0 ≤ fade t := by
  have square : fade t = t * t * t * (6 * (t - 5 / 4) ^ 2 + 5 / 8) := by
    norm_num only [fade]
    ring
  rw [square]
  positivity

theorem fade_le_one {t : ℚ} (le_one : t ≤ 1) : fade t ≤ 1 := by
  have mirrored := fade_nonneg (sub_nonneg.mpr le_one)
  rw [fade_one_sub] at mirrored
  linarith

/-! ## Blends -/

theorem blend_eq (a b t : ℚ) : blend a b t = (1 - t) * a + t * b := by
  norm_num only [blend]
  ring

theorem blend_neg (a b t : ℚ) : blend (-a) (-b) t = -blend a b t := by
  rw [blend_eq, blend_eq]
  ring

section Weights

variable {t : ℚ} (t_nonneg : 0 ≤ t) (t_le_one : t ≤ 1)
include t_nonneg t_le_one

theorem blend_le_blend {a b c d : ℚ} (first : a ≤ c) (second : b ≤ d) :
    blend a b t ≤ blend c d t := by
  rw [blend_eq, blend_eq]
  have := sub_nonneg.mpr t_le_one
  gcongr

theorem abs_blend_le {a b c d : ℚ} (first : |a| ≤ c) (second : |b| ≤ d) :
    |blend a b t| ≤ blend c d t := by
  rw [abs_le] at first second ⊢
  have low := blend_le_blend t_nonneg t_le_one first.1 second.1
  rw [blend_neg] at low
  exact ⟨low, blend_le_blend t_nonneg t_le_one first.2 second.2⟩

end Weights

/-- Distances to both ends of a unit interval, blended by the smooth weight, come to at most one
half, and to less away from the middle. -/
theorem blend_fade_le {t : ℚ} (nonneg : 0 ≤ t) (le_one : t ≤ 1) :
    blend t (1 - t) (fade t) ≤ 1 / 2 - 2 * (t - 1 / 2) ^ 2 := by
  have centred : blend t (1 - t) (fade t) =
      1 / 2 - 2 * ((t - 1 / 2) * (fade t - 1 / 2)) := by
    rw [blend_eq]
    ring
  have steep : (t - 1 / 2) ^ 2 ≤ (t - 1 / 2) * (fade t - 1 / 2) := by
    have between : 0 ≤ t * (1 - t) := mul_nonneg nonneg (sub_nonneg.mpr le_one)
    rw [fade_sub_half, ← mul_assoc, ← sq]
    refine le_mul_of_one_le_right (sq_nonneg _) ?_
    have square := sq_nonneg (t * (1 - t))
    linarith
  linarith

/-! ## Gradients -/

theorem low_bits_lt_two_iff (hash : UInt8) : hash &&& 3 < 2 ↔ hash &&& 2 = 0 := by
  have checked : ∀ bits : BitVec 8, bits &&& 3#8 < 2#8 ↔ bits &&& 2#8 = 0#8 := by
    decide +kernel
  rw [UInt8.lt_iff_toBitVec_lt, ← UInt8.toBitVec_inj]
  exact checked hash.toBitVec

/-- The four hashes choose among three gradients. -/
theorem gradient_cases (hash : UInt8) (x y : ℚ) :
    gradient hash x y = x + y ∨ gradient hash x y = y - x ∨ gradient hash x y = -(x + y) := by
  simp only [gradient, low_bits_lt_two_iff]
  split_ifs
  · exact .inl rfl
  · exact .inr (.inl (sub_eq_add_neg y x).symm)
  · exact .inr (.inl (by ring))
  · exact .inr (.inr (by ring))

theorem abs_gradient_le (hash : UInt8) (x y : ℚ) : |gradient hash x y| ≤ |x| + |y| := by
  rcases gradient_cases hash x y with sum | difference | negated
  · rw [sum]
    exact abs_add_le x y
  · rw [difference, add_comm]
    exact abs_sub y x
  · rw [negated, abs_neg]
    exact abs_add_le x y

theorem abs_gradient_le_add (hash : UInt8) {x y across along : ℚ} (across_eq : |x| = across)
    (along_eq : |y| = along) : |gradient hash x y| ≤ across + along :=
  across_eq ▸ along_eq ▸ abs_gradient_le hash x y

/-! ## One cell -/

/-- The distances of an offset from both ends of its cell. -/
theorem abs_offsets {x : ℚ} (mem : 0 ≤ x ∧ x ≤ 1) : |x| = x ∧ |x - 1| = 1 - x :=
  ⟨abs_of_nonneg mem.1, by rw [abs_of_nonpos (sub_nonpos.mpr mem.2), neg_sub]⟩

section Cell

variable {x y : ℚ} (x_mem : 0 ≤ x ∧ x ≤ 1) (y_mem : 0 ≤ y ∧ y ≤ 1)
include x_mem y_mem

/-- The pull of a cell's corners is in the interval from minus one to one. -/
theorem abs_corners_le (a b c d : UInt8) :
    |blend (blend (gradient a x y) (gradient b (x - 1) y) (fade x))
      (blend (gradient c x (y - 1)) (gradient d (x - 1) (y - 1)) (fade x)) (fade y)| ≤ 1 := by
  obtain ⟨left, right⟩ := abs_offsets x_mem
  obtain ⟨bottom, top⟩ := abs_offsets y_mem
  obtain ⟨x_nonneg, x_le_one⟩ := x_mem
  obtain ⟨y_nonneg, y_le_one⟩ := y_mem
  have across := fade_nonneg x_nonneg
  have across_le := fade_le_one x_le_one
  calc
    _ ≤ blend (blend (x + y) (1 - x + y) (fade x))
          (blend (x + (1 - y)) (1 - x + (1 - y)) (fade x)) (fade y) :=
      abs_blend_le (fade_nonneg y_nonneg) (fade_le_one y_le_one)
        (abs_blend_le across across_le (abs_gradient_le_add a left bottom)
          (abs_gradient_le_add b right bottom))
        (abs_blend_le across across_le (abs_gradient_le_add c left top)
          (abs_gradient_le_add d right top))
    _ = blend x (1 - x) (fade x) + blend y (1 - y) (fade y) := by
      simp only [blend_eq]
      ring
    _ ≤ 1 / 2 - 2 * (x - 1 / 2) ^ 2 + (1 / 2 - 2 * (y - 1 / 2) ^ 2) :=
      add_le_add (blend_fade_le x_nonneg x_le_one) (blend_fade_le y_nonneg y_le_one)
    _ ≤ 1 := by
      have x_square := sq_nonneg (x - 1 / 2)
      have y_square := sq_nonneg (y - 1 / 2)
      linarith

theorem cell_mem_unit (i j : UInt8) : 0 ≤ cell i j x y ∧ cell i j x y ≤ 1 := by
  obtain ⟨low, high⟩ := abs_le.mp (abs_corners_le x_mem y_mem (latticeHash i j)
    (latticeHash (i + 1) j) (latticeHash i (j + 1)) (latticeHash (i + 1) (j + 1)))
  norm_num only [cell]
  constructor <;> linarith

end Cell

theorem perlin_mem_unit (x y : ℚ) : 0 ≤ perlin x y ∧ perlin x y ≤ 1 :=
  cell_mem_unit ⟨Int.fract_nonneg x, (Int.fract_lt_one x).le⟩
    ⟨Int.fract_nonneg y, (Int.fract_lt_one y).le⟩ _ _

/-! ## Layers -/

/-- What a number of layers adds falls short of twice the weight of the first by at least the weight
of the last. -/
theorem layers_bounds (x y : ℚ) (octaves : Nat) (sum : ℚ) {weight : ℚ} (nonneg : 0 ≤ weight)
    (frequency : ℚ) :
    sum ≤ layers x y octaves sum weight frequency ∧
      layers x y octaves sum weight frequency ≤ sum + 2 * weight * (1 - (1 / 2) ^ octaves) := by
  induction octaves generalizing sum weight frequency with
  | zero => simp [layers]
  | succ octaves induction =>
      obtain ⟨noise_nonneg, noise_le_one⟩ := perlin_mem_unit (x * frequency) (y * frequency)
      have halved : weight * 0.5 = weight / 2 := by norm_num; ring
      obtain ⟨low, high⟩ := induction (sum + weight * perlin (x * frequency) (y * frequency))
        (div_nonneg nonneg zero_le_two) (frequency * 2.0)
      have first_nonneg := mul_nonneg nonneg noise_nonneg
      have first_le := mul_le_of_le_one_right nonneg noise_le_one
      rw [layers, halved, pow_succ]
      constructor <;> linarith

/-- In exact arithmetic gradient noise lies in the unit interval, and fractal noise of `octaves`
layers between zero and `1 - 2⁻ᵒᶜᵗᵃᵛᵉˢ`. -/
theorem noise_range (x y : ℚ) (octaves : Nat) :
    (0 ≤ perlin x y ∧ perlin x y ≤ 1) ∧
      0 ≤ fractal x y octaves ∧ fractal x y octaves ≤ 1 - (1 / 2) ^ octaves := by
  obtain ⟨low, high⟩ := layers_bounds x y octaves 0 (show (0 : ℚ) ≤ 1 / 2 by norm_num) 1
  refine ⟨perlin_mem_unit x y, ?_⟩
  have start : fractal x y octaves = layers x y octaves 0 (1 / 2) 1 := by
    norm_num only [fractal]
  rw [start]
  exact ⟨low, by linarith⟩

end Noise
end TextureGraph
