import TextureGraph.Proofs.NoiseRange
import TextureGraph.Proofs.Single.Arithmetic

/-!
# The range of gradient noise in single precision

No lattice point has the gradient that points to its lower right, so exact noise keeps away from
both ends of the unit interval.  Single precision computes a cell with an error far below that
distance.  Noise is therefore in the unit interval wherever its coordinates are finite; where one
is not, the offset within the cell is not a number, and neither is the noise.
-/

namespace TextureGraph
namespace Noise

/-! ## The margin of exact noise -/

theorem fade_mem {q : ℚ} (mem : 0 ≤ q ∧ q ≤ 1) : 0 ≤ fade q ∧ fade q ≤ 1 :=
  ⟨fade_nonneg mem.1, fade_le_one mem.2⟩

theorem fade_middle {t : ℚ} (middle : |t - 1 / 2| ≤ 1 / 8) :
    1 / 4 ≤ fade t ∧ fade t ≤ 3 / 4 := by
  obtain ⟨low, high⟩ := abs_le.mp middle
  have product_nonneg : 0 ≤ t * (1 - t) := mul_nonneg (by linarith) (by linarith)
  have product_le : t * (1 - t) ≤ 1 / 4 := by
    have square := sq_nonneg (t - 1 / 2)
    linarith
  have slope_le : 6 * (t * (1 - t)) ^ 2 + 2 * (t * (1 - t)) + 1 ≤ 2 := by
    have square : (t * (1 - t)) ^ 2 ≤ (1 / 4) ^ 2 := pow_le_pow_left₀ product_nonneg product_le 2
    linarith
  have distance : |fade t - 1 / 2| ≤ 1 / 8 * 2 := by
    rw [fade_sub_half, abs_mul]
    refine mul_le_mul middle ?_ (abs_nonneg _) (by norm_num)
    rwa [abs_of_nonneg (by positivity)]
  obtain ⟨fade_low, fade_high⟩ := abs_le.mp distance
  constructor <;> linarith

theorem gradient_le {x y : ℚ} (x_nonneg : 0 ≤ x) (y_nonpos : y ≤ 0) (hash : UInt8) :
    gradient hash x y ≤ |x + y| := by
  rcases gradient_cases hash x y with sum | difference | negated
  · exact sum.trans_le (le_abs_self _)
  · have nonneg := abs_nonneg (x + y)
    linarith
  · exact negated.trans_le (neg_le_abs _)

theorem neg_gradient_le {x y : ℚ} (x_nonpos : x ≤ 0) (y_nonneg : 0 ≤ y) (hash : UInt8) :
    -gradient hash x y ≤ |x + y| := by
  rcases gradient_cases hash x y with sum | difference | negated
  · rw [sum]
    exact neg_le_abs _
  · have nonneg := abs_nonneg (x + y)
    linarith
  · rw [negated, neg_neg]
    exact le_abs_self _

section Cell

variable {x y : ℚ} (x_mem : 0 ≤ x ∧ x ≤ 1) (y_mem : 0 ≤ y ∧ y ≤ 1)
include x_mem y_mem

/-- With one corner reduced to the sum of its offsets, the pulls fall short of one: near the middle
of the cell that corner has weight, elsewhere the blend of distances is smaller. -/
theorem blend_distances_le :
    blend (blend (x + y) |x + y - 1| (fade x)) (blend (x + (1 - y)) (1 - x + (1 - y)) (fade x))
      (fade y) ≤ 31 / 32 := by
  obtain ⟨x_nonneg, x_le_one⟩ := x_mem
  obtain ⟨y_nonneg, y_le_one⟩ := y_mem
  have across := blend_fade_le x_nonneg x_le_one
  have along := blend_fade_le y_nonneg y_le_one
  have u_nonneg := fade_nonneg x_nonneg
  have v_le := fade_le_one y_le_one
  rw [blend_eq] at across along
  -- What the reduced corner loses.
  have loss_eq : blend (blend (x + y) |x + y - 1| (fade x))
      (blend (x + (1 - y)) (1 - x + (1 - y)) (fade x)) (fade y) =
        (1 - fade x) * x + fade x * (1 - x) + ((1 - fade y) * y + fade y * (1 - y)) -
          (1 - fade y) * fade x * (1 - x + y - |x + y - 1|) := by
    simp only [blend_eq]
    ring
  have reduced : |x + y - 1| ≤ 1 - x + y := abs_le.mpr ⟨by linarith, by linarith⟩
  rw [loss_eq]
  have x_square := sq_nonneg (x - 1 / 2)
  have y_square := sq_nonneg (y - 1 / 2)
  by_cases middle : |x - 1 / 2| ≤ 1 / 8 ∧ |y - 1 / 2| ≤ 1 / 8
  · obtain ⟨u_low, -⟩ := fade_middle middle.1
    obtain ⟨-, v_high⟩ := fade_middle middle.2
    obtain ⟨x_low, x_high⟩ := abs_le.mp middle.1
    obtain ⟨y_low, y_high⟩ := abs_le.mp middle.2
    have gain : 3 / 4 ≤ 1 - x + y - |x + y - 1| := by
      have : |x + y - 1| ≤ 1 - x + y - 3 / 4 := abs_le.mpr ⟨by linarith, by linarith⟩
      linarith
    have weight : (1 / 4 * (1 / 4) : ℚ) ≤ (1 - fade y) * fade x :=
      mul_le_mul (by linarith) u_low (by norm_num) (by linarith)
    have loss : (1 / 4 * (1 / 4) * (3 / 4) : ℚ) ≤
        (1 - fade y) * fade x * (1 - x + y - |x + y - 1|) :=
      mul_le_mul weight gain (by norm_num) (by positivity)
    linarith
  · have loss : 0 ≤ (1 - fade y) * fade x * (1 - x + y - |x + y - 1|) :=
      mul_nonneg (mul_nonneg (by linarith) u_nonneg) (by linarith)
    have far {t : ℚ} (outside : ¬|t - 1 / 2| ≤ 1 / 8) : (1 / 8) ^ 2 ≤ (t - 1 / 2) ^ 2 := by
      rw [← sq_abs (t - 1 / 2)]
      exact pow_le_pow_left₀ (by norm_num) (not_le.mp outside).le 2
    rcases not_and_or.mp middle with x_far | y_far
    · have := far x_far
      linarith
    · have := far y_far
      linarith

theorem abs_corners_margin (a b c d : UInt8) :
    |blend (blend (gradient a x y) (gradient b (x - 1) y) (fade x))
      (blend (gradient c x (y - 1)) (gradient d (x - 1) (y - 1)) (fade x)) (fade y)| ≤ 31 / 32 := by
  obtain ⟨left, right⟩ := abs_offsets x_mem
  obtain ⟨bottom, top⟩ := abs_offsets y_mem
  obtain ⟨u_nonneg, u_le_one⟩ := fade_mem x_mem
  obtain ⟨v_nonneg, v_le_one⟩ := fade_mem y_mem
  obtain ⟨x_nonneg, x_le_one⟩ := x_mem
  obtain ⟨y_nonneg, y_le_one⟩ := y_mem
  have low_left := abs_le.mp (abs_gradient_le_add a left bottom)
  have low_right := abs_le.mp (abs_gradient_le_add b right bottom)
  have high_left := abs_le.mp (abs_gradient_le_add c left top)
  have high_right := abs_le.mp (abs_gradient_le_add d right top)
  have reduced_low := neg_gradient_le (sub_nonpos.mpr x_le_one) y_nonneg b
  have reduced_high := gradient_le x_nonneg (sub_nonpos.mpr y_le_one) c
  rw [sub_add_eq_add_sub] at reduced_low
  rw [← add_sub_assoc] at reduced_high
  rw [abs_le, neg_le, ← blend_neg, ← blend_neg, ← blend_neg]
  constructor
  · calc
      _ ≤ blend (blend (x + y) |x + y - 1| (fade x))
            (blend (x + (1 - y)) (1 - x + (1 - y)) (fade x)) (fade y) :=
        blend_le_blend v_nonneg v_le_one
          (blend_le_blend u_nonneg u_le_one (by linarith) reduced_low)
          (blend_le_blend u_nonneg u_le_one (by linarith) (by linarith))
      _ ≤ 31 / 32 := blend_distances_le ⟨x_nonneg, x_le_one⟩ ⟨y_nonneg, y_le_one⟩
  · calc
      _ ≤ blend (blend (x + y) (1 - x + y) (fade x))
            (blend |x + y - 1| (1 - x + (1 - y)) (fade x)) (fade y) :=
        blend_le_blend v_nonneg v_le_one
          (blend_le_blend u_nonneg u_le_one low_left.2 low_right.2)
          (blend_le_blend u_nonneg u_le_one reduced_high high_right.2)
      _ = blend (blend (y + x) |y + x - 1| (fade y))
            (blend (y + (1 - x)) (1 - y + (1 - x)) (fade y)) (fade x) := by
        rw [add_comm y x]
        simp only [blend_eq]
        ring
      _ ≤ 31 / 32 := blend_distances_le ⟨y_nonneg, y_le_one⟩ ⟨x_nonneg, x_le_one⟩

/-- Exact noise keeps away from zero and from one. -/
theorem cell_margin (i j : UInt8) : 1 / 64 ≤ cell i j x y ∧ cell i j x y ≤ 63 / 64 := by
  obtain ⟨low, high⟩ := abs_le.mp (abs_corners_margin x_mem y_mem (latticeHash i j)
    (latticeHash (i + 1) j) (latticeHash i (j + 1)) (latticeHash (i + 1) (j + 1)))
  norm_num only [cell]
  constructor <;> linarith

end Cell

/-! ## Rounding in a cell -/

open Single (Near near_half near_literal near_one near_zero value)

theorem near_fade {t : Float32} {q : ℚ} (near : Near 0 q t) (q_mem : 0 ≤ q ∧ q ≤ 1) :
    Near (26 / 2 ^ 19) (fade q) (fade t) := by
  obtain ⟨nonneg, le_one⟩ := q_mem
  have q_le : |q| ≤ 1 := abs_le.mpr ⟨by linarith, le_one⟩
  have square_le : |q * q| ≤ 1 := by
    rw [abs_mul]
    exact mul_le_one₀ q_le (abs_nonneg _) q_le
  have cube_le : |q * q * q| ≤ 1 := by
    rw [abs_mul]
    exact mul_le_one₀ square_le (abs_nonneg _) q_le
  have inner_le : |q * 6 - 15| ≤ 15 := abs_le.mpr ⟨by linarith, by linarith⟩
  have product_le : |q * (q * 6 - 15)| ≤ 15 := by
    rw [abs_mul]
    exact (mul_le_of_le_one_left (abs_nonneg _) q_le).trans inner_le
  have outer_le : |q * (q * 6 - 15) + 10| ≤ 10 := by
    have nonpos : q * (q * 6 - 15) ≤ 0 := mul_nonpos_of_nonneg_of_nonpos nonneg (by linarith)
    exact abs_le.mpr ⟨by linarith [(abs_le.mp product_le).1], by linarith⟩
  have near_six : Near 0 6 (6.0 : Float32) :=
    near_literal (6 * 2 ^ 21) (-21) (by decide +kernel) (by norm_num)
  have near_fifteen : Near 0 15 (15.0 : Float32) :=
    near_literal (15 * 2 ^ 20) (-20) (by decide +kernel) (by norm_num)
  have near_ten : Near 0 10 (10.0 : Float32) :=
    near_literal (10 * 2 ^ 20) (-20) (by decide +kernel) (by norm_num)
  have exact_fade : fade q = q * q * q * (q * (q * 6 - 15) + 10) := by norm_num only [fade]
  have square := near.mul near q_le q_le (by norm_num)
  have cube := square.mul near square_le q_le (by norm_num)
  have scaled := near.mul near_six q_le (b := 6) (by norm_num) (by norm_num)
  have inner := scaled.sub near_fifteen (a := 6) (b := 15)
    (by rw [abs_mul]; norm_num; linarith) (by norm_num) (by norm_num)
  have product := near.mul inner q_le inner_le (by norm_num)
  have outer := product.add near_ten product_le (b := 10) (by norm_num) (by norm_num)
  have total := cube.mul outer cube_le outer_le (by norm_num)
  rw [exact_fade]
  exact total.weaken (by norm_num)

theorem near_gradient {x y : Float32} {ε q r : ℚ} (x_near : Near ε q x) (y_near : Near ε r y)
    (q_le : |q| ≤ 1) (r_le : |r| ≤ 1) (small : ε ≤ 1) (hash : UInt8) :
    Near (2 * ε + 1 / 2 ^ 19) (gradient hash q r) (gradient hash x y) := by
  have turned {p : ℚ} {z : Float32} (near : Near ε p z) (kept : Prop) [Decidable kept] :
      Near ε (if kept then p else -p) (if kept then z else -z) := by
    split_ifs
    · exact near
    · exact near.neg
  have turned_le {p : ℚ} (le : |p| ≤ 1) (kept : Prop) [Decidable kept] :
      |if kept then p else -p| ≤ 1 := by
    split_ifs
    · exact le
    · exact (abs_neg p).trans_le le
  rw [two_mul]
  by_cases straight : hash &&& 3 < 2
  · simp only [gradient, if_pos straight]
    exact (turned x_near _).add (turned y_near _) (turned_le q_le _) (turned_le r_le _)
      (by linarith)
  · simp only [gradient, if_neg straight]
    exact (turned y_near _).add (turned x_near _) (turned_le r_le _) (turned_le q_le _)
      (by linarith)

theorem near_blend {a b t : Float32} {ε p q s : ℚ} (a_near : Near ε p a) (b_near : Near ε q b)
    (t_near : Near (26 / 2 ^ 19) s t) (p_le : |p| ≤ 2) (q_le : |q| ≤ 2) (s_le : |s| ≤ 1)
    (small : ε ≤ 200 / 2 ^ 19) : Near (3 * ε + 108 / 2 ^ 19) (blend p q s) (blend a b t) := by
  have difference_le : |q - p| ≤ 4 := (abs_sub q p).trans (by linarith)
  have share_le : |(q - p) * s| ≤ 4 := by
    rw [abs_mul]
    exact (mul_le_of_le_one_right (abs_nonneg _) s_le).trans difference_le
  have nonneg := a_near.error_nonneg
  have difference := b_near.sub a_near q_le p_le (by linarith)
  have share := difference.mul t_near difference_le s_le (by linarith)
  have total := a_near.add share p_le share_le (by linarith)
  exact total.weaken (by linarith)

theorem abs_le_one_of_mem {q : ℚ} (mem : 0 ≤ q ∧ q ≤ 1) : |q| ≤ 1 ∧ |q - 1| ≤ 1 :=
  ⟨abs_le.mpr ⟨by linarith, mem.2⟩, abs_le.mpr ⟨by linarith, by linarith⟩⟩

theorem near_offsets {x : Float32} {q : ℚ} (near : Near 0 q x) (mem : 0 ≤ q ∧ q ≤ 1) :
    Near (1 / 2 ^ 19) q x ∧ Near (1 / 2 ^ 19) (q - 1) (x - 1.0) :=
  ⟨near.weaken (by norm_num),
    (near.sub near_one (abs_le_one_of_mem mem).1 (b := 1) (by norm_num) (by norm_num)).weaken
      (by norm_num)⟩

theorem near_corner {x y : Float32} {q r : ℚ} (x_near : Near (1 / 2 ^ 19) q x)
    (y_near : Near (1 / 2 ^ 19) r y) (q_le : |q| ≤ 1) (r_le : |r| ≤ 1) (hash : UInt8) :
    Near (3 / 2 ^ 19) (gradient hash q r) (gradient hash x y) ∧ |gradient hash q r| ≤ 2 :=
  ⟨(near_gradient x_near y_near q_le r_le (by norm_num) hash).weaken (by norm_num),
    (abs_gradient_le hash q r).trans (by linarith)⟩

theorem near_edge {a b t : Float32} {p q s : ℚ} (a_near : Near (3 / 2 ^ 19) p a ∧ |p| ≤ 2)
    (b_near : Near (3 / 2 ^ 19) q b ∧ |q| ≤ 2) (t_near : Near 0 s t) (mem : 0 ≤ s ∧ s ≤ 1) :
    Near (117 / 2 ^ 19) (blend p q (fade s)) (blend a b (fade t)) ∧ |blend p q (fade s)| ≤ 2 := by
  obtain ⟨nonneg, le_one⟩ := fade_mem mem
  have two : blend 2 2 (fade s) = 2 := by
    rw [blend_eq]
    ring
  exact ⟨(near_blend a_near.1 b_near.1 (near_fade t_near mem) a_near.2 b_near.2
    (abs_le_one_of_mem (fade_mem mem)).1 (by norm_num)).weaken (by norm_num),
    (abs_blend_le nonneg le_one a_near.2 b_near.2).trans_eq two⟩

/-- The noise of a cell at exact offsets is far closer to the exact one than that is to the ends of
the unit interval. -/
theorem near_cell {x y : Float32} {q r : ℚ} (x_near : Near 0 q x) (y_near : Near 0 r y)
    (q_mem : 0 ≤ q ∧ q ≤ 1) (r_mem : 0 ≤ r ∧ r ≤ 1) (i j : UInt8) :
    Near (1 / 64) (cell i j q r) (cell i j x y) := by
  obtain ⟨q_le, q_sub_le⟩ := abs_le_one_of_mem q_mem
  obtain ⟨r_le, r_sub_le⟩ := abs_le_one_of_mem r_mem
  obtain ⟨x_low, x_high⟩ := near_offsets x_near q_mem
  obtain ⟨y_low, y_high⟩ := near_offsets y_near r_mem
  obtain ⟨low_near, low_le⟩ := near_edge (near_corner x_low y_low q_le r_le (latticeHash i j))
    (near_corner x_high y_low q_sub_le r_le (latticeHash (i + 1) j)) x_near q_mem
  obtain ⟨high_near, high_le⟩ :=
    near_edge (near_corner x_low y_high q_le r_sub_le (latticeHash i (j + 1)))
      (near_corner x_high y_high q_sub_le r_sub_le (latticeHash (i + 1) (j + 1))) x_near q_mem
  have pull_near := near_blend low_near high_near (near_fade y_near r_mem) low_le high_le
    (abs_le_one_of_mem (fade_mem r_mem)).1 (by norm_num)
  have pull_le := abs_corners_le q_mem r_mem (latticeHash i j) (latticeHash (i + 1) j)
    (latticeHash i (j + 1)) (latticeHash (i + 1) (j + 1))
  have raised_near := pull_near.add near_one pull_le (b := 1) (by norm_num) (by norm_num)
  have raised_le := (abs_add_le _ 1).trans (add_le_add_left pull_le |(1 : ℚ)|)
  have halved_near := raised_near.mul near_half raised_le (b := 1 / 2) (by norm_num) (by norm_num)
  have exact_cell : cell i j q r = (blend (blend (gradient (latticeHash i j) q r)
      (gradient (latticeHash (i + 1) j) (q - 1) r) (fade q))
      (blend (gradient (latticeHash i (j + 1)) q (r - 1))
        (gradient (latticeHash (i + 1) (j + 1)) (q - 1) (r - 1)) (fade q)) (fade r) + 1) *
      (1 / 2) := by
    norm_num only [cell]
  rw [exact_cell]
  exact halved_near.weaken (by norm_num)

theorem near_offset {x : Float32} (finite : x.isFinite = true) :
    Near 0 (value (x - Single.floor x)) (x - Single.floor x) ∧
      0 ≤ value (x - Single.floor x) ∧ value (x - Single.floor x) ≤ 1 := by
  obtain ⟨floor_finite, floor_eq⟩ := Single.value_floor finite
  have rounds := Single.rounds_sub finite floor_finite
  rw [floor_eq, Int.self_sub_floor] at rounds
  have nonneg := Int.fract_nonneg (value x)
  have le_one := (Int.fract_lt_one (value x)).le
  have offset_finite := (rounds.close (abs_le.mpr ⟨by linarith, by linarith⟩)).1
  exact ⟨Single.near_value offset_finite,
    rounds.le_value Single.short_zero nonneg,
    rounds.value_le Single.short_one le_one⟩

/-- A single-precision number in the unit interval. -/
structure InUnit (x : Float32) : Prop where
  finite : x.isFinite = true
  nonneg : 0 ≤ value x
  le_one : value x ≤ 1

theorem InUnit.bounds {x : Float32} (inUnit : InUnit x) : 0.0 ≤ x ∧ x ≤ 1.0 :=
  Single.between_unit_iff.mp ⟨inUnit.finite, inUnit.nonneg, inUnit.le_one⟩

/-- Noise at finite coordinates is in the unit interval. -/
theorem inUnit_perlin {x y : Float32} (x_finite : x.isFinite = true)
    (y_finite : y.isFinite = true) : InUnit (perlin x y) := by
  obtain ⟨x_near, x_mem⟩ := near_offset x_finite
  obtain ⟨y_near, y_mem⟩ := near_offset y_finite
  obtain ⟨finite, close⟩ := near_cell x_near y_near x_mem y_mem (cellIndex x) (cellIndex y)
  obtain ⟨low, high⟩ := cell_margin x_mem y_mem (cellIndex x) (cellIndex y)
  obtain ⟨close_low, close_high⟩ := abs_le.mp close
  have noise_finite : (perlin x y).isFinite = true := finite
  have noise_low : 0 ≤ value (perlin x y) := by
    change 0 ≤ value (cell _ _ (x - Single.floor x) (y - Single.floor y))
    linarith
  have noise_high : value (perlin x y) ≤ 1 := by
    change value (cell _ _ (x - Single.floor x) (y - Single.floor y)) ≤ 1
    linarith
  exact ⟨noise_finite, noise_low, noise_high⟩

/-! ## Coordinates that are not finite -/

section NotFinite

open Single

theorem isNaN_fade {t : Float32} (unordered : t.isNaN = true) : (fade t).isNaN = true :=
  isNaN_mul (.inl (isNaN_mul (.inl (isNaN_mul (.inl unordered)))))

theorem isNaN_blend {a b t : Float32} (unordered : a.isNaN = true ∨ t.isNaN = true) :
    (blend a b t).isNaN = true := by
  rcases unordered with first | share
  · exact isNaN_add (.inl first)
  · exact isNaN_add (.inr (isNaN_mul (.inr share)))

theorem isNaN_cell {x y : Float32} (unordered : x.isNaN = true ∨ y.isNaN = true) (i j : UInt8) :
    (cell i j x y).isNaN = true := by
  refine isNaN_mul (.inl (isNaN_add (.inl (isNaN_blend ?_))))
  exact unordered.imp (fun x_nan => isNaN_blend (.inr (isNaN_fade x_nan))) isNaN_fade

theorem isNaN_offset {x : Float32} (not_finite : x.isFinite = false) :
    (x - floor x).isNaN = true := by
  rw [floor_of_not_finite not_finite]
  exact isNaN_sub_self not_finite

theorem isNaN_perlin {x y : Float32} (not_finite : x.isFinite = false ∨ y.isFinite = false) :
    (perlin x y).isNaN = true :=
  isNaN_cell (not_finite.imp isNaN_offset isNaN_offset) _ _

end NotFinite

end Noise
end TextureGraph
