import TextureGraph.Noise.Gradient
import TextureGraph.Proofs.Exact

/-!
# Gradient noise tiles and has no seams

In exact arithmetic gradient noise repeats every 256 units along both axes.  Neighbouring cells
hash the corners that they share alike, and on a common edge the weights of all other corners
vanish, so the formulas of both cells give the same value there.
-/

namespace TextureGraph
namespace Noise

/-! ## Cells among the 256 that repeat -/

/-- Whole numbers that a 32-bit integer can hold. -/
def IsIndex (i : Int) : Prop :=
  -2 ^ 31 ≤ i ∧ i < 2 ^ 31

/-- The last eight bits of a number in two's complement are its remainder by 256. -/
theorem lowByte_eq_ofInt (index : Int32) : index.toUInt32.toUInt8 = UInt8.ofInt index.toInt := by
  have signed : index.toInt = (index.toUInt32.toNat : Int).bmod (2 ^ 32) :=
    BitVec.toInt_eq_toNat_bmod _
  rw [← UInt8.toNat_inj, UInt32.toNat_toUInt8, UInt8.ofInt, UInt8.toNat_ofNat', signed,
    Int.bmod_def]
  omega

theorem cellIndex_eq {x : ℚ} (index : IsIndex ⌊x⌋) : cellIndex x = UInt8.ofInt ⌊x⌋ := by
  have clamped : (Scalar.toInt32 (Scalar.floor x)).toInt =
      max (-2147483648) (min 2147483647 ⌊x⌋) := Scalar.toInt_toInt32_floor x
  have unclamped : (Scalar.toInt32 (Scalar.floor x)).toInt = ⌊x⌋ := by
    obtain ⟨low, high⟩ := index
    omega
  rw [cellIndex, lowByte_eq_ofInt, unclamped]

theorem ofInt_add_period (i k : Int) : UInt8.ofInt (i + 256 * k) = UInt8.ofInt i := by
  have period : UInt8.ofInt 256 = 0 := rfl
  rw [UInt8.ofInt_add, UInt8.ofInt_mul, period, UInt8.zero_mul, UInt8.add_zero]

theorem ofInt_add_one (i : Int) : UInt8.ofInt (i + 1) = UInt8.ofInt i + 1 := by
  rw [UInt8.ofInt_add, UInt8.ofInt_one]

/-! ## Tiling -/

/-- In exact arithmetic, noise is the formula of the cell around a position, at the offset from
the cell's low corner. -/
theorem perlin_eq_cell {x y : ℚ} (column : IsIndex ⌊x⌋) (row : IsIndex ⌊y⌋) :
    perlin x y = cell (UInt8.ofInt ⌊x⌋) (UInt8.ofInt ⌊y⌋) (Int.fract x) (Int.fract y) := by
  rw [perlin, cellIndex_eq column, cellIndex_eq row]
  rfl

theorem floor_add_period (x : ℚ) (k : ℤ) : ⌊x + 256 * k⌋ = ⌊x⌋ + 256 * k := by
  exact_mod_cast Int.floor_add_intCast x (256 * k)

theorem fract_add_period (x : ℚ) (k : ℤ) : Int.fract (x + 256 * k) = Int.fract x := by
  exact_mod_cast Int.fract_add_intCast x (256 * k)

theorem perlin_add_period {x y : ℚ} {k m : ℤ} (column : IsIndex ⌊x⌋) (row : IsIndex ⌊y⌋)
    (moved_column : IsIndex ⌊x + 256 * k⌋) (moved_row : IsIndex ⌊y + 256 * m⌋) :
    perlin (x + 256 * k) (y + 256 * m) = perlin x y := by
  rw [perlin_eq_cell moved_column moved_row, perlin_eq_cell column row, fract_add_period,
    fract_add_period, floor_add_period, floor_add_period, ofInt_add_period, ofInt_add_period]

/-! ## Shared edges -/

@[simp]
theorem fade_zero : fade (0 : ℚ) = 0 := by
  norm_num [fade]

@[simp]
theorem fade_one : fade (1 : ℚ) = 1 := by
  norm_num [fade]

@[simp]
theorem blend_zero (a b : ℚ) : blend a b 0 = a := by
  norm_num [blend]

@[simp]
theorem blend_one (a b : ℚ) : blend a b 1 = b := by
  norm_num [blend]

/-- The right edge of a cell is the left edge of the next. -/
theorem cell_right_edge (i j : UInt8) (t : ℚ) : cell i j 1 t = cell (i + 1) j 0 t := by
  have at_edge : (1 : ℚ) - 1.0 = 0 := by norm_num
  simp only [cell, fade_one, fade_zero, blend_one, blend_zero, at_edge]

/-- The high edge of a cell is the low edge of the next. -/
theorem cell_high_edge (i j : UInt8) (t : ℚ) : cell i j t 1 = cell i (j + 1) t 0 := by
  have at_edge : (1 : ℚ) - 1.0 = 0 := by norm_num
  simp only [cell, fade_one, fade_zero, blend_one, blend_zero, at_edge]

/-- In exact arithmetic gradient noise repeats every 256 units, as long as 32-bit integers hold the
indices of all cells involved; a position has the value of its cell's formula; and wherever two
cells of the lattice share an edge, their formulas agree on it. -/
theorem tiles_without_seams :
    (∀ (x y : ℚ) (k m : ℤ), IsIndex ⌊x⌋ → IsIndex ⌊y⌋ →
      IsIndex ⌊x + 256 * k⌋ → IsIndex ⌊y + 256 * m⌋ →
        perlin (x + 256 * k) (y + 256 * m) = perlin x y) ∧
    (∀ x y : ℚ, IsIndex ⌊x⌋ → IsIndex ⌊y⌋ →
      perlin x y = cell (UInt8.ofInt ⌊x⌋) (UInt8.ofInt ⌊y⌋) (Int.fract x) (Int.fract y)) ∧
    ∀ (i j : ℤ) (t : ℚ), 0 ≤ t → t ≤ 1 →
      cell (UInt8.ofInt i) (UInt8.ofInt j) 1 t =
          cell (UInt8.ofInt (i + 1)) (UInt8.ofInt j) 0 t ∧
        cell (UInt8.ofInt i) (UInt8.ofInt j) t 1 =
          cell (UInt8.ofInt i) (UInt8.ofInt (j + 1)) t 0 := by
  refine ⟨fun x y k m column row moved_column moved_row =>
      perlin_add_period column row moved_column moved_row,
    fun x y column row => perlin_eq_cell column row, fun i j t _ _ => ⟨?_, ?_⟩⟩
  · rw [ofInt_add_one, cell_right_edge]
  · rw [ofInt_add_one, cell_high_edge]

/-- A position left of the origin is moved across it, and the edges are those of the last column of
cells before the 256 begin anew. -/
theorem tiles_without_seams_leftOfOrigin :
    perlin (-7 / 4 + 256 * (1 : ℤ) : ℚ) (5 / 2 + 256 * (-1 : ℤ)) = perlin (-7 / 4 : ℚ) (5 / 2) ∧
      cell 255 2 1 (1 / 3 : ℚ) = cell 0 2 0 (1 / 3 : ℚ) ∧
      cell 255 2 (1 / 3 : ℚ) 1 = cell 255 3 (1 / 3 : ℚ) 0 := by
  obtain ⟨tiles, -, edges⟩ := tiles_without_seams
  have index {x : ℚ} (i : ℤ) (floor_eq : i ≤ x ∧ x < i + 1) (bounded : IsIndex i) :
      IsIndex ⌊x⌋ := by
    rwa [Int.floor_eq_iff.mpr floor_eq]
  refine ⟨tiles (-7 / 4) (5 / 2) 1 (-1) (index (-2) ?_ ?_) (index 2 ?_ ?_) (index 254 ?_ ?_)
    (index (-254) ?_ ?_), edges (-1) 2 (1 / 3) (by norm_num) (by norm_num)⟩
  all_goals norm_num [IsIndex]

end Noise
end TextureGraph
