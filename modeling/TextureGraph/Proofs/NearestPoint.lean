import Mathlib.Analysis.Real.Sqrt
import Mathlib.Data.FinEnum
import Mathlib.Data.Fintype.Lattice
import Mathlib.Tactic.Positivity
import TextureGraph.Noise.Cellular
import TextureGraph.Proofs.Exact

/-!
# The nearest feature point

A feature point does not leave its cell.  In exact arithmetic those beyond the eight neighbours of a
position's cell are therefore at least one away, and since cellular noise is cut off at one, the
search among nine cells finds what a search of the whole lattice would.
-/

namespace TextureGraph
namespace Noise

/-! ## Feature points stay in their cells -/

theorem toInt_low_bits (bits : Int32) :
    0 ≤ (bits &&& 0xFFFF).toInt ∧ (bits &&& 0xFFFF).toInt ≤ 65535 := by
  have low : (bits &&& 0xFFFF).toBitVec.toNat ≤ 65535 := by
    rw [Int32.toBitVec_and, BitVec.toNat_and]
    exact Nat.and_le_right
  rw [← Int32.toInt_toBitVec, BitVec.toInt_eq_toNat_of_lt (by omega)]
  omega

theorem share_bounds (bits : Int32) : 0 ≤ (share bits : ℝ) ∧ (share bits : ℝ) ≤ 1 := by
  have share_eq : (share bits : ℝ) = (bits &&& 0xFFFF).toInt / 65535 := by
    norm_num only [share, Scalar.ofInt]
  obtain ⟨nonneg, le_max⟩ := toInt_low_bits bits
  rw [share_eq, div_le_one (by norm_num)]
  exact ⟨by positivity, by exact_mod_cast le_max⟩

theorem jittered_bounds (index : Int) {share randomness : ℝ} (share_nonneg : 0 ≤ share)
    (share_le : share ≤ 1) (randomness_nonneg : 0 ≤ randomness) (randomness_le : randomness ≤ 1) :
    (index : ℝ) ≤ index + 1 / 2 + (share - 1 / 2) * randomness ∧
      index + 1 / 2 + (share - 1 / 2) * randomness ≤ (index : ℝ) + 1 := by
  have half : |share - 1 / 2| ≤ 1 / 2 := by
    rw [abs_le]
    constructor <;> linarith
  have jitter : |(share - 1 / 2) * randomness| ≤ 1 / 2 := by
    calc
      |(share - 1 / 2) * randomness| = |share - 1 / 2| * randomness := by
        rw [abs_mul, abs_of_nonneg randomness_nonneg]
      _ ≤ 1 / 2 * 1 := mul_le_mul half randomness_le randomness_nonneg (by norm_num)
      _ = 1 / 2 := mul_one _
  obtain ⟨low, high⟩ := abs_le.mp jitter
  constructor <;> linarith

theorem featurePoint_exact (i j : Int32) (randomness : ℝ) :
    featurePoint i j randomness =
      (i.toInt + (1 / 2 : ℝ) + (share (cellHash i j) - 1 / 2) * randomness,
        j.toInt + (1 / 2 : ℝ) + (share (cellHash i j >>> 16) - 1 / 2) * randomness) := by
  norm_num only [featurePoint, Scalar.ofInt]

theorem featurePoint_mem_cell (i j : Int32) {randomness : ℝ} (randomness_nonneg : 0 ≤ randomness)
    (randomness_le : randomness ≤ 1) :
    ((i.toInt : ℝ) ≤ (featurePoint i j randomness).1 ∧
        (featurePoint i j randomness).1 ≤ (i.toInt : ℝ) + 1) ∧
      (j.toInt : ℝ) ≤ (featurePoint i j randomness).2 ∧
        (featurePoint i j randomness).2 ≤ (j.toInt : ℝ) + 1 := by
  obtain ⟨across_nonneg, across_le⟩ := share_bounds (cellHash i j)
  obtain ⟨along_nonneg, along_le⟩ := share_bounds (cellHash i j >>> 16)
  rw [featurePoint_exact]
  exact ⟨jittered_bounds i.toInt across_nonneg across_le randomness_nonneg randomness_le,
    jittered_bounds j.toInt along_nonneg along_le randomness_nonneg randomness_le⟩

theorem one_le_square_of_apart {index other : Int} {x point : ℝ} (low : (index : ℝ) ≤ x)
    (high : x < index + 1) (point_low : (other : ℝ) ≤ point) (point_high : point ≤ other + 1)
    (apart : 1 < |other - index|) : 1 ≤ (x - point) * (x - point) := by
  have distant : 1 ≤ |x - point| := by
    rcases lt_abs.mp apart with beyond | before
    · have above : (index : ℝ) + 2 ≤ other := by exact_mod_cast (by omega : index + 2 ≤ other)
      exact le_abs.mpr (.inr (by linarith))
    · have below : (other : ℝ) + 2 ≤ index := by exact_mod_cast (by omega : other + 2 ≤ index)
      exact le_abs.mpr (.inl (by linarith))
  calc
    (1 : ℝ) ≤ |x - point| * |x - point| := one_le_mul_of_one_le_of_one_le distant distant
    _ = (x - point) * (x - point) := abs_mul_abs_self _

theorem squaredDistance_exact (x y : ℝ) (point : ℝ × ℝ) :
    squaredDistance x y point =
      (x - point.1) * (x - point.1) + (y - point.2) * (y - point.2) := rfl

/-- Feature points of cells that are no neighbours of a position's cell are at least one away. -/
theorem one_le_squaredDistance {x y randomness : ℝ} (randomness_nonneg : 0 ≤ randomness)
    (randomness_le : randomness ≤ 1) {cell : Int32 × Int32}
    (beyond : ¬(|cell.1.toInt - ⌊x⌋| ≤ 1 ∧ |cell.2.toInt - ⌊y⌋| ≤ 1)) :
    1 ≤ squaredDistance x y (featurePoint cell.1 cell.2 randomness) := by
  obtain ⟨⟨left, right⟩, bottom, top⟩ :=
    featurePoint_mem_cell cell.1 cell.2 randomness_nonneg randomness_le
  rw [squaredDistance_exact]
  rcases not_and_or.mp beyond with column | row
  · have across := one_le_square_of_apart (Int.floor_le x) (Int.lt_floor_add_one x) left right
      (not_le.mp column)
    linarith [mul_self_nonneg (y - (featurePoint cell.1 cell.2 randomness).2)]
  · have along := one_le_square_of_apart (Int.floor_le y) (Int.lt_floor_add_one y) bottom top
      (not_le.mp row)
    linarith [mul_self_nonneg (x - (featurePoint cell.1 cell.2 randomness).1)]

/-! ## Nine cells in place of all -/

theorem adjacent_iff {x : ℝ} {other : Int32} (within : -2 ^ 31 < ⌊x⌋ ∧ ⌊x⌋ < 2 ^ 31 - 1) :
    |other.toInt - ⌊x⌋| ≤ 1 ↔
      other = Scalar.toInt32 (Scalar.floor x) - 1 ∨ other = Scalar.toInt32 (Scalar.floor x) ∨
        other = Scalar.toInt32 (Scalar.floor x) + 1 := by
  have clamped : (Scalar.toInt32 (Scalar.floor x)).toInt =
      max (-2147483648) (min 2147483647 ⌊x⌋) := Scalar.toInt_toInt32_floor x
  generalize Scalar.toInt32 (Scalar.floor x) = index at clamped ⊢
  -- inside the bounds the index is not cut off and its neighbours do not wrap around
  have index_eq : index.toInt = ⌊x⌋ := by omega
  have before : (index - 1).toInt = ⌊x⌋ - 1 := by
    rw [Int32.toInt_sub, Int32.toInt_one, index_eq]
    exact Int.bmod_eq_of_le (by omega) (by omega)
  have after : (index + 1).toInt = ⌊x⌋ + 1 := by
    rw [Int32.toInt_add, Int32.toInt_one, index_eq]
    exact Int.bmod_eq_of_le (by omega) (by omega)
  rw [← Int32.toInt_inj, ← Int32.toInt_inj, ← Int32.toInt_inj, before, after, index_eq, abs_le]
  omega

theorem mem_neighbourhood {i j : Int32} {cell : Int32 × Int32} :
    cell ∈ neighbourhood i j ↔
      (cell.1 = i - 1 ∨ cell.1 = i ∨ cell.1 = i + 1) ∧
        (cell.2 = j - 1 ∨ cell.2 = j ∨ cell.2 = j + 1) := by
  obtain ⟨column, row⟩ := cell
  simp only [neighbourhood, List.mem_cons, List.not_mem_nil, or_false, Prod.mk.injEq, and_or_left,
    or_and_right, or_assoc]

theorem le_foldl_min_iff {ι : Type} (measure : ι → ℝ) {cells : List ι} {start bound : ℝ} :
    bound ≤ cells.foldl (fun best cell => min best (measure cell)) start ↔
      bound ≤ start ∧ ∀ cell ∈ cells, bound ≤ measure cell := by
  induction cells generalizing start with
  | nil => simp
  | cons cell cells induction =>
      rw [List.foldl_cons, induction, le_min_iff, and_assoc, List.forall_mem_cons]

theorem nearest_exact (root : ℝ → ℝ) (largest x y randomness : ℝ) :
    nearest root largest x y randomness =
      max 0 (min 1 ((neighbourhood (Scalar.toInt32 (Scalar.floor x))
        (Scalar.toInt32 (Scalar.floor y))).foldl (fun best cell =>
          min best (root (squaredDistance x y (featurePoint cell.1 cell.2 randomness))))
        largest)) := by
  simp only [nearest, Scalar.smaller_exact, Scalar.clampUnit_exact]

/-- Up to one, nine cells have the same least measure as all cells if no other cell has a measure
below one. -/
theorem min_one_foldl_eq {ι : Type} {measure : ι → ℝ} {cells : List ι} {largest : ℝ} {closest : ι}
    (one_le_largest : 1 ≤ largest) (far : ∀ cell, cell ∉ cells → 1 ≤ measure cell)
    (least : ∀ cell, measure closest ≤ measure cell) :
    min 1 (cells.foldl (fun best cell => min best (measure cell)) largest) =
      min 1 (measure closest) := by
  refine le_antisymm (le_min (min_le_left _ _) ?_) (le_min (min_le_left _ _) ?_)
  · -- the closest one may lie elsewhere, but is no closer than one then
    by_cases near : closest ∈ cells
    · exact (min_le_right _ _).trans ((le_foldl_min_iff measure).mp le_rfl |>.2 closest near)
    · exact (min_le_left _ _).trans (far closest near)
  · refine (le_foldl_min_iff measure).mpr ⟨(min_le_left _ _).trans one_le_largest, ?_⟩
    exact fun cell _ => (min_le_right _ _).trans (least cell)

/-- The largest finite single-precision number as a real number. -/
def largestReal : ℝ :=
  16777215 * 2 ^ 104

example : Single.content largest = .finite false 16777215 104 := by
  decide +kernel

/-- Away from the bounds of 32-bit indices and with a randomness in the unit interval, feature
points outside the nine cells around a position are at least one away.  Cellular noise, and its
square as well, is therefore decided by the closest feature point of the whole lattice. -/
theorem neighbourhood_suffices {x y randomness : ℝ} (column : -2 ^ 31 < ⌊x⌋ ∧ ⌊x⌋ < 2 ^ 31 - 1)
    (row : -2 ^ 31 < ⌊y⌋ ∧ ⌊y⌋ < 2 ^ 31 - 1)
    (randomness_mem : 0 ≤ randomness ∧ randomness ≤ 1) :
    let square (cell : Int32 × Int32) : ℝ :=
      squaredDistance x y (featurePoint cell.1 cell.2 randomness)
    (∀ cell : Int32 × Int32,
        ¬(|cell.1.toInt - ⌊x⌋| ≤ 1 ∧ |cell.2.toInt - ⌊y⌋| ≤ 1) → 1 ≤ square cell) ∧
      ∃ closest, (∀ cell, square closest ≤ square cell) ∧
        nearest id largestReal x y randomness = max 0 (min 1 (square closest)) ∧
        nearest Real.sqrt largestReal x y randomness = max 0 (min 1 √(square closest)) := by
  intro square
  have beyond (cell : Int32 × Int32)
      (outside : ¬(|cell.1.toInt - ⌊x⌋| ≤ 1 ∧ |cell.2.toInt - ⌊y⌋| ≤ 1)) : 1 ≤ square cell :=
    one_le_squaredDistance randomness_mem.1 randomness_mem.2 outside
  have far (cell : Int32 × Int32) (outside : cell ∉ neighbourhood (Scalar.toInt32 (Scalar.floor x))
      (Scalar.toInt32 (Scalar.floor y))) : 1 ≤ square cell := by
    rw [mem_neighbourhood, ← adjacent_iff column, ← adjacent_iff row] at outside
    exact beyond cell outside
  obtain ⟨closest, least⟩ := Finite.exists_min square
  have large : 1 ≤ largestReal := by
    rw [largestReal]
    norm_num
  refine ⟨beyond, closest, least, ?_, ?_⟩
  · rw [nearest_exact]
    exact congrArg (max 0) (min_one_foldl_eq large far least)
  · rw [nearest_exact]
    exact congrArg (max 0) (min_one_foldl_eq large (fun cell outside =>
      Real.one_le_sqrt.mpr (far cell outside)) fun cell => Real.sqrt_le_sqrt (least cell))

/-- A position left of the origin, whose cell has a negative index. -/
theorem neighbourhood_suffices_leftOfOrigin :
    (1 ≤ squaredDistance (-7 / 4 : ℝ) (5 / 2) (featurePoint 0 2 (1 / 2))) ∧
      ∃ closest : Int32 × Int32,
        (∀ cell : Int32 × Int32,
          squaredDistance (-7 / 4 : ℝ) (5 / 2) (featurePoint closest.1 closest.2 (1 / 2)) ≤
            squaredDistance (-7 / 4) (5 / 2) (featurePoint cell.1 cell.2 (1 / 2))) ∧
          nearest Real.sqrt largestReal (-7 / 4) (5 / 2) (1 / 2) = max 0 (min 1
            √(squaredDistance (-7 / 4) (5 / 2) (featurePoint closest.1 closest.2 (1 / 2)))) := by
  have column : ⌊(-7 / 4 : ℝ)⌋ = -2 := by
    rw [Int.floor_eq_iff]
    norm_num
  have row : ⌊(5 / 2 : ℝ)⌋ = 2 := by
    rw [Int.floor_eq_iff]
    norm_num
  obtain ⟨beyond, closest, least, -, distance_eq⟩ :=
    @neighbourhood_suffices (-7 / 4) (5 / 2) (1 / 2) (by rw [column]; omega) (by rw [row]; omega)
      (by norm_num)
  refine ⟨beyond (0, 2) ?_, closest, least, distance_eq⟩
  rw [column, row]
  decide

end Noise
end TextureGraph
