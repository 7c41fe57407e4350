import TextureGraph.Operation.Catalogue
import TextureGraph.Operation.Formula
import TextureGraph.Proofs.Reachable
import TextureGraph.Proofs.Single.WholePart

/-!
# The colour of a checkerboard square

A square is light if its column and its row add up to an even number.  Numbers of squares that fit
into 64 bits are added without a change of parity, even where the sum wraps.  Larger ones are all
even but become the upper bound, which is odd; so a point is given the wrong colour exactly if one
of its coordinates, and not the other, is at least `2 ^ 63`.
-/

namespace TextureGraph

open Single (value floor toInt64)

/-! ## Numbers of squares -/

theorem even_floor_of_large {x : Float32} (large : 2 ^ 24 ≤ |value x|) : Even ⌊value x⌋ := by
  rw [Single.abs_value] at large
  have place := Single.exponent_of_value (k := 24) (by exact_mod_cast large)
  obtain ⟨n, n_eq⟩ := Single.exists_multiple (k := 1) place
  have whole : value x = (n * 2 : Int) := by
    rw [n_eq]
    norm_num
  rw [whole, Int.floor_intCast]
  exact even_two.mul_left n

/-- Only at the upper bound does the 64-bit number of a square differ in parity from the true
one. -/
theorem even_toInt64_floor_iff {x : Float32} (finite : x.isFinite = true) :
    Even (toInt64 (floor x)).toInt ↔ (Even ⌊value x⌋ ↔ value x < 2 ^ 63) := by
  rw [Single.toInt_toInt64_floor finite]
  have large (size : 2 ^ 63 ≤ |value x|) : Even ⌊value x⌋ :=
    even_floor_of_large (le_trans (by norm_num) size)
  have below_iff : value x < 2 ^ 63 ↔ ⌊value x⌋ < 2 ^ 63 := by
    rw [Int.floor_lt]
    norm_num
  by_cases below : value x < 2 ^ 63
  · rw [iff_true_right below]
    rw [below_iff] at below
    rcases le_or_gt (-2 ^ 63) ⌊value x⌋ with within | under
    · rw [min_eq_right (by omega), max_eq_right within]
    · have far : 2 ^ 63 ≤ |value x| := by
        have := (Int.floor_lt.mp under).le
        push_cast at this
        exact le_abs.mpr (.inr (by linarith))
      rw [min_eq_right (by omega), max_eq_left under.le]
      exact iff_of_true (by decide) (large far)
  · have even := large ((not_lt.mp below).trans (le_abs_self _))
    rw [below_iff] at below
    rw [min_eq_left (by omega), max_eq_right (by omega)]
    refine iff_of_false (by decide) ?_
    rw [iff_true_left even, below_iff]
    exact below

/-! ## Squares -/

theorem isLightSquare_eq_true_iff (x y : Float32) :
    Operation.isLightSquare x y = true ↔
      (Even (toInt64 (floor x)).toInt ↔ Even (toInt64 (floor y)).toInt) := by
  have wrapped := Int.bmod_add_bdiv ((toInt64 (floor x)).toInt + (toInt64 (floor y)).toInt) (2 ^ 64)
  -- Wrapping takes off a multiple of `2 ^ 64`, which is even.
  rw [Operation.isLightSquare, decide_eq_true_iff, Int64.toInt_add, ← Int.even_add, Int.even_iff]
  omega

/-- The level of a square by the sum of its column and its row. -/
def squareLevel (sum : Int) : Float32 :=
  if Even sum then 1.0 else 0.0

namespace Operation

/-- The level that a board gives is that of the true parity, however large the coordinates, unless
just one of them is `2 ^ 63` or more, when it is the level of the other parity. -/
theorem checkerboard_parity {inputs : Inputs} {uv : Vec2} {scale x y : Float32}
    (uv_read : inputs.uv 0 = .ok uv) (scale_read : inputs.float 1 = .ok scale)
    (x_eq : uv.x * positiveOr scale 8.0 = x) (y_eq : uv.y * positiveOr scale 8.0 = y)
    (x_finite : x.isFinite = true) (y_finite : y.isFinite = true) (outputPin : UInt64) :
    ((value x < 2 ^ 63 ↔ value y < 2 ^ 63) →
        checkerboard.color inputs outputPin =
          .ok (Color.gray (squareLevel (⌊value x⌋ + ⌊value y⌋)))) ∧
      (¬(value x < 2 ^ 63 ↔ value y < 2 ^ 63) →
        checkerboard.color inputs outputPin =
          .ok (Color.gray (squareLevel (⌊value x⌋ + ⌊value y⌋ + 1)))) := by
  have read : checkerboard.color inputs outputPin =
      .ok (Color.gray (if isLightSquare x y then 1.0 else 0.0)) := by
    simp only [color, uv_read, scale_read, ← x_eq, ← y_eq]
    rfl
  have light : isLightSquare x y = true ↔
      (Even (⌊value x⌋ + ⌊value y⌋) ↔ (value x < 2 ^ 63 ↔ value y < 2 ^ 63)) := by
    rw [isLightSquare_eq_true_iff, even_toInt64_floor_iff x_finite, even_toInt64_floor_iff y_finite,
      Int.even_add]
    grind
  rw [read]
  refine ⟨fun same => ?_, fun apart => ?_⟩
  · simp only [light, squareLevel, iff_true_right same]
  · simp only [light, squareLevel, iff_false_right apart, Int.even_add_one]

/-- A board of two squares to the unit, seen from a point across the origin. -/
def boardAcross : Inputs where
  node := ⟨⟨1⟩, "Checkerboard", ⟨0.0, 0.0⟩, [], []⟩
  sample := ⟨-0.1, 0.1⟩
  settings := ⟨256, 256⟩
  isConnected _ := false
  resolve pin _ := .ok (if pin = 1 then some (.float 2.0) else none)

theorem checkerboard_parity_boardAcross :
    boardAcross.uv 0 = .ok ⟨-0.1, 0.1⟩ ∧ boardAcross.float 1 = .ok 2.0 ∧
      checkerboard.color boardAcross 0 = .ok (Color.gray 0.0) := by
  have uv_read : boardAcross.uv 0 = .ok ⟨-0.1, 0.1⟩ := by rfl
  have scale_read : boardAcross.float 1 = .ok 2.0 := by rfl
  obtain ⟨x_finite, x_value⟩ := Single.value_of_content
    (show Single.content (-0.1 * positiveOr 2.0 8.0) = .finite true 13421773 (-26) by
      decide +kernel)
  obtain ⟨y_finite, y_value⟩ := Single.value_of_content
    (show Single.content (0.1 * positiveOr 2.0 8.0) = .finite false 13421773 (-26) by
      decide +kernel)
  have x_floor : ⌊value (-0.1 * positiveOr 2.0 8.0)⌋ = -1 := by
    rw [x_value, Int.floor_eq_iff]
    norm_num [Single.signed]
  have y_floor : ⌊value (0.1 * positiveOr 2.0 8.0)⌋ = 0 := by
    rw [y_value, Int.floor_eq_iff]
    norm_num [Single.signed]
  have near : value (-0.1 * positiveOr 2.0 8.0) < 2 ^ 63 ∧
      value (0.1 * positiveOr 2.0 8.0) < 2 ^ 63 := by
    rw [x_value, y_value]
    norm_num [Single.signed]
  refine ⟨uv_read, scale_read, ?_⟩
  have dark := (checkerboard_parity uv_read scale_read rfl rfl x_finite y_finite 0).1
    (iff_of_true near.1 near.2)
  rw [x_floor, y_floor] at dark
  exact dark

/-- A board of huge scale. -/
def hugeBoard : Graph :=
  Graph.empty.afterEdits .builtin
    [.addNode "Checkerboard" ⟨0.0, 0.0⟩, .setInputDefault ⟨1⟩ 1 (.float 1e30)]

/-- Both numbers of the square are even, and yet it is dark. -/
theorem hugeBoard_dark :
    (0.5 * 1e30 : Float32).isFinite = true ∧ (0.0 * 1e30 : Float32).isFinite = true ∧
      Even (⌊value (0.5 * 1e30)⌋ + ⌊value (0.0 * 1e30)⌋) ∧
      (Evaluator.builtin ⟨256, 256⟩).evaluate hugeBoard ⟨1⟩ 0 ⟨0.5, 0.0⟩ =
        .ok (.color (Color.gray 0.0)) := by
  obtain ⟨x_finite, x_value⟩ := Single.value_of_content
    (show Single.content (0.5 * 1e30) = .finite false 13234890 75 by decide +kernel)
  obtain ⟨y_finite, y_value⟩ := Single.value_of_content
    (show Single.content (0.0 * 1e30) = .finite false 0 (-149) by decide +kernel)
  have x_even : Even ⌊value (0.5 * 1e30)⌋ := by
    refine even_floor_of_large ?_
    rw [x_value]
    norm_num [Single.signed]
  have y_even : Even ⌊value (0.0 * 1e30)⌋ := by
    rw [y_value]
    norm_num [Single.signed]
  exact ⟨x_finite, y_finite, x_even.add y_even, by decide +kernel⟩

end Operation
end TextureGraph
