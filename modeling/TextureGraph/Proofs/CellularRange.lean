import TextureGraph.Noise.Cellular
import TextureGraph.Proofs.Single.Order

/-!
# Cellular noise is always a usable gray

In single precision any of the nine distances may fail to be a number: positions may be infinite or
no numbers themselves, and squares may overflow.  The least distance so far starts as a number and
gives way to numbers only, so it ends as one, and numbers are cut off to the unit interval.
-/

namespace TextureGraph
namespace Scalar

theorem isNaN_smaller {best : Float32} (number : best.isNaN = false) (other : Float32) :
    (smaller best other).isNaN = false := by
  rw [smaller, if_pos ((Single.beq_self_iff best).mpr number)]
  split_ifs with less
  · exact (Single.number_of_lt less).1
  · exact number

theorem clampUnit_mem {x : Float32} (number : x.isNaN = false) :
    (clampUnit x).isNaN = false ∧ 0.0 ≤ clampUnit x ∧ clampUnit x ≤ 1.0 := by
  have zero_number : (0.0 : Float32).isNaN = false := by decide +kernel
  have one_number : (1.0 : Float32).isNaN = false := by decide +kernel
  rw [clampUnit, clamp]
  split_ifs with below above
  · decide +kernel
  · decide +kernel
  · exact ⟨number, Single.le_of_not_lt number zero_number below,
      Single.le_of_not_lt one_number number above⟩

end Scalar

namespace Noise

theorem isNaN_foldl_smaller {ι : Type} (measure : ι → Float32) (cells : List ι) {start : Float32}
    (number : start.isNaN = false) :
    (cells.foldl (fun best cell => Scalar.smaller best (measure cell)) start).isNaN = false := by
  induction cells generalizing start with
  | nil => exact number
  | cons cell cells induction => exact induction (Scalar.isNaN_smaller number (measure cell))

/-- Whatever the position and the randomness, infinities and what is no number included, cellular
noise is a number in the unit interval. -/
theorem voronoi_usable (x y randomness : Float32) :
    (voronoi x y randomness).isNaN = false ∧ 0.0 ≤ voronoi x y randomness ∧
      voronoi x y randomness ≤ 1.0 := by
  have start : largest.isNaN = false := by decide +kernel
  exact Scalar.clampUnit_mem (isNaN_foldl_smaller _ _ start)

end Noise
end TextureGraph
