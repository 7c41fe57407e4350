import TextureGraph.Number.Scalar

/-!
# Gradient noise

Classical gradient noise on the square lattice: a fixed permutation hashes each lattice point to
one of four gradients, and the gradients of a cell's corners are blended with a smooth weight.  The
lattice repeats every 256 cells.  `fractal` adds layers of doubled frequency and halved weight.
-/

namespace TextureGraph
namespace Noise

/-- A fixed permutation of the bytes. -/
def permutation : Array UInt8 :=
  #[151, 160, 137, 91, 90, 15, 131, 13, 201, 95, 96, 53, 194, 233, 7, 225, 140, 36, 103, 30, 69,
    142, 8, 99, 37, 240, 21, 10, 23, 190, 6, 148, 247, 120, 234, 75, 0, 26, 197, 62, 94, 252, 219,
    203, 117, 35, 11, 32, 57, 177, 33, 88, 237, 149, 56, 87, 174, 20, 125, 136, 171, 168, 68, 175,
    74, 165, 71, 134, 139, 48, 27, 166, 77, 146, 158, 231, 83, 111, 229, 122, 60, 211, 133, 230,
    220, 105, 92, 41, 55, 46, 245, 40, 244, 102, 143, 54, 65, 25, 63, 161, 1, 216, 80, 73, 209, 76,
    132, 187, 208, 89, 18, 169, 200, 196, 135, 130, 116, 188, 159, 86, 164, 100, 109, 198, 173, 186,
    3, 64, 52, 217, 226, 250, 124, 123, 5, 202, 38, 147, 118, 126, 255, 82, 85, 212, 207, 206, 59,
    227, 47, 16, 58, 17, 182, 189, 28, 42, 223, 183, 170, 213, 119, 248, 152, 2, 44, 154, 163, 70,
    221, 153, 101, 155, 167, 43, 172, 9, 129, 22, 39, 253, 19, 98, 108, 110, 79, 113, 224, 232, 178,
    185, 112, 104, 218, 246, 97, 228, 251, 34, 242, 193, 238, 210, 144, 12, 191, 179, 162, 241, 81,
    51, 145, 235, 249, 14, 239, 107, 49, 192, 214, 31, 181, 199, 106, 157, 184, 84, 204, 176, 115,
    121, 50, 45, 127, 4, 150, 254, 138, 236, 205, 93, 222, 114, 67, 29, 24, 72, 243, 141, 128, 195,
    78, 66, 215, 61, 156, 180]

/-- The image of a byte under the permutation. -/
def permute (i : UInt8) : UInt8 :=
  permutation.getD i.toNat 0

variable {α : Type} [Scalar α]

/-- The smooth weight `6t⁵ - 15t⁴ + 10t³`. -/
@[specialize] def fade (t : α) : α :=
  t * t * t * (t * (t * 6.0 - 15.0) + 10.0)

/-- The point at share `t` of the way from `a` to `b`. -/
@[specialize] def blend (a b t : α) : α :=
  a + (b - a) * t

/-- Inner product of an offset with one of the four diagonal gradients. -/
@[specialize] def gradient (hash : UInt8) (x y : α) : α :=
  let first := if hash &&& 3 < 2 then x else y
  let second := if hash &&& 3 < 2 then y else x
  (if hash &&& 1 = 0 then first else -first) + (if hash &&& 2 = 0 then second else -second)

/-- The hash of a lattice point. -/
def latticeHash (i j : UInt8) : UInt8 :=
  permute (permute i + j)

/-- The noise at offset `(x, y)` from the low corner of cell `(i, j)`, in the unit interval. -/
@[specialize] def cell (i j : UInt8) (x y : α) : α :=
  let u := fade x
  let v := fade y
  let low := blend (gradient (latticeHash i j) x y) (gradient (latticeHash (i + 1) j) (x - 1.0) y) u
  let high :=
    blend (gradient (latticeHash i (j + 1)) x (y - 1.0))
      (gradient (latticeHash (i + 1) (j + 1)) (x - 1.0) (y - 1.0)) u
  (blend low high v + 1.0) * 0.5

/-- The cell of a coordinate among the 256 that repeat. -/
@[specialize] def cellIndex (x : α) : UInt8 :=
  (Scalar.toInt32 (Scalar.floor x)).toUInt32.toUInt8

/-- Gradient noise, in the unit interval. -/
@[specialize] def perlin (x y : α) : α :=
  cell (cellIndex x) (cellIndex y) (x - Scalar.floor x) (y - Scalar.floor y)

/-- Adds `octaves` layers to `sum`, the first with the given weight and frequency, each later one
with half the weight and double the frequency. -/
@[specialize] def layers (x y : α) : (octaves : Nat) → (sum weight frequency : α) → α
  | 0, sum, _, _ => sum
  | octaves + 1, sum, weight, frequency =>
      layers x y octaves (sum + weight * perlin (x * frequency) (y * frequency))
        (weight * 0.5) (frequency * 2.0)

/-- Fractal noise of a number of layers. -/
@[specialize] def fractal (x y : α) (octaves : Nat) : α :=
  layers x y octaves 0.0 0.5 1.0

end Noise
end TextureGraph
