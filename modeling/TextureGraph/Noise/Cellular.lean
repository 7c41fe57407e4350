import TextureGraph.Number.Scalar

/-!
# Cellular noise

Every cell of the square lattice holds one feature point, placed by a hash of the cell's indices.
Cellular noise is the distance to the nearest feature point of the cell around a position and its
eight neighbours, cut off at one.
-/

namespace TextureGraph
namespace Noise

/-- A hash of a cell's indices, in wrapping 32-bit arithmetic. -/
def cellHash (i j : Int32) : Int32 :=
  let n := i * 374761393 + j * 668265263
  (n ^^^ (n >>> 13)) * 1274126177

variable {α : Type} [Scalar α]

/-- A 16-bit number as a share of the largest one. -/
@[specialize] def share (bits : Int32) : α :=
  Scalar.ofInt (bits &&& 0xFFFF).toInt / 65535.0

/-- The feature point of a cell: its centre, moved by at most half of `randomness` either way. -/
@[specialize] def featurePoint (i j : Int32) (randomness : α) : α × α :=
  let hash := cellHash i j
  let column : α := Scalar.ofInt i.toInt
  let row : α := Scalar.ofInt j.toInt
  let across : α := share hash
  let along : α := share (hash >>> 16)
  (column + 0.5 + (across - 0.5) * randomness, row + 0.5 + (along - 0.5) * randomness)

/-- The square of the distance between a position and a point. -/
@[specialize] def squaredDistance (x y : α) (point : α × α) : α :=
  (x - point.1) * (x - point.1) + (y - point.2) * (y - point.2)

/-- A cell and its eight neighbours, row by row; indices wrap around. -/
def neighbourhood (i j : Int32) : List (Int32 × Int32) :=
  [(i - 1, j - 1), (i, j - 1), (i + 1, j - 1),
   (i - 1, j), (i, j), (i + 1, j),
   (i - 1, j + 1), (i, j + 1), (i + 1, j + 1)]

/-- The distance to the nearest feature point of the nine cells around a position, in the unit
interval.  Distances are compared as `root` gives them from their squares, and none counts as more
than `largest`.  Cell indices stop at the bounds of 32-bit integers. -/
@[specialize] def nearest (root : α → α) (largest x y randomness : α) : α :=
  let cells := neighbourhood (Scalar.toInt32 (Scalar.floor x)) (Scalar.toInt32 (Scalar.floor y))
  Scalar.clampUnit (cells.foldl (fun best cell =>
    Scalar.smaller best (root (squaredDistance x y (featurePoint cell.1 cell.2 randomness))))
    largest)

/-- The largest finite single-precision number. -/
def largest : Float32 := Float32.ofBits 0x7f7fffff

/-- Cellular noise in single precision. -/
def voronoi (x y randomness : Float32) : Float32 :=
  nearest Float32.sqrt largest x y randomness

end Noise
end TextureGraph
