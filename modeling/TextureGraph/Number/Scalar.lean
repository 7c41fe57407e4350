import TextureGraph.Number.Single

/-!
# The arithmetic of channels and coordinates

Noise and colour formulas are written once over a `Scalar` type.  Rendering reads them in single
precision; the same formulas can be read over the rational numbers, where every operation is exact.
-/

namespace TextureGraph

/-- Arithmetic as texture formulas use it. -/
class Scalar (α : Type) extends
    Add α, Sub α, Mul α, Div α, Neg α, LT α, LE α, BEq α, OfScientific α where
  /-- Order can be tested. -/
  decidableLT : DecidableLT α
  /-- Weak order can be tested. -/
  decidableLE : DecidableLE α
  /-- The number of an integer. -/
  ofInt : Int → α
  /-- The greatest whole number below or at the argument. -/
  floor : α → α
  /-- Truncation to a 32-bit integer; beyond the range, the nearest bound. -/
  toInt32 : α → Int32
  /-- Remainder of a truncating division. -/
  remainder : α → α → α
  /-- Distance from zero. -/
  abs : α → α

attribute [reducible, instance] Scalar.decidableLT Scalar.decidableLE

namespace Scalar

@[inline] instance : Scalar Float32 where
  decidableLT := inferInstance
  decidableLE := inferInstance
  ofInt := Float32.ofInt
  floor := Single.floor
  toInt32 := Single.toInt32
  remainder := Single.remainder
  abs := Float32.abs

variable {α : Type} [Scalar α]

/-- The larger of two numbers; one that is not a number, and so differs from itself, gives way to
the other, and of two equal ones the first is kept. -/
@[inline] def larger (x y : α) : α :=
  if x < y then y else if x == x then x else y

/-- The smaller of two numbers; one that is not a number, and so differs from itself, gives way to
the other, and of two equal ones the first is kept. -/
@[inline] def smaller (x y : α) : α :=
  if y < x then y else if x == x then x else y

/-- Moves a number below `low` to `low` and one above `high` to `high`. -/
@[inline] def clamp (low high x : α) : α :=
  if x < low then low else if high < x then high else x

/-- Restriction to the unit interval. -/
@[inline] def clampUnit (x : α) : α :=
  clamp 0.0 1.0 x

/-- The remainder of `x` by `y` that is not negative. -/
@[inline] def remainderAbove (x y : α) : α :=
  let r := remainder x y
  if r < 0.0 then r + abs y else r

end Scalar
end TextureGraph
