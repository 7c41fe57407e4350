import TextureGraph.Number.Rounding

/-!
# Single-precision numbers read exactly

`Single.content` opens a `Float32` into a sign, a significand and an exponent, so that rounding
down, truncation to a range of integers and the truncated remainder are integer arithmetic with
one exact result.
-/

namespace TextureGraph
namespace Single

/-- What a single-precision number stands for. -/
inductive Content where
  /-- Not a number. -/
  | notANumber
  /-- The infinity of the given sign. -/
  | infinite (negative : Bool)
  /-- `significand * 2 ^ exponent`, negated when `negative` holds. -/
  | finite (negative : Bool) (significand : Nat) (exponent : Int)
  deriving DecidableEq, Repr

/-- Place of `|x|` among the nonnegative numbers; that of infinity or more when there is none. -/
def rank (x : Float32) : Nat :=
  x.toBits.toNat % 0x80000000

/-- Whether the sign bit is set. -/
def isNegative (x : Float32) : Bool :=
  0x80000000 ≤ x.toBits.toNat

/-- Opens a number into the parts that determine it. -/
def content (x : Float32) : Content :=
  let rank := rank x
  if rank < Precision.single.infinity then
    .finite (isNegative x) (Precision.single.significand rank) (Precision.single.exponent rank)
  else if rank = Precision.single.infinity then .infinite (isNegative x)
  else .notANumber

/-- The number of a sign and a rank. -/
def ofRank (negative : Bool) (rank : Nat) : Float32 :=
  Float32.ofBits (UInt32.ofNat (if negative then 0x80000000 + rank else rank))

/-- The number nearest to `significand * 2 ^ exponent`, negated when `negative` holds. -/
def ofParts (negative : Bool) (significand : Nat) (exponent : Int) : Float32 :=
  let ratio := binaryRatio significand exponent
  ofRank negative (Precision.single.rank ratio.1 ratio.2)

/-- A natural number with a sign. -/
def signed (negative : Bool) (n : Nat) : Int :=
  if negative then -(n : Int) else n

/-- The greatest integer that is at most `± significand * 2 ^ exponent`. -/
def floorParts (negative : Bool) (significand : Nat) (exponent : Int) : Int :=
  let ratio := binaryRatio significand exponent
  signed negative ratio.1 / ratio.2

/-- The integer next to `± significand * 2 ^ exponent` on the side of zero. -/
def truncateParts (negative : Bool) (significand : Nat) (exponent : Int) : Int :=
  let ratio := binaryRatio significand exponent
  (signed negative ratio.1).tdiv ratio.2

/-- The greatest whole number that is at most `x`; an `x` that is whole, infinite or not a number
is returned as it is, the sign of a zero included. -/
def floor (x : Float32) : Float32 :=
  match content x with
  | .finite negative significand exponent =>
      if 0 ≤ exponent ∨ significand = 0 then x
      else Float32.ofInt (floorParts negative significand exponent)
  | _ => x

/-- The part of `x` before the point as an integer between `low` and `high`; values beyond either
bound become that bound, and what is not a number becomes zero. -/
def truncateWithin (low high : Int) (x : Float32) : Int :=
  match content x with
  | .notANumber => 0
  | .infinite negative => if negative then low else high
  | .finite negative significand exponent =>
      max low (min high (truncateParts negative significand exponent))

/-- Truncation to a 32-bit integer. -/
def toInt32 (x : Float32) : Int32 :=
  Int32.ofInt (truncateWithin (-2147483648) 2147483647 x)

/-- Truncation to a 64-bit integer. -/
def toInt64 (x : Float32) : Int64 :=
  Int64.ofInt (truncateWithin (-9223372036854775808) 9223372036854775807 x)

/-- The single-precision word for "not a number". -/
def nan : Float32 := Float32.ofBits 0x7fc00000

/-- The exact remainder of `x` by `y` with the sign of `x`, for a division that truncates. -/
def remainder (x y : Float32) : Float32 :=
  match content x, content y with
  | .finite negative m e, .finite _ n f =>
      if n = 0 then nan
      else
        let low := min e f
        ofParts negative (m <<< (e - low).toNat % n <<< (f - low).toNat) low
  | .finite .., .infinite _ => x
  | _, _ => nan

end Single
end TextureGraph
