/-!
# Rounding to a binary precision

The nonnegative numbers of a binary floating-point format are listed in increasing order from zero
to infinity, and the place of a number in that list is its *rank*.  `Precision.rank` sends a
quotient of natural numbers to the rank of the nearest listed number, a tie going to the even rank;
`Precision.significand` and `Precision.exponent` read a rank back as an exact number.
-/

namespace TextureGraph

/-- The natural number nearest to `num / den`, a tie going to the even one. -/
def roundDiv (num den : Nat) : Nat :=
  let quotient := num / den
  let excess := 2 * (num % den)
  if excess < den then quotient
  else if den < excess then quotient + 1
  else quotient + quotient % 2

/-- The greatest integer `k` with `2 ^ k ≤ num / den`, for positive `num` and `den`. -/
def quotientLog2 (num den : Nat) : Int :=
  let guess : Int := (num.log2 : Int) - (den.log2 : Int)
  if num <<< (-guess).toNat < den <<< guess.toNat then guess - 1 else guess

/-- A binary floating-point format. -/
structure Precision where
  /-- Number of stored significand bits; a normal significand has one more. -/
  fractionBits : Nat
  /-- Exponent of the last place of the smallest positive number. -/
  minExponent : Int
  /-- Rank of infinity, one past the largest finite number. -/
  infinity : Nat
  deriving DecidableEq, Repr

namespace Precision

/-- Single precision: 32 bits, of which 23 hold the fraction. -/
def single : Precision := ⟨23, -149, 0x7f800000⟩

/-- Double precision: 64 bits, of which 52 hold the fraction. -/
def double : Precision := ⟨52, -1074, 0x7ff0000000000000⟩

/-- Exponent of the last place kept when `num / den` is rounded. -/
def place (p : Precision) (num den : Nat) : Int :=
  max p.minExponent (quotientLog2 num den - p.fractionBits)

/-- The rank of the number nearest to `num / den`; beyond the largest finite number it is that of
infinity. -/
def rank (p : Precision) (num den : Nat) : Nat :=
  if num = 0 then 0
  else
    let e := p.place num den
    let significand := roundDiv (num <<< (-e).toNat) (den <<< e.toNat)
    min p.infinity ((e - p.minExponent).toNat <<< p.fractionBits + significand)

/-- How many numbers lie between a power of two and the next. -/
def binade (p : Precision) : Nat :=
  1 <<< p.fractionBits

/-- The significand of the number of a finite rank. -/
def significand (p : Precision) (rank : Nat) : Nat :=
  let fraction := rank % p.binade
  if rank / p.binade = 0 then fraction else p.binade + fraction

/-- The exponent that goes with `significand`: the number of rank `r` is
`significand r * 2 ^ exponent r`. -/
def exponent (p : Precision) (rank : Nat) : Int :=
  p.minExponent + (rank / p.binade - 1 : Nat)

end Precision

/-- The quotient of natural numbers that equals `significand * 2 ^ exponent`. -/
def binaryRatio (significand : Nat) (exponent : Int) : Nat × Nat :=
  (significand <<< exponent.toNat, 1 <<< (-exponent).toNat)

namespace Precision

/-- Rank of the rounded product of the numbers of two finite ranks. -/
def multiply (p : Precision) (a b : Nat) : Nat :=
  let product :=
    binaryRatio (p.significand a * p.significand b) (p.exponent a + p.exponent b)
  p.rank product.1 product.2

/-- Rank of the rounded quotient of the numbers of two finite ranks, the second positive. -/
def divide (p : Precision) (a b : Nat) : Nat :=
  let quotient := binaryRatio (p.significand a) (p.exponent a - p.exponent b)
  p.rank quotient.1 (quotient.2 * p.significand b)

end Precision

end TextureGraph
