import TextureGraph.Number.Single

/-!
# Decimal texts of single-precision numbers

A positive single-precision number is written with the fewest decimal digits that still round to
it.  `Decimal.shortest` walks from coarse decimal grids to fine ones and stops at the first grid on
which one of the two neighbours of the number rounds back to it, so what it writes reads back by
construction.  The layouts of the chosen digits, positional and scientific, are separate functions.
-/

namespace TextureGraph

/-- The number `digits * 10 ^ exponent`. -/
structure Decimal where
  /-- Decimal significand. -/
  digits : Nat
  /-- Power of ten that scales it. -/
  exponent : Int
  deriving DecidableEq, Repr

/-- Where a number goes that lies halfway between two decimals that both read back. -/
inductive DecimalTie where
  /-- To the one with the even last digit. -/
  | toEven
  /-- To the larger one. -/
  | up
  deriving DecidableEq, Repr

namespace Decimal

/-- A power of ten. -/
def powerOfTen (n : Nat) : Nat :=
  Nat.pow 10 n

/-- The quotient of natural numbers that a decimal stands for. -/
def ratio (d : Decimal) : Nat × Nat :=
  (d.digits * powerOfTen d.exponent.toNat, powerOfTen (-d.exponent).toNat)

/-- Rank of the nearest number of a format.  Powers of ten that no format reaches are settled
without computing them. -/
def rank (p : Precision) (d : Decimal) : Nat :=
  if d.digits = 0 then 0
  else if 400 < d.exponent then p.infinity
  else if d.exponent < -(400 + d.digits.log2 : Int) then 0
  else p.rank d.ratio.1 d.ratio.2

/-- The neighbour of `num / den` on the grid of step `10 ^ exponent` that has rank `target`; the
nearer one when both have it. -/
def onGrid? (tie : DecimalTie) (target num den : Nat) (exponent : Int) : Option Nat :=
  let scaledNum := num * powerOfTen (-exponent).toNat
  let scaledDen := den * powerOfTen exponent.toNat
  let below := scaledNum / scaledDen
  let excess := 2 * (scaledNum % scaledDen)
  let belowFits := rank .single ⟨below, exponent⟩ = target
  let aboveFits := rank .single ⟨below + 1, exponent⟩ = target
  let preferAbove :=
    scaledDen < excess ∨ scaledDen = excess ∧ (tie = .up ∨ below % 2 = 1)
  if belowFits ∧ ¬(aboveFits ∧ preferAbove) then some below
  else if aboveFits then some (below + 1)
  else none

/-- Searches `grids + 1` grids, starting at `10 ^ exponent` and each ten times finer than the one
before; the last is taken as it is. -/
def search (tie : DecimalTie) (target num den : Nat) : (grids : Nat) → (exponent : Int) → Decimal
  | 0, exponent =>
      ⟨num * powerOfTen (-exponent).toNat / (den * powerOfTen exponent.toNat), exponent⟩
  | grids + 1, exponent =>
      match onGrid? tie target num den exponent with
      | some digits => ⟨digits, exponent⟩
      | none => search tie target num den grids (exponent - 1)

/-- The decimal with the fewest digits that rounds to the positive number of a rank. -/
def shortest (tie : DecimalTie) (target : Nat) : Decimal :=
  let significand := Precision.single.significand target
  let exponent := Precision.single.exponent target
  let value := binaryRatio significand exponent
  -- A power of ten above the number: 0.30103 exceeds the decimal logarithm of two.
  let start : Int := ((significand.log2 : Int) + 1 + exponent) * 30103 / 100000 + 1
  search tie target value.1 value.2 (start + 150).toNat start

/-- Digits with a point placed so that the first digit counts `10 ^ leading`; a whole number gets
one zero after the point. -/
def positional (digits : List Char) (leading : Int) : List Char :=
  if leading < 0 then
    ['0', '.'] ++ List.replicate (-leading - 1).toNat '0' ++ digits
  else
    let whole := leading.toNat + 1
    if digits.length ≤ whole then
      digits ++ List.replicate (whole - digits.length) '0' ++ ['.', '0']
    else digits.take whole ++ ['.'] ++ digits.drop whole

/-- One digit, a point before any further ones, and the exponent with its sign. -/
def scientific (digits : List Char) (leading : Int) : List Char :=
  let mantissa := match digits with
    | [] => []
    | [first] => [first]
    | first :: rest => first :: '.' :: rest
  let sign := if leading < 0 then '-' else '+'
  mantissa ++ ['e', sign] ++ Nat.toDigits 10 leading.natAbs

/-- Exponent of the first digit of a decimal written with the given digits. -/
def leading (d : Decimal) (digits : List Char) : Int :=
  d.exponent + digits.length - 1

end Decimal
end TextureGraph
