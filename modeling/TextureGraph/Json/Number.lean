import TextureGraph.Number.Decimal
import TextureGraph.Number.Digits

/-!
# Numbers in JSON

`Numeral` is the grammar of written numbers, and `Numeral.single?` their value in single precision:
whole numbers of 64 bits are rounded at once, all others by way of double precision, beyond which
there is no value.  `Numeral.write?` gives the shortest text that reads back.

The way through double precision rounds more than once.  As many digits as 64 bits hold are rounded
to a double, which is then multiplied or divided by the double next to a power of ten.
-/

namespace TextureGraph

/-- The parts of a written number. -/
structure Numeral where
  /-- Whether a minus sign stands in front. -/
  negative : Bool
  /-- The digits before the point. -/
  whole : List Char
  /-- The digits after the point. -/
  fraction : List Char
  /-- The written exponent, zero without one. -/
  exponent : Int
  /-- Whether neither a point nor an exponent is written. -/
  isWhole : Bool
  deriving DecidableEq, Repr

namespace Numeral

/-- The characters of which numbers are written. -/
def isCharacter (c : Char) : Bool :=
  c.isDigit || c = '+' || c = '-' || c = '.' || c = 'e' || c = 'E'

/-- Reads the digits before the point, which begin with a zero only if they are just that. -/
def wholeDigits : Reader (List Char) := do
  let digits ← Digits.atLeastOne
  if digits.head? = some '0' ∧ digits ≠ ['0'] then Reader.refuse else pure digits

/-- Reads the digits after the point, if there is one. -/
def fractionDigits? : Reader (Option (List Char)) := do
  if ← Reader.accept '.' then some <$> Digits.atLeastOne else pure none

/-- Reads a number. -/
def reader : Reader Numeral := do
  let negative ← Reader.accept '-'
  let whole ← wholeDigits
  let fraction? ← fractionDigits?
  let exponent? ← Digits.exponent?
  pure
    { negative
      whole
      fraction := fraction?.getD []
      exponent := exponent?.getD 0
      isWhole := fraction?.isNone && exponent?.isNone }

/-- The parts of a written number. -/
def ofLexeme? (lexeme : List Char) : Option Numeral :=
  reader.runAll lexeme

/-- The integer that is written; a zero with a minus sign is none. -/
def integer? (numeral : Numeral) : Option Int :=
  let digits := decimalNumber numeral.whole
  if numeral.isWhole ∧ ¬(numeral.negative ∧ digits = 0) then
    some (Single.signed numeral.negative digits)
  else none

/-- Appends digits to a number as long as 64 bits hold it, and gives the digits that are left. -/
def absorb (number : Nat) : List Char → Nat × List Char
  | [] => (number, [])
  | c :: digits =>
      let longer := 10 * number + (c.toNat - '0'.toNat)
      if longer < 0x10000000000000000 then absorb longer digits else (number, c :: digits)

/-- The decimal that a number is read as.  Digits before the point that find no room in 64 bits
still count in the exponent; those after it are dropped. -/
def decimal (numeral : Numeral) : Decimal :=
  let whole := absorb 0 numeral.whole
  let all := absorb whole.1 numeral.fraction
  ⟨all.1, whole.2.length - (numeral.fraction.length - all.2.length : Nat) + numeral.exponent⟩

/-- Rank of the double next to a power of ten. -/
def power (exponent : Nat) : Nat :=
  Precision.double.rank (Decimal.powerOfTen exponent) 1

/-- Divides the double of a rank by the largest power of ten as often as told. -/
def shrink (rank : Nat) : (steps : Nat) → Nat
  | 0 => rank
  | steps + 1 => if rank = 0 then 0 else shrink (Precision.double.divide rank (power 308)) steps

/-- Rank of the double that a decimal is turned into; none beyond the largest one. -/
def scaled? (d : Decimal) : Option Nat :=
  let digits := Precision.double.rank d.digits 1
  if digits = 0 then some 0
  else if 308 < d.exponent then none
  else if 0 ≤ d.exponent then
    let product := Precision.double.multiply digits (power d.exponent.toNat)
    if product = Precision.double.infinity then none else some product
  else
    let places := (-d.exponent).toNat
    let steps := (places - 1) / 308
    some (Precision.double.divide (shrink digits steps) (power (places - 308 * steps)))

/-- The double that a written number is turned into, rounded to single precision; none beyond the
range of double precision. -/
def throughDouble? (numeral : Numeral) : Option Float32 :=
  (scaled? numeral.decimal).map fun rank =>
    Single.ofParts numeral.negative (Precision.double.significand rank)
      (Precision.double.exponent rank)

/-- The single-precision value of a written number. -/
def single? (numeral : Numeral) : Option Float32 :=
  match numeral.integer? with
  | some value =>
      if -0x8000000000000000 ≤ value ∧ value < 0x10000000000000000 then
        some (Single.ofParts numeral.negative (decimalNumber numeral.whole) 0)
      else numeral.throughDouble?
  | none => numeral.throughDouble?

/-- The text of a positive number: positional for exponents of the first digit between -6 and 12,
otherwise scientific. -/
def ofRank (rank : Nat) : List Char :=
  let decimal := Decimal.shortest .toEven rank
  let digits := Nat.toDigits 10 decimal.digits
  let leading := decimal.leading digits
  if -6 ≤ leading ∧ leading ≤ 12 then Decimal.positional digits leading
  else Decimal.scientific digits leading

/-- The shortest text that reads back as a finite number; none for the others. -/
def write? (x : Float32) : Option (List Char) :=
  let sign := if Single.isNegative x then ['-'] else []
  if Precision.single.infinity ≤ Single.rank x then none
  else if Single.rank x = 0 then some (sign ++ ['0', '.', '0'])
  else some (sign ++ ofRank (Single.rank x))

end Numeral
end TextureGraph
