import TextureGraph.Number.Decimal
import TextureGraph.Number.Digits
import TextureGraph.Number.Word
import TextureGraph.Ron.Identifier

/-!
# Numbers in RON

Integers are written to the bases two, eight, ten and sixteen, numbers in decimal, with low lines
between the digits where that helps, and either may be followed by its type.  A number is rounded
to single precision at once.  `Ron.writeSingle` gives the shortest positional text that reads back.
-/

namespace TextureGraph
namespace Ron

/-! ## Integers -/

/-- Reads the mark of a base; ten has none. -/
def base : Reader Nat := do
  if ← Reader.acceptWord ['0', 'b'] then pure 2
  else if ← Reader.acceptWord ['0', 'o'] then pure 8
  else if ← Reader.acceptWord ['0', 'x'] then pure 16
  else pure 10

/-- The number written by digits of a base, low lines counting for nothing. -/
def naturalOfBase? (base : Nat) (digits : List Char) : Option Nat :=
  (digits.filter (· ≠ '_')).foldlM (fun n c => do
    let digit ← hexDigit? c
    if digit < base then some (base * n + digit) else none) 0

/-- Whether a character can stand among the digits of some base. -/
def isIntegerCharacter (c : Char) : Bool :=
  (hexDigit? c).isSome || c = '_'

/-- Reads an integer together with the type that follows it, one of the given names, if any.  After
digits of base eight or sixteen no type can follow. -/
def integer {α : Type} (types : List (String × α)) : Reader (Int × Option α) := do
  let negative ← Digits.sign
  let base ← base
  let digits ← Reader.takeWhile isIntegerCharacter
  if digits.isEmpty || digits.head? = some '_' then Reader.refuse
  let magnitude ← Reader.lift (naturalOfBase? base digits)
  let type ← if base = 8 || base = 16 then pure none else acceptOneOf? types
  pure (Single.signed negative magnitude, type)

/-- Reads an unsigned 32-bit integer. -/
def uint32 : Reader UInt32 := do
  let (value, _) ← integer [("u32", ())]
  Reader.lift (Word.uint32? value)

/-- Reads an unsigned 64-bit integer. -/
def uint64 : Reader UInt64 := do
  let (value, _) ← integer [("u64", ())]
  Reader.lift (Word.uint64? value)

/-- Reads a signed 32-bit integer. -/
def int32 : Reader Int32 := do
  let (value, _) ← integer [("i32", ())]
  Reader.lift (Word.int32? value)

/-! ## Numbers with a point or exponent -/

/-- The words for numbers without digits. -/
def namedSingles : List (String × Float32) :=
  let infinity := Single.ofRank false Precision.single.infinity
  [("inf", infinity), ("+inf", infinity), ("-inf", -infinity),
    ("NaN", Single.nan), ("+NaN", Single.nan), ("-NaN", Single.nan)]

/-- The words for numbers without digits, each alone and followed by one of the given types. -/
def namedWithTypes (types : List String) : List (String × Float32) :=
  namedSingles.flatMap fun (name, value) =>
    (name, value) :: types.map fun type => (name ++ type, value)

/-- Whether a character can stand in a number. -/
def isNumberCharacter (c : Char) : Bool :=
  c.isDigit || c = 'e' || c = 'E' || c = '.' || c = '+' || c = '-' || c = '_'

/-- A number without its low lines, each of which must follow a digit or the mark of the exponent,
signs aside; `allowed` tells whether one may come first. -/
def withoutLowLines? : (allowed : Bool) → List Char → Option (List Char)
  | _, [] => some []
  | allowed, c :: text =>
      if c = '_' then if allowed then withoutLowLines? allowed text else none
      else if c = '+' ∨ c = '-' then (withoutLowLines? allowed text).map (c :: ·)
      else (withoutLowLines? (c ≠ '.') text).map (c :: ·)

/-- Reads a number as a sign and a decimal.  Digits may be missing on one side of the point. -/
def decimal : Reader (Bool × Decimal) := do
  let negative ← Digits.sign
  let whole ← Reader.takeWhile Char.isDigit
  let point ← Reader.accept '.'
  let fraction ← if point then Reader.takeWhile Char.isDigit else pure []
  let exponent? ← Digits.exponent?
  let digits := whole ++ fraction
  if digits.isEmpty then Reader.refuse
  else pure (negative, ⟨decimalNumber digits, exponent?.getD 0 - fraction.length⟩)

/-- The number of a sign and a decimal. -/
def singleOfDecimal (number : Bool × Decimal) : Float32 :=
  Single.ofRank number.1 (number.2.rank .single)

/-- Reads a number, after which one of the given types may stand. -/
def singleWithTypes (types : List String) : Reader Float32 := do
  match ← acceptOneOf? (namedWithTypes types) with
  | some value => pure value
  | none =>
      let written ← Reader.takeWhile isNumberCharacter
      let plain ← Reader.lift (withoutLowLines? false written)
      let number ← Reader.lift (decimal.runAll plain)
      let _ ← acceptOneOf? (types.map fun type => (type, ()))
      pure (singleOfDecimal number)

/-- Reads a single-precision number. -/
def single : Reader Float32 :=
  singleWithTypes ["f32"]

/-- The shortest positional text of a positive number. -/
def positionalOfRank (rank : Nat) : List Char :=
  let decimal := Decimal.shortest .up rank
  let digits := Nat.toDigits 10 decimal.digits
  Decimal.positional digits (decimal.leading digits)

/-- The text of a number. -/
def writeSingle (x : Float32) : List Char :=
  let sign := if Single.isNegative x then ['-'] else []
  let rank := Single.rank x
  if Precision.single.infinity < rank then ['N', 'a', 'N']
  else if rank = Precision.single.infinity then sign ++ ['i', 'n', 'f']
  else if rank = 0 then sign ++ ['0', '.', '0']
  else sign ++ positionalOfRank rank

end Ron
end TextureGraph
