import TextureGraph.Number.Single
import TextureGraph.Text.Reader

/-!
# Runs of digits

The parts of written numbers that all notations share.
-/

namespace TextureGraph
namespace Digits

/-- Reads one or more digits. -/
def atLeastOne : Reader (List Char) := do
  let digits ← Reader.takeWhile Char.isDigit
  if digits.isEmpty then Reader.refuse else pure digits

/-- Reads an optional sign and tells whether it is a minus. -/
def sign : Reader Bool := do
  let negative ← Reader.accept '-'
  let _ ← if negative then pure false else Reader.accept '+'
  pure negative

/-- Reads the sign and the digits of an exponent. -/
def signedExponent : Reader Int := do
  let negative ← sign
  let digits ← atLeastOne
  pure (Single.signed negative (decimalNumber digits))

/-- Reads an exponent with its mark, if there is one. -/
def exponent? : Reader (Option Int) := do
  let small ← Reader.accept 'e'
  let marked ← if small then pure true else Reader.accept 'E'
  if marked then some <$> signedExponent else pure none

end Digits
end TextureGraph
