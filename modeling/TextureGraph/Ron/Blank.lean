import TextureGraph.Text.Reader

/-!
# Blanks and comments in RON

Blanks and comments may stand between all parts of a value.  A comment runs from two slashes to the
end of the line, or from a slash with a star to the star with a slash that matches it.
-/

namespace TextureGraph
namespace Ron

/-- The characters that may stand between the parts of a value: the pattern white space of
Unicode. -/
def isBlank (c : Char) : Bool :=
  c = ' ' || ('\t' ≤ c && c ≤ '\r') || c = '\u0085' || c = '\u200e' || c = '\u200f' ||
    c = '\u2028' || c = '\u2029'

/-- Where a character stands with regard to comments. -/
inductive Place where
  /-- Outside of comments. -/
  | outside
  /-- In a comment that ends with the line. -/
  | line
  /-- In a comment that lies within `depth` others. -/
  | nested (depth : Nat)
  deriving DecidableEq, Repr

/-- The text after blanks and comments; none if a comment is left open or a slash begins none. -/
def skipBlank : Place → List Char → Option (List Char)
  | .outside, [] => some []
  | .outside, '/' :: '/' :: text => skipBlank .line text
  | .outside, '/' :: '*' :: text => skipBlank (.nested 0) text
  | .outside, c :: text =>
      if c = '/' then none
      else if isBlank c then skipBlank .outside text
      else some (c :: text)
  | .line, [] => some []
  | .line, c :: text => if c = '\n' then skipBlank .outside text else skipBlank .line text
  | .nested _, [] => none
  | .nested depth, '/' :: '*' :: text => skipBlank (.nested (depth + 1)) text
  | .nested 0, '*' :: '/' :: text => skipBlank .outside text
  | .nested (depth + 1), '*' :: '/' :: text => skipBlank (.nested depth) text
  | .nested depth, _ :: text => skipBlank (.nested depth) text

/-- Skips blanks and comments. -/
def blank : Reader Unit :=
  fun text => (skipBlank .outside text).map fun text => ((), text)

/-- Reads the items of a list after its opening character; a comma may follow the last one. -/
def items {α : Type} (close : Char) (item : Reader α) : Reader (List α) :=
  Reader.items blank true close item

/-- Reads the only item of a list after its opening character. -/
def onlyItem {α : Type} (close : Char) (item : Reader α) : Reader α := do
  blank
  let value ← item
  blank
  let _ ← Reader.accept ','
  blank
  Reader.expect close
  pure value

end Ron
end TextureGraph
