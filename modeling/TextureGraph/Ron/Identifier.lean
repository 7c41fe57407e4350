import TextureGraph.Text.Identifier
import TextureGraph.Text.Reader

/-!
# Identifiers in RON

An identifier is a word of identifier characters.  After the mark `r#` points and signs belong to
the word as well.
-/

namespace TextureGraph
namespace Ron

/-- The characters of an identifier after the mark `r#`. -/
def isRawIdentifierCharacter (c : Char) : Bool :=
  c = '.' || c = '+' || c = '-' || isIdentifierContinue c

/-- The beginnings of quoted texts that would pass for identifiers. -/
def quotedBeginnings : List (List Char) :=
  [['b', '"'], ['b', '\''], ['b', 'r', '#'], ['b', 'r', '"'], ['r', '"'], ['r', '#', '"'],
    ['r', '#', '#']]

/-- Whether a quoted text begins here. -/
def beginsQuoted (text : List Char) : Bool :=
  quotedBeginnings.any fun beginning => beginning.isPrefixOf text

/-- Reads a word, whatever follows. -/
def word : Reader (List Char) :=
  fun text =>
    if beginsQuoted text then none
    else
      match text with
      | 'r' :: '#' :: c :: text =>
          if isRawIdentifierCharacter c then
            Reader.takeWhile isRawIdentifierCharacter (c :: text)
          else none
      | 'r' :: '#' :: [] => none
      | c :: text =>
          if isIdentifierStart c then Reader.takeWhile isIdentifierContinue (c :: text) else none
      | [] => none

/-- Reads an identifier; one without the mark may not be followed by a point or a sign. -/
def identifier : Reader (List Char) := do
  let word ← word
  let next ← Reader.peek?
  if next.any isRawIdentifierCharacter then Reader.refuse else pure word

/-- Takes a word if it stands here as a whole. -/
def acceptIdentifier (word : List Char) : Reader Bool :=
  fun text =>
    if word.isPrefixOf text && !(text.drop word.length).head?.any isIdentifierContinue then
      some (true, text.drop word.length)
    else some (false, text)

/-- Takes the first of some words that stands here as a whole, and gives what belongs to it. -/
def acceptOneOf? {α : Type} : List (String × α) → Reader (Option α)
  | [] => pure none
  | (word, value) :: words => do
      if ← acceptIdentifier word.toList then pure (some value) else acceptOneOf? words

end Ron
end TextureGraph
