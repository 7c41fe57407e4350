import TextureGraph.Json.Basic
import TextureGraph.Json.Number
import TextureGraph.Json.Text

/-!
# Reading JSON

`Json.ofText?` reads a text that holds one value and otherwise only blanks.
-/

namespace TextureGraph
namespace Json

/-- Skips blanks. -/
def blank : Reader Unit :=
  fun text => some ((), text.dropWhile isBlank)

/-- The value of a text that was read. -/
def ofCharacters? (text? : Option (List Char)) : Json :=
  match text? with
  | some text => string text
  | none => unpaired

/-- The object of entries that were read. -/
def ofEntries (entries : List (Option (List Char) × Json)) : Json :=
  match entries.mapM fun entry => entry.1.map fun name => (name, entry.2) with
  | some fields => object fields
  | none => unpaired

/-- Reads a number in its written form. -/
def lexeme : Reader (List Char) := do
  let lexeme ← Reader.takeWhile Numeral.isCharacter
  if (Numeral.ofLexeme? lexeme).isSome then pure lexeme else Reader.refuse

/-- Reads a name, a colon and a value. -/
def entry (value : Reader Json) : Reader (Option (List Char) × Json) := do
  Reader.expect '"'
  let name ← JsonText.reader
  blank
  Reader.expect ':'
  blank
  let value ← value
  pure (name, value)

/-- Reads a value that is nested less deep than a bound. -/
def valueWithin : (depth : Nat) → Reader Json
  | 0 => Reader.refuse
  | depth + 1 => do
      if ← Reader.accept '\x7b' then
        ofEntries <$> Reader.items blank false '\x7d' (entry (valueWithin depth))
      else if ← Reader.accept '[' then
        array <$> Reader.items blank false ']' (valueWithin depth)
      else if ← Reader.accept '"' then ofCharacters? <$> JsonText.reader
      else if ← Reader.acceptWord ['n', 'u', 'l', 'l'] then pure null
      else if ← Reader.acceptWord ['t', 'r', 'u', 'e'] then pure (bool true)
      else if ← Reader.acceptWord ['f', 'a', 'l', 's', 'e'] then pure (bool false)
      else number <$> lexeme

/-- Reads a value; it is nested less deep than the text is long. -/
def value : Reader Json := do
  let text ← Reader.rest
  valueWithin text.length

/-- The value that a text holds. -/
def ofText? (text : List Char) : Option Json :=
  Reader.runAll (do
    blank
    let value ← value
    blank
    pure value) text

end Json
end TextureGraph
