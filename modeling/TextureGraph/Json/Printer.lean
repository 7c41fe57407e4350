import TextureGraph.Json.Basic
import TextureGraph.Json.Text
import TextureGraph.Text.Layout

/-!
# Writing JSON

Arrays and objects are written with one item on each line, indented by two blanks.
-/

namespace TextureGraph
namespace Json

/-- Two blanks to a step, nothing after the last item. -/
def layout : Layout := ⟨2, false⟩

mutual

/-- The text of a value at a level of indentation. -/
def write (level : Nat) : Json → List Char
  | null => ['n', 'u', 'l', 'l']
  | bool true => ['t', 'r', 'u', 'e']
  | bool false => ['f', 'a', 'l', 's', 'e']
  | number lexeme => lexeme
  | string text => JsonText.quote text
  | array items => layout.block level '[' ']' (writeItems (level + 1) items)
  | object fields => layout.block level '\x7b' '\x7d' (writeFields (level + 1) fields)
  | unpaired => ['n', 'u', 'l', 'l']

/-- The texts of the items of an array. -/
def writeItems (level : Nat) : List Json → List (List Char)
  | [] => []
  | item :: items => write level item :: writeItems level items

/-- The texts of the fields of an object. -/
def writeFields (level : Nat) : List (List Char × Json) → List (List Char)
  | [] => []
  | (name, value) :: fields =>
      (JsonText.quote name ++ [':', ' '] ++ write level value) :: writeFields level fields

end

/-- The text of a value. -/
def toText (value : Json) : List Char :=
  write 0 value

end Json
end TextureGraph
