/-!
# JSON values

A JSON value keeps its numbers as they are written, so that whoever uses a number decides how it is
rounded.  A value that was read but stands for no text of characters is `unpaired`: it may stand
where nobody looks at it.
-/

namespace TextureGraph

/-- A JSON value. -/
inductive Json where
  /-- The value `null`. -/
  | null
  /-- A truth value. -/
  | bool (value : Bool)
  /-- A number in its written form. -/
  | number (lexeme : List Char)
  /-- A text. -/
  | string (text : List Char)
  /-- A list of values. -/
  | array (items : List Json)
  /-- Values under names, in written order. -/
  | object (fields : List (List Char × Json))
  /-- A text, or an object with a name, that has one half of a surrogate pair without the other. -/
  | unpaired

namespace Json

/-- The characters that may stand between the parts of a value. -/
def isBlank (c : Char) : Bool :=
  c = ' ' || c = '\t' || c = '\n' || c = '\r'

end Json
end TextureGraph
