import TextureGraph.Json.Basic
import TextureGraph.Json.Number
import TextureGraph.Number.Word

/-!
# JSON values as parts of records

Integers, numbers, texts, lists and records as JSON values, and back.  A record is an object that
has every field once and may have others besides, or an array of the fields in order.  One of a
number of alternatives is named by a text, or is an object with that name alone.
-/

namespace TextureGraph
namespace Json

/-- A natural number. -/
def ofNat (n : Nat) : Json :=
  number (Nat.toDigits 10 n)

/-- An integer. -/
def ofInt (n : Int) : Json :=
  number (Word.digits n)

/-- A single-precision number; infinities and "not a number" have no form of their own. -/
def ofSingle (x : Float32) : Json :=
  match Numeral.write? x with
  | some lexeme => number lexeme
  | none => null

/-- A text. -/
def ofString (text : String) : Json :=
  string text.toList

/-- The integer that a value is written as. -/
def toInt? : Json → Option Int
  | number lexeme => (Numeral.ofLexeme? lexeme).bind Numeral.integer?
  | _ => none

/-- The single-precision number that a value stands for. -/
def toSingle? : Json → Option Float32
  | number lexeme => (Numeral.ofLexeme? lexeme).bind Numeral.single?
  | _ => none

/-- The truth value that a value is. -/
def toBool? : Json → Option Bool
  | bool value => some value
  | _ => none

/-- The text that a value is. -/
def toString? : Json → Option String
  | string text => some (String.ofList text)
  | _ => none

/-- The list that a value is, each item being read in the same way. -/
def toList? {α : Type} (item : Json → Option α) : Json → Option (List α)
  | array items => items.mapM item
  | _ => none

/-- The object with given fields. -/
def ofFields (fields : List (String × Json)) : Json :=
  object (fields.map fun field => (field.1.toList, field.2))

/-- The value of the only field of a name. -/
def field? (fields : List (List Char × Json)) (name : String) : Option Json :=
  match fields.filter fun field => field.1 = name.toList with
  | [field] => some field.2
  | _ => none

/-- The values of a record's fields in the order of their names. -/
def record? (names : List String) : Json → Option (List Json)
  | object fields => names.mapM (field? fields)
  | array items => if items.length = names.length then some items else none
  | _ => none

/-- The name of an alternative without content. -/
def alternative? : Json → Option String
  | string name => some (String.ofList name)
  | object [(name, null)] => some (String.ofList name)
  | _ => none

/-- The name and content of an alternative. -/
def content? : Json → Option (String × Json)
  | object [(name, content)] => some (String.ofList name, content)
  | _ => none

end Json
end TextureGraph
