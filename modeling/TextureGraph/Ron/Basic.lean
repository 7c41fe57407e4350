import TextureGraph.Ron.Number
import TextureGraph.Ron.Text
import TextureGraph.Text.Layout

/-!
# RON values

A RON value as it is written: lists and records with one item on each line, indented by four
blanks, everything else on the line where it begins.
-/

namespace TextureGraph

/-- A RON value. -/
inductive Ron where
  /-- A number, quoted text or name in its written form. -/
  | atom (text : List Char)
  /-- Values without names. -/
  | tuple (items : List Ron)
  /-- A value marked with the name of its alternative. -/
  | tagged (name : String) (content : Ron)
  /-- A list of values. -/
  | list (items : List Ron)
  /-- Values under names. -/
  | record (fields : List (String × Ron))

namespace Ron

/-- A natural number. -/
def ofNat (n : Nat) : Ron :=
  atom (Nat.toDigits 10 n)

/-- An integer. -/
def ofInt (n : Int) : Ron :=
  atom (Word.digits n)

/-- A single-precision number. -/
def ofSingle (x : Float32) : Ron :=
  atom (writeSingle x)

/-- A truth value. -/
def ofBool (value : Bool) : Ron :=
  atom (if value then "true".toList else "false".toList)

/-- A text. -/
def ofString (text : String) : Ron :=
  atom (writeText text.toList)

/-- The name of an alternative without content. -/
def ofName (name : String) : Ron :=
  atom name.toList

/-- Four blanks to a step, a comma after every item. -/
def layout : Layout := ⟨4, true⟩

/-- Texts on one line, a comma and a blank between them. -/
def inline : List (List Char) → List Char
  | [] => []
  | [item] => item
  | item :: items => item ++ [',', ' '] ++ inline items

mutual

/-- The text of a value at a level of indentation. -/
def write (level : Nat) : Ron → List Char
  | atom text => text
  | tuple items => ['('] ++ inline (writeItems level items) ++ [')']
  | tagged name content => name.toList ++ ['('] ++ write level content ++ [')']
  | list items => layout.block level '[' ']' (writeItems (level + 1) items)
  | record fields => layout.block level '(' ')' (writeFields (level + 1) fields)

/-- The texts of some values. -/
def writeItems (level : Nat) : List Ron → List (List Char)
  | [] => []
  | item :: items => write level item :: writeItems level items

/-- The texts of the fields of a record. -/
def writeFields (level : Nat) : List (String × Ron) → List (List Char)
  | [] => []
  | (name, value) :: fields =>
      (name.toList ++ [':', ' '] ++ write level value) :: writeFields level fields

end

/-- The text of a value. -/
def toText (value : Ron) : List Char :=
  write 0 value

end Ron
end TextureGraph
