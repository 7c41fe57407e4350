/-!
# Indented texts

A list or record is laid out with one item on each line, indented one step further than the line on
which it opens.  The notations differ in the width of a step and in what follows the last item.
-/

namespace TextureGraph

/-- How a notation lays out lists and records. -/
structure Layout where
  /-- Blanks that a step of indentation adds. -/
  step : Nat
  /-- Whether a comma follows the last item. -/
  lastComma : Bool
  deriving DecidableEq, Repr

namespace Layout

/-- The start of a line at a level of indentation. -/
def newline (layout : Layout) (level : Nat) : List Char :=
  '\n' :: List.replicate (layout.step * level) ' '

/-- Lines with one item each, a comma after every item but the last. -/
def lines (layout : Layout) (level : Nat) : List (List Char) → List Char
  | [] => []
  | [item] => layout.newline level ++ item ++ (if layout.lastComma then [','] else [])
  | item :: items => layout.newline level ++ item ++ [','] ++ layout.lines level items

/-- Items between an opening and a closing character at a level of indentation; without items the
two stand together. -/
def block (layout : Layout) (level : Nat) (opening closing : Char) (items : List (List Char)) :
    List Char :=
  if items.isEmpty then [opening, closing]
  else [opening] ++ layout.lines (level + 1) items ++ layout.newline level ++ [closing]

end Layout
end TextureGraph
