import TextureGraph.Event
import TextureGraph.Text.Sorted

/-!
# Catalogues of node types

A catalogue lists node types in the order in which their names were first registered.  Registering
a name again replaces the type and keeps its place.  A type is found by its name or, if there is no
such name, by its full name.
-/

namespace TextureGraph

/-- The node types that graphs can instantiate. -/
structure Catalogue where
  /-- The types, in order of the first registration of their names. -/
  types : List NodeType

namespace Catalogue

/-- The catalogue without types. -/
def empty : Catalogue := ⟨[]⟩

/-- The type registered under a name. -/
def named? (catalogue : Catalogue) (name : String) : Option NodeType :=
  catalogue.types.find? fun type => type.name = name

/-- Adds a type at the end, or puts it in the place of the type of the same name. -/
def insert (catalogue : Catalogue) (type : NodeType) : Catalogue :=
  if (catalogue.named? type.name).isSome then
    ⟨catalogue.types.map fun old => if old.name = type.name then type else old⟩
  else ⟨catalogue.types ++ [type]⟩

/-- Inserts a type and tells when that replaces one. -/
def register (catalogue : Catalogue) (type : NodeType) : Logged Catalogue where
  result := catalogue.insert type
  events := if (catalogue.named? type.name).isSome then [.typeReplaced type.name] else []

/-- Registers types one after the other, without the events. -/
def insertAll (catalogue : Catalogue) (types : List NodeType) : Catalogue :=
  types.foldl insert catalogue

/-- The type of a name, else the first type of that full name. -/
def get? (catalogue : Catalogue) (name : String) : Option NodeType :=
  match catalogue.named? name with
  | some type => some type
  | none => catalogue.types.find? fun type => type.fullName = name

/-- Whether a name or full name is known. -/
def contains (catalogue : Catalogue) (name : String) : Bool :=
  (catalogue.get? name).isSome

/-- The categories in use, in strictly increasing order of their characters. -/
def categories (catalogue : Catalogue) : List String :=
  sortedWords (catalogue.types.map fun type => type.category)

/-- The types of a category. -/
def typesIn (catalogue : Catalogue) (category : String) : List NodeType :=
  catalogue.types.filter fun type => type.category = category

/-- Number of types. -/
def size (catalogue : Catalogue) : Nat :=
  catalogue.types.length

end Catalogue
end TextureGraph
