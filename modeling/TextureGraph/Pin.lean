import TextureGraph.Value

/-!
# Pins

A pin is a named slot of a node with a direction, a declared type and the value it has while no
link feeds it.  It is addressed by its place in the node's list of inputs or outputs.
-/

namespace TextureGraph

/-- Which way a pin passes values. -/
inductive Direction where
  /-- The pin takes a value. -/
  | input
  /-- The pin gives a value. -/
  | output
  deriving DecidableEq, Repr

namespace Direction

/-- The name of a direction in documents. -/
def name : Direction → String
  | input => "Input"
  | output => "Output"

/-- The direction of a given name. -/
def ofName? (text : String) : Option Direction :=
  [input, output].find? fun direction => direction.name = text

end Direction

/-- A slot of a node. -/
structure Pin where
  /-- Name shown to the user. -/
  name : String
  /-- Declared type. -/
  type : ValueType
  /-- Which way the pin passes values. -/
  direction : Direction
  /-- Value of the pin while no link feeds it. -/
  default : Value
  deriving DecidableEq

namespace Pin

/-- Equal parts, the values compared as numbers. -/
instance : BEq Pin where
  beq a b :=
    a.name == b.name && decide (a.type = b.type) && decide (a.direction = b.direction) &&
      a.default == b.default

/-- An input pin that starts with the default value of its type. -/
def input (name : String) (type : ValueType) : Pin :=
  ⟨name, type, .input, Value.default type⟩

/-- An output pin that starts with the default value of its type. -/
def output (name : String) (type : ValueType) : Pin :=
  ⟨name, type, .output, Value.default type⟩

/-- Whether a link may lead from the first pin to the second: from an output to an input, of types
that go together. -/
def canFeed (source target : Pin) : Bool :=
  source.direction = .output && target.direction = .input && source.type.feeds target.type

end Pin
end TextureGraph
