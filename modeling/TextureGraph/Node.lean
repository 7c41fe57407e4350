import TextureGraph.Pin

/-!
# Nodes and node types

A node type is a template of pins under a name and a category.  A node is one instance: it copies
the template's pins when it is made and owns them from then on.
-/

namespace TextureGraph

/-- Number of a node within its graph. -/
structure NodeId where
  /-- The number itself. -/
  val : UInt32
  deriving DecidableEq, Repr

instance : ToString NodeId where
  toString id := "node#" ++ toString id.val.toNat

/-- A node of a graph. -/
structure Node where
  /-- Number of the node within its graph. -/
  id : NodeId
  /-- Name of its type. -/
  typeName : String
  /-- Place on the canvas, without influence on values. -/
  position : Vec2
  /-- Input pins. -/
  inputs : List Pin
  /-- Output pins. -/
  outputs : List Pin
  deriving DecidableEq

namespace Node

/-- Equal parts, positions and values compared as numbers. -/
instance : BEq Node where
  beq a b :=
    decide (a.id = b.id) && a.typeName == b.typeName && a.position == b.position &&
      a.inputs == b.inputs && a.outputs == b.outputs

/-- The input pin at a place. -/
def input? (node : Node) (pin : UInt64) : Option Pin :=
  node.inputs[pin.toNat]?

/-- The output pin at a place. -/
def output? (node : Node) (pin : UInt64) : Option Pin :=
  node.outputs[pin.toNat]?

/-- Place of the first input pin of a given name. -/
def inputIndex? (node : Node) (name : String) : Option Nat :=
  node.inputs.findIdx? fun pin => pin.name = name

/-- The node with the default value of one input pin replaced; nothing if there is no such pin. -/
def setInputDefault? (node : Node) (pin : UInt64) (value : Value) : Option Node :=
  (node.input? pin).map fun old =>
    { node with inputs := node.inputs.set pin.toNat { old with default := value } }

/-- The node with the default value of one output pin replaced; nothing if there is no such pin. -/
def setOutputDefault? (node : Node) (pin : UInt64) (value : Value) : Option Node :=
  (node.output? pin).map fun old =>
    { node with outputs := node.outputs.set pin.toNat { old with default := value } }

end Node

/-- What a node type declares about its instances. -/
structure Template where
  /-- Name of the type. -/
  name : String
  /-- Category under which menus list the type. -/
  category : String
  /-- Input pins of a new instance. -/
  inputs : List Pin
  /-- Output pins of a new instance. -/
  outputs : List Pin
  deriving DecidableEq

namespace Template

/-- The name with its category in front, or the bare name when the category is empty. -/
def fullName (template : Template) : String :=
  if template.category.isEmpty then template.name
  else template.category ++ "/" ++ template.name

/-- A new instance that copies the pins. -/
def instantiate (template : Template) (id : NodeId) (position : Vec2) : Node :=
  ⟨id, template.name, position, template.inputs, template.outputs⟩

end Template

/-- A way of making instances that differs from copying the template.  It keeps the given number. -/
structure Constructor where
  /-- Makes an instance. -/
  make : Template → NodeId → Vec2 → Node
  /-- The instance has the number that was asked for. -/
  make_id : ∀ template id position, (make template id position).id = id

/-- A node type. -/
structure NodeType extends Template where
  /-- How instances are made, if not by copying the template. -/
  constructor? : Option Constructor

namespace NodeType

/-- A new instance. -/
def instantiate (type : NodeType) (id : NodeId) (position : Vec2) : Node :=
  match type.constructor? with
  | some constructor => constructor.make type.toTemplate id position
  | none => type.toTemplate.instantiate id position

@[simp]
theorem id_instantiate (type : NodeType) (id : NodeId) (position : Vec2) :
    (type.instantiate id position).id = id := by
  unfold instantiate
  split
  · exact Constructor.make_id _ _ _ _
  · rfl

end NodeType
end TextureGraph
