import TextureGraph.Document.Basic
import TextureGraph.Number.Single

/-!
# Single-precision numbers of a document

The numbers that a document stores: the places of its nodes and the components of default values.
-/

namespace TextureGraph

namespace Single

/-- Neither infinite nor "not a number". -/
def Finite (x : Float32) : Prop :=
  rank x < Precision.single.infinity

/-- Finite or infinite. -/
def Numeric (x : Float32) : Prop :=
  rank x ≤ Precision.single.infinity

instance (x : Float32) : Decidable (Finite x) :=
  inferInstanceAs (Decidable (_ < _))

instance (x : Float32) : Decidable (Numeric x) :=
  inferInstanceAs (Decidable (_ ≤ _))

end Single

/-- The components of a point. -/
def Vec2.floats (v : Vec2) : List Float32 :=
  [v.x, v.y]

/-- The components of a vector. -/
def Vec3.floats (v : Vec3) : List Float32 :=
  [v.x, v.y, v.z]

/-- The channels of a colour. -/
def Color.floats (c : Color) : List Float32 :=
  [c.red, c.green, c.blue, c.alpha]

/-- The numbers of a value. -/
def Value.floats : Value → List Float32
  | float v => [v]
  | vec2 v => v.floats
  | vec3 v => v.floats
  | vec4 v => Color.floats v
  | color v => v.floats
  | int _ | bool _ | string _ => []

/-- The numbers of a node: its place and the default values of its pins. -/
def Node.floats (node : Node) : List Float32 :=
  node.position.floats ++ node.inputs.flatMap (·.default.floats) ++
    node.outputs.flatMap (·.default.floats)

/-- The numbers of a document. -/
def Document.floats (document : Document) : List Float32 :=
  document.nodes.flatMap Node.floats

end TextureGraph
