import TextureGraph.Number.Scalar

/-!
# Values and their types

The values that pins hold and links carry, the types that pins declare, and the coercions by which
a formula reads any value as a number, a point or a colour.  `ValueType.feeds` says which declared
types may be joined by a link.
-/

namespace TextureGraph

/-- A point or vector of the plane. -/
structure Vec2 where
  /-- First component. -/
  x : Float32
  /-- Second component. -/
  y : Float32
  deriving DecidableEq

/-- A vector of three components. -/
structure Vec3 where
  /-- First component. -/
  x : Float32
  /-- Second component. -/
  y : Float32
  /-- Third component. -/
  z : Float32
  deriving DecidableEq

/-- A colour of red, green, blue and alpha channels. -/
structure Rgba (α : Type) where
  /-- Red channel. -/
  red : α
  /-- Green channel. -/
  green : α
  /-- Blue channel. -/
  blue : α
  /-- Coverage, one for opaque. -/
  alpha : α
  deriving DecidableEq

/-- A colour in single precision. -/
abbrev Color : Type := Rgba Float32

namespace Vec2

/-- Componentwise equality of numbers. -/
instance : BEq Vec2 where
  beq a b := a.x == b.x && a.y == b.y

end Vec2

namespace Vec3

/-- Componentwise equality of numbers. -/
instance : BEq Vec3 where
  beq a b := a.x == b.x && a.y == b.y && a.z == b.z

end Vec3

namespace Rgba

/-- Channelwise equality of numbers. -/
instance {α : Type} [BEq α] : BEq (Rgba α) where
  beq a b := a.red == b.red && a.green == b.green && a.blue == b.blue && a.alpha == b.alpha

/-- Applies a function to all four channels. -/
@[inline] def map {α β : Type} (f : α → β) (c : Rgba α) : Rgba β :=
  ⟨f c.red, f c.green, f c.blue, f c.alpha⟩

/-- Combines two colours channel by channel. -/
@[inline] def zipWith {α β γ : Type} (f : α → β → γ) (a : Rgba α) (b : Rgba β) : Rgba γ :=
  ⟨f a.red b.red, f a.green b.green, f a.blue b.blue, f a.alpha b.alpha⟩

end Rgba

namespace Color

/-- Opaque white, the colour of an input that has no value. -/
def white : Color := ⟨1.0, 1.0, 1.0, 1.0⟩

/-- Opaque magenta, which stands for a value that could not be computed. -/
def error : Color := ⟨1.0, 0.0, 1.0, 1.0⟩

/-- The opaque gray of one level. -/
def gray (level : Float32) : Color := ⟨level, level, level, 1.0⟩

end Color

/-- The declared type of a pin. -/
inductive ValueType where
  /-- A number. -/
  | float
  /-- A 32-bit integer. -/
  | int
  /-- A truth value. -/
  | bool
  /-- A vector of two components. -/
  | vec2
  /-- A vector of three components. -/
  | vec3
  /-- A vector of four components. -/
  | vec4
  /-- A colour. -/
  | color
  /-- A text. -/
  | string
  deriving DecidableEq, Repr

namespace ValueType

/-- Every type, in the order of declaration. -/
def all : List ValueType :=
  [.float, .int, .bool, .vec2, .vec3, .vec4, .color, .string]

/-- The name of a type in documents. -/
def name : ValueType → String
  | float => "Float"
  | int => "Int"
  | bool => "Bool"
  | vec2 => "Vec2"
  | vec3 => "Vec3"
  | vec4 => "Vec4"
  | color => "Color"
  | string => "String"

/-- The type of a given name. -/
def ofName? (text : String) : Option ValueType :=
  all.find? fun type => type.name = text

/-- Whether a pin of the first type may feed a pin of the second: equal types; colours and vectors
of four components either way; numbers into every vector and colour; vectors into longer vectors;
integers into numbers; truth values into integers. -/
def feeds : ValueType → ValueType → Bool
  | color, vec4 | vec4, color => true
  | float, vec2 | float, vec3 | float, vec4 | float, color => true
  | vec2, vec3 | vec2, vec4 | vec3, vec4 => true
  | int, float | bool, int => true
  | source, target => source = target

end ValueType

/-- A value of a pin. -/
inductive Value where
  /-- A number. -/
  | float (value : Float32)
  /-- A 32-bit integer. -/
  | int (value : Int32)
  /-- A truth value. -/
  | bool (value : Bool)
  /-- A vector of two components. -/
  | vec2 (value : Vec2)
  /-- A vector of three components. -/
  | vec3 (value : Vec3)
  /-- A vector of four components, kept like a colour. -/
  | vec4 (value : Rgba Float32)
  /-- A colour. -/
  | color (value : Color)
  /-- A text. -/
  | string (value : String)
  deriving DecidableEq

namespace Value

/-- Equality of values as numbers: of the same kind, with equal components, so that nothing equals
a value that holds "not a number" and the two zeros are equal. -/
instance : BEq Value where
  beq
    | float a, float b => a == b
    | int a, int b => a == b
    | bool a, bool b => a == b
    | vec2 a, vec2 b => a == b
    | vec3 a, vec3 b => a == b
    | vec4 a, vec4 b => a == b
    | color a, color b => a == b
    | string a, string b => a == b
    | _, _ => false

/-- The value a pin of a declared type starts with: zero, false or empty, and white for a colour. -/
def default : ValueType → Value
  | .float => float 0.0
  | .int => int 0
  | .bool => bool false
  | .vec2 => vec2 ⟨0.0, 0.0⟩
  | .vec3 => vec3 ⟨0.0, 0.0, 0.0⟩
  | .vec4 => vec4 ⟨0.0, 0.0, 0.0, 0.0⟩
  | .color => color Color.white
  | .string => string ""

/-- The type of a value. -/
def type : Value → ValueType
  | float _ => .float
  | int _ => .int
  | bool _ => .bool
  | vec2 _ => .vec2
  | vec3 _ => .vec3
  | vec4 _ => .vec4
  | color _ => .color
  | string _ => .string

/-- Reads a value as a number: a vector gives its first component, a text gives zero. -/
def asFloat : Value → Float32
  | float v => v
  | int v => Float32.ofInt v.toInt
  | bool v => if v then 1.0 else 0.0
  | vec2 v => v.x
  | vec3 v => v.x
  | vec4 v => v.red
  | color v => v.red
  | string _ => 0.0

/-- Reads a value as a colour: a number gives an opaque gray, a short vector is filled up with zero
and made opaque, a text gives white. -/
def asColor : Value → Color
  | float v => Color.gray v
  | int v => Color.gray (int v).asFloat
  | bool v => Color.gray (bool v).asFloat
  | vec2 v => ⟨v.x, v.y, 0.0, 1.0⟩
  | vec3 v => ⟨v.x, v.y, v.z, 1.0⟩
  | vec4 v => v
  | color v => v
  | string _ => Color.white

/-- Reads a value as a point: a number stands for both components, a longer vector is cut off, a
text gives the origin. -/
def asVec2 : Value → Vec2
  | float v => ⟨v, v⟩
  | int v => ⟨(int v).asFloat, (int v).asFloat⟩
  | bool v => ⟨(bool v).asFloat, (bool v).asFloat⟩
  | vec2 v => v
  | vec3 v => ⟨v.x, v.y⟩
  | vec4 v => ⟨v.red, v.green⟩
  | color v => ⟨v.red, v.green⟩
  | string _ => ⟨0.0, 0.0⟩

/-- The text that a value holds, if it is one. -/
def text? : Value → Option String
  | string v => some v
  | _ => none

end Value
end TextureGraph
