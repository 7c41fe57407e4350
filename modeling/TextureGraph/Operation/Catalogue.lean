import TextureGraph.Catalogue
import TextureGraph.Operation.Basic

/-!
# The built-in catalogue

Category, inputs and outputs of the built-in node types.
-/

namespace TextureGraph
namespace Operation

/-- Category under which menus list an operation. -/
def category : Operation → String
  | perlinNoise | checkerboard | gradient | solidColor | voronoi | textureSample => "Generators"
  | add | multiply | lerp | clamp | remap | power => "Math"
  | blur | levels | invert => "Filters"
  | hsvAdjust | channelSplit | channelMerge | colorize => "Color"
  | blendMultiply | blendOverlay | blendScreen | blendAdd => "Blend"
  | textureOutput => "Output"

/-- Names and types of the inputs. -/
def inputs : Operation → List (String × ValueType)
  | perlinNoise => [("UV", .vec2), ("Scale", .float), ("Octaves", .float)]
  | checkerboard => [("UV", .vec2), ("Scale", .float)]
  | gradient => [("UV", .vec2), ("ColorA", .color), ("ColorB", .color)]
  | solidColor => [("Color", .color)]
  | voronoi => [("UV", .vec2), ("Scale", .float), ("Randomness", .float)]
  | textureSample => [("UV", .vec2), ("Path", .string)]
  | add | multiply => [("A", .float), ("B", .float)]
  | lerp => [("A", .float), ("B", .float), ("T", .float)]
  | clamp => [("Value", .float), ("Min", .float), ("Max", .float)]
  | remap =>
      [("Value", .float), ("InMin", .float), ("InMax", .float), ("OutMin", .float),
        ("OutMax", .float)]
  | power => [("Base", .float), ("Exponent", .float)]
  | blur => [("Input", .color), ("Radius", .float)]
  | levels => [("Input", .color), ("Min", .float), ("Max", .float), ("Gamma", .float)]
  | invert => [("Input", .color)]
  | hsvAdjust => [("Input", .color), ("H", .float), ("S", .float), ("V", .float)]
  | channelSplit => [("Color", .color)]
  | channelMerge => [("R", .float), ("G", .float), ("B", .float), ("A", .float)]
  | colorize => [("Value", .float), ("Color", .color)]
  | blendMultiply | blendOverlay | blendScreen | blendAdd => [("A", .color), ("B", .color)]
  | textureOutput => [("Color", .color)]

/-- Names and types of the outputs. -/
def outputs : Operation → List (String × ValueType)
  | perlinNoise | voronoi => [("Value", .float)]
  | checkerboard => [("Pattern", .float)]
  | add | multiply | lerp | clamp | remap | power => [("Result", .float)]
  | channelSplit => [("R", .float), ("G", .float), ("B", .float), ("A", .float)]
  | _ => [("Color", .color)]

/-- The node type of an operation. -/
def nodeType (operation : Operation) : NodeType where
  name := operation.typeName
  category := operation.category
  inputs := operation.inputs.map fun pin => Pin.input pin.1 pin.2
  outputs := operation.outputs.map fun pin => Pin.output pin.1 pin.2
  constructor? := none

end Operation

namespace Catalogue

/-- The catalogue of the built-in operations. -/
def builtin : Catalogue :=
  empty.insertAll (Operation.all.map Operation.nodeType)

end Catalogue
end TextureGraph
