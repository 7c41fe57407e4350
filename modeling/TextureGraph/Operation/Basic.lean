/-!
# Built-in operations

The built-in node types in catalogue order, each with the name of its type and an identifier.
-/

namespace TextureGraph

/-- A built-in node type. -/
inductive Operation where
  /-- Fractal gradient noise. -/
  | perlinNoise
  /-- A pattern of light and dark squares. -/
  | checkerboard
  /-- A passage between two colours. -/
  | gradient
  /-- One colour everywhere. -/
  | solidColor
  /-- Cellular noise. -/
  | voronoi
  /-- A stand-in for image input. -/
  | textureSample
  /-- Sum. -/
  | add
  /-- Product. -/
  | multiply
  /-- Linear interpolation. -/
  | lerp
  /-- Restriction to a range. -/
  | clamp
  /-- Affine map from one range to another. -/
  | remap
  /-- Power. -/
  | power
  /-- Mean of nine samples around a point. -/
  | blur
  /-- Stretching of the tonal range with gamma. -/
  | levels
  /-- Complement of the colour channels. -/
  | invert
  /-- Shift of hue, saturation and value. -/
  | hsvAdjust
  /-- One channel of a colour. -/
  | channelSplit
  /-- A colour from its channels. -/
  | channelMerge
  /-- A colour scaled by a number. -/
  | colorize
  /-- Channelwise product. -/
  | blendMultiply
  /-- Overlay blend. -/
  | blendOverlay
  /-- Screen blend. -/
  | blendScreen
  /-- Channelwise sum, cut off at one. -/
  | blendAdd
  /-- The node that a rendering starts from. -/
  | textureOutput
  deriving DecidableEq, Repr

namespace Operation

/-- Every operation, in catalogue order. -/
def all : List Operation :=
  [perlinNoise, checkerboard, gradient, solidColor, voronoi, textureSample, add, multiply, lerp,
    clamp, remap, power, blur, levels, invert, hsvAdjust, channelSplit, channelMerge, colorize,
    blendMultiply, blendOverlay, blendScreen, blendAdd, textureOutput]

/-- Name of the node type. -/
def typeName : Operation → String
  | perlinNoise => "Perlin Noise"
  | checkerboard => "Checkerboard"
  | gradient => "Gradient"
  | solidColor => "Solid Color"
  | voronoi => "Voronoi"
  | textureSample => "Texture Sample"
  | add => "Add"
  | multiply => "Multiply"
  | lerp => "Lerp"
  | clamp => "Clamp"
  | remap => "Remap"
  | power => "Power"
  | blur => "Blur"
  | levels => "Levels"
  | invert => "Invert"
  | hsvAdjust => "HSV Adjust"
  | channelSplit => "Channel Split"
  | channelMerge => "Channel Merge"
  | colorize => "Colorize"
  | blendMultiply => "Blend Multiply"
  | blendOverlay => "Blend Overlay"
  | blendScreen => "Blend Screen"
  | blendAdd => "Blend Add"
  | textureOutput => "Texture Output"

/-- The name as one word, each part capitalised. -/
def identifier : Operation → String
  | perlinNoise => "PerlinNoise"
  | checkerboard => "Checkerboard"
  | gradient => "Gradient"
  | solidColor => "SolidColor"
  | voronoi => "Voronoi"
  | textureSample => "TextureSample"
  | add => "Add"
  | multiply => "Multiply"
  | lerp => "Lerp"
  | clamp => "Clamp"
  | remap => "Remap"
  | power => "Power"
  | blur => "Blur"
  | levels => "Levels"
  | invert => "Invert"
  | hsvAdjust => "HsvAdjust"
  | channelSplit => "ChannelSplit"
  | channelMerge => "ChannelMerge"
  | colorize => "Colorize"
  | blendMultiply => "BlendMultiply"
  | blendOverlay => "BlendOverlay"
  | blendScreen => "BlendScreen"
  | blendAdd => "BlendAdd"
  | textureOutput => "TextureOutput"

/-- The operation of a type name. -/
def ofTypeName? (name : String) : Option Operation :=
  all.find? fun operation => operation.typeName = name

end Operation
end TextureGraph
