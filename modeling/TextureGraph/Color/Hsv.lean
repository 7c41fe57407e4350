import TextureGraph.Value

/-!
# Hue, saturation and value

Conversion between channel colours and hue, saturation and value.  A hue is counted in turns: red
is zero, green a third, blue two thirds.
-/

namespace TextureGraph

/-- A colour without alpha. -/
structure Rgb (α : Type) where
  /-- Red channel. -/
  red : α
  /-- Green channel. -/
  green : α
  /-- Blue channel. -/
  blue : α
  deriving DecidableEq

/-- A colour by hue, saturation and value. -/
structure Hsv (α : Type) where
  /-- Hue in turns. -/
  hue : α
  /-- Share of the value that the weakest channel lacks. -/
  saturation : α
  /-- The strongest channel. -/
  value : α
  deriving DecidableEq

variable {α : Type} [Scalar α]

/-- The hue of a colour in turns, by its strongest channel; a nearly gray colour has hue zero. -/
@[specialize] def Rgb.hue (c : Rgb α) (strongest spread : α) : α :=
  if 0.0001 < spread then
    let sector :=
      if strongest == c.red then Scalar.remainder ((c.green - c.blue) / spread) 6.0
      else if strongest == c.green then (c.blue - c.red) / spread + 2.0
      else (c.red - c.green) / spread + 4.0
    let turns := sector / 6.0
    if turns < 0.0 then turns + 1.0 else turns
  else 0.0

/-- Hue, saturation and value of a colour. -/
@[specialize] def Rgb.toHsv (c : Rgb α) : Hsv α :=
  let strongest := Scalar.larger (Scalar.larger c.red c.green) c.blue
  let weakest := Scalar.smaller (Scalar.smaller c.red c.green) c.blue
  let spread := strongest - weakest
  { hue := c.hue strongest spread
    saturation := if 0.0001 < strongest then spread / strongest else 0.0
    value := strongest }

/-- The colour of a hue, saturation and value. -/
@[specialize] def Hsv.toRgb (c : Hsv α) : Rgb α :=
  let sector := c.hue * 6.0
  let chroma := c.value * c.saturation
  let second := chroma * (1.0 - Scalar.abs (Scalar.remainder sector 2.0 - 1.0))
  let base := c.value - chroma
  let pure : Rgb α :=
    if sector < 1.0 then ⟨chroma, second, 0.0⟩
    else if sector < 2.0 then ⟨second, chroma, 0.0⟩
    else if sector < 3.0 then ⟨0.0, chroma, second⟩
    else if sector < 4.0 then ⟨0.0, second, chroma⟩
    else if sector < 5.0 then ⟨second, 0.0, chroma⟩
    else ⟨chroma, 0.0, second⟩
  ⟨pure.red + base, pure.green + base, pure.blue + base⟩

/-- The hue that a shift leads to, wrapped into a turn. -/
@[specialize] def Hsv.shiftHue (hue shift : α) : α :=
  Scalar.remainderAbove (hue + shift) 1.0

/-- Moves hue, saturation and value by the given amounts, the hue around the circle and the others
within the unit interval. -/
@[specialize] def Rgb.adjust (c : Rgb α) (shift : Hsv α) : Rgb α :=
  let hsv := c.toHsv
  Hsv.toRgb
    { hue := Hsv.shiftHue hsv.hue shift.hue
      saturation := Scalar.clampUnit (hsv.saturation + shift.saturation)
      value := Scalar.clampUnit (hsv.value + shift.value) }

/-- Moves hue, saturation and value of a colour and keeps its alpha. -/
@[specialize] def Rgba.adjust (c : Rgba α) (shift : Hsv α) : Rgba α :=
  let adjusted := (⟨c.red, c.green, c.blue⟩ : Rgb α).adjust shift
  ⟨adjusted.red, adjusted.green, adjusted.blue, c.alpha⟩

end TextureGraph
