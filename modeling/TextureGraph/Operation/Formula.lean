import TextureGraph.Color.Blend
import TextureGraph.Color.Hsv
import TextureGraph.Evaluation.Evaluator
import TextureGraph.Noise.Cellular
import TextureGraph.Noise.Gradient
import TextureGraph.Operation.Basic

/-!
# Formulas of the built-in operations

Every built-in operation gives a colour.  Operations on numbers give the opaque gray of their
result.  Inputs are read in the order written here, so that the first failing one decides.
-/

namespace TextureGraph

/-- The value itself if it is positive, else a substitute. -/
def positiveOr (value substitute : Float32) : Float32 :=
  if 0.0 < value then value else substitute

/-- The number at share `t` of the way from `a` to `b`. -/
def interpolate (a b t : Float32) : Float32 :=
  a + t * (b - a)

namespace Operation

/-- Number of noise layers for an input: its whole part between one and eight, four by default. -/
def layerCount (octaves : Float32) : Nat :=
  if 0.0 < octaves then max 1 (min 8 octaves.toUInt32.toNat) else 4

/-- Whether a point lies on a light square of the board whose squares have edge one. -/
def isLightSquare (x y : Float32) : Bool :=
  (Single.toInt64 (Single.floor x) + Single.toInt64 (Single.floor y)).toInt % 2 = 0

/-- The upper bound of a range; one that does not exceed the lower bound is replaced. -/
def upperBound (low high substitute : Float32) : Float32 :=
  if high ≤ low then substitute else high

/-- The upper end of an input range; a nearly empty range is given the length one. -/
def rangeEnd (low high : Float32) : Float32 :=
  if (high - low).abs < 1e-4 then low + 1.0 else high

/-- The affine map that sends one range to another. -/
def remapped (value low high targetLow targetHigh : Float32) : Float32 :=
  let t := (value - low) / (rangeEnd low high - low)
  targetLow + t * (targetHigh - targetLow)

/-- A power; a base that is not positive counts as zero and the exponent zero as one. -/
def powered (base exponent : Float32) : Float32 :=
  (positiveOr base 0.0).pow (if exponent == 0.0 then 1.0 else exponent)

/-- A channel stretched from a range to the unit interval and raised to the power `1 / gamma`; an
empty range counts as the unit interval and a gamma that is not positive as one. -/
def leveled (low high gamma channel : Float32) : Float32 :=
  let bottom := if high ≤ low then 0.0 else low
  let top := if high ≤ low then 1.0 else high
  let exponent := if gamma ≤ 0.0 then 1.0 else gamma
  (Scalar.clampUnit ((channel - bottom) / (top - bottom))).pow (1.0 / exponent)

/-- The nine offsets of a blur, row by row. -/
def blurOffsets : List (Float32 × Float32) :=
  [(-1.0, -1.0), (0.0, -1.0), (1.0, -1.0),
   (-1.0, 0.0), (0.0, 0.0), (1.0, 0.0),
   (-1.0, 1.0), (0.0, 1.0), (1.0, 1.0)]

/-- The channel that an output pin of a split stands for. -/
def channel (color : Color) (outputPin : UInt64) : Float32 :=
  if outputPin = 0 then color.red
  else if outputPin = 1 then color.green
  else if outputPin = 2 then color.blue
  else color.alpha

/-- Blends the colour channels of two inputs and keeps the first one's alpha. -/
def blendInputs (inputs : Inputs) (f : Float32 → Float32 → Float32) :
    Except EvaluationError Color := do
  let a ← inputs.color 0
  let b ← inputs.color 1
  pure ⟨f a.red b.red, f a.green b.green, f a.blue b.blue, a.alpha⟩

/-- The colour of an output pin. -/
def color (operation : Operation) (inputs : Inputs) (outputPin : UInt64) :
    Except EvaluationError Color :=
  match operation with
  | perlinNoise => do
      let uv ← inputs.uv 0
      let scale := positiveOr (← inputs.float 1) 4.0
      let octaves ← inputs.float 2
      pure (Color.gray (Noise.fractal (uv.x * scale) (uv.y * scale) (layerCount octaves)))
  | checkerboard => do
      let uv ← inputs.uv 0
      let scale := positiveOr (← inputs.float 1) 8.0
      pure (Color.gray (if isLightSquare (uv.x * scale) (uv.y * scale) then 1.0 else 0.0))
  | gradient => do
      let uv ← inputs.uv 0
      let a ← inputs.color 1
      let b ← inputs.color 2
      let t := Scalar.clampUnit uv.x
      pure (Rgba.zipWith (fun a b => interpolate a b t) a b)
  | solidColor => inputs.color 0
  | voronoi => do
      let uv ← inputs.uv 0
      let scale := positiveOr (← inputs.float 1) 4.0
      let randomness := positiveOr (← inputs.float 2) 1.0
      pure (Color.gray (Noise.voronoi (uv.x * scale) (uv.y * scale) randomness))
  | textureSample => pure (Color.gray 0.5)
  | add => do
      let a ← inputs.float 0
      let b ← inputs.float 1
      pure (Color.gray (a + b))
  | multiply => do
      let a ← inputs.float 0
      let b ← inputs.float 1
      pure (Color.gray (a * b))
  | lerp => do
      let a ← inputs.float 0
      let b ← inputs.float 1
      let t ← inputs.float 2
      pure (Color.gray (interpolate a b (Scalar.clampUnit t)))
  | clamp => do
      let value ← inputs.float 0
      let low ← inputs.float 1
      let high ← inputs.float 2
      pure (Color.gray (Scalar.smaller (Scalar.larger value low) (upperBound low high 1.0)))
  | remap => do
      let value ← inputs.float 0
      let low ← inputs.float 1
      let high ← inputs.float 2
      let targetLow ← inputs.float 3
      let targetHigh ← inputs.float 4
      pure (Color.gray (remapped value low high targetLow targetHigh))
  | power => do
      let base ← inputs.float 0
      let exponent ← inputs.float 1
      pure (Color.gray (powered base exponent))
  | blur => do
      let radius ← inputs.float 1
      if radius ≤ 0.0 then inputs.color 0
      else
        let step := radius / (max 1 inputs.settings.resolution).toFloat32
        let sum ← blurOffsets.foldlM (fun sum offset => do
          let sample : Vec2 :=
            ⟨inputs.sample.x + offset.1 * step, inputs.sample.y + offset.2 * step⟩
          let color ← inputs.colorAt 0 sample
          pure (Rgba.zipWith (· + ·) sum color)) (⟨0.0, 0.0, 0.0, 0.0⟩ : Color)
        pure (sum.map (· / 9.0))
  | levels => do
      let color ← inputs.color 0
      let low ← inputs.float 1
      let high ← inputs.float 2
      let gamma ← inputs.float 3
      let apply := leveled low high gamma
      pure ⟨apply color.red, apply color.green, apply color.blue, color.alpha⟩
  | invert => do
      let color ← inputs.color 0
      pure ⟨1.0 - color.red, 1.0 - color.green, 1.0 - color.blue, color.alpha⟩
  | hsvAdjust => do
      let color ← inputs.color 0
      let hue ← inputs.float 1
      let saturation ← inputs.float 2
      let value ← inputs.float 3
      pure (color.adjust ⟨hue, saturation, value⟩)
  | channelSplit => do
      let color ← inputs.color 0
      pure (Color.gray (channel color outputPin))
  | channelMerge => do
      let red ← inputs.float 0
      let green ← inputs.float 1
      let blue ← inputs.float 2
      let alpha ← inputs.float 3
      pure ⟨red, green, blue, positiveOr alpha 1.0⟩
  | colorize => do
      let value ← inputs.float 0
      let color ← inputs.color 1
      pure (color.map (· * Scalar.clampUnit value))
  | blendMultiply => do
      let a ← inputs.color 0
      let b ← inputs.color 1
      pure (Rgba.zipWith (· * ·) a b)
  | blendOverlay => blendInputs inputs Blend.overlay
  | blendScreen => blendInputs inputs Blend.screen
  | blendAdd => do
      let a ← inputs.color 0
      let b ← inputs.color 1
      pure (Rgba.zipWith (fun a b => Scalar.clampUnit (a + b)) a b)
  | textureOutput => inputs.color 0

/-- The formula of an operation. -/
def formula (operation : Operation) : Formula :=
  fun inputs outputPin => Value.color <$> operation.color inputs outputPin

end Operation

namespace Evaluator

/-- The evaluator that knows every built-in operation. -/
def builtin (settings : Settings) : Evaluator :=
  Operation.all.foldl
    (fun evaluator operation => evaluator.register operation.typeName operation.formula)
    (empty settings)

end Evaluator
end TextureGraph
