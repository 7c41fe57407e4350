/-!
# Settings of evaluation and rendering
-/

namespace TextureGraph

/-- What an evaluator needs to know beside its formulas. -/
structure Settings where
  /-- Edge of a rendered image in pixels; it also sets the step of a blur. -/
  resolution : UInt32
  /-- How many links may be followed in a row. -/
  maxDepth : UInt32
  deriving DecidableEq, Repr

namespace Settings

/-- The settings that hold unless others are given. -/
def default : Settings := ⟨256, 256⟩

/-- The default settings at another resolution. -/
def ofResolution (resolution : UInt32) : Settings :=
  { default with resolution := resolution }

/-- The settings in words. -/
def describe (settings : Settings) : String :=
  "EvaluatorSettings \x7b resolution: " ++ toString settings.resolution.toNat ++
    ", max_depth: " ++ toString settings.maxDepth.toNat ++ " \x7d"

end Settings
end TextureGraph
