import TextureGraph.Number.Scalar

/-!
# Blending one channel
-/

namespace TextureGraph
namespace Blend

variable {α : Type} [Scalar α]

/-- The complement of the product of the complements. -/
@[specialize] def screen (a b : α) : α :=
  1.0 - (1.0 - a) * (1.0 - b)

/-- Doubled product in the dark half of the first channel, doubled screen in the light half. -/
@[specialize] def overlay (a b : α) : α :=
  if a < 0.5 then 2.0 * a * b else 1.0 - 2.0 * (1.0 - a) * (1.0 - b)

end Blend
end TextureGraph
