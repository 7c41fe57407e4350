import TextureGraph.Graph.Basic
import TextureGraph.Settings
import TextureGraph.Text.Quoted

/-!
# Evaluation

`Evaluator.evaluate` gives the value of one output pin at one sample point.  The formula of the
node's type reads the node's inputs through `Inputs`; an input that a link feeds is evaluated at the
link's source, any other has its default value.  Nothing is remembered between requests.
-/

namespace TextureGraph

/-- What a formula can see of the node it computes: the node, the sample point, the settings, and
the values of the inputs. -/
structure Inputs where
  /-- The node whose output is wanted. -/
  node : Node
  /-- The sample point. -/
  sample : Vec2
  /-- The evaluator's settings. -/
  settings : Settings
  /-- Whether a link feeds an input pin. -/
  isConnected : UInt64 → Bool
  /-- The value of an input pin at a sample point; nothing if the pin neither exists nor is fed. -/
  resolve : UInt64 → Vec2 → Except EvaluationError (Option Value)

namespace Inputs

/-- An input as a number, zero if it has no value. -/
def float (inputs : Inputs) (pin : UInt64) : Except EvaluationError Float32 := do
  let value ← inputs.resolve pin inputs.sample
  pure (value.elim 0.0 Value.asFloat)

/-- An input as a colour at any sample point, white if it has no value. -/
def colorAt (inputs : Inputs) (pin : UInt64) (sample : Vec2) : Except EvaluationError Color := do
  let value ← inputs.resolve pin sample
  pure (value.elim Color.white Value.asColor)

/-- An input as a colour, white if it has no value. -/
def color (inputs : Inputs) (pin : UInt64) : Except EvaluationError Color :=
  inputs.colorAt pin inputs.sample

/-- An input as a point, the sample point if it has no value. -/
def vec2 (inputs : Inputs) (pin : UInt64) : Except EvaluationError Vec2 := do
  let value ← inputs.resolve pin inputs.sample
  pure (value.elim inputs.sample Value.asVec2)

/-- An input as a texture coordinate: left unconnected at the origin it is the sample point. -/
def uv (inputs : Inputs) (pin : UInt64) : Except EvaluationError Vec2 := do
  let point ← inputs.vec2 pin
  if point == ⟨0.0, 0.0⟩ && !inputs.isConnected pin then pure inputs.sample else pure point

end Inputs

/-- How the nodes of a type compute the value of an output pin. -/
abbrev Formula : Type :=
  Inputs → (outputPin : UInt64) → Except EvaluationError Value

/-- Settings and the formulas of node types. -/
structure Evaluator where
  /-- The settings. -/
  settings : Settings
  /-- Formulas by the name of their type, each name once. -/
  formulas : List (String × Formula)

namespace Evaluator

/-- The evaluator without formulas. -/
def empty (settings : Settings) : Evaluator := ⟨settings, []⟩

/-- The formula of a type. -/
def formula? (evaluator : Evaluator) (typeName : String) : Option Formula :=
  evaluator.formulas.lookup typeName

/-- Whether a type has a formula. -/
def hasFormula (evaluator : Evaluator) (typeName : String) : Bool :=
  (evaluator.formula? typeName).isSome

/-- Gives a type a formula, in place of any it had. -/
def register (evaluator : Evaluator) (typeName : String) (formula : Formula) : Evaluator :=
  { evaluator with
    formulas := (typeName, formula) :: evaluator.formulas.filter fun entry => entry.1 ≠ typeName }

/-- The value of an output pin when at most `levels` nodes may stand in a row behind it, itself
included. -/
def evaluateWithin (evaluator : Evaluator) (graph : Graph) :
    (levels : Nat) → NodeId → (outputPin : UInt64) → (sample : Vec2) →
      Except EvaluationError Value
  | 0, _, _, _ => .error (.recursionLimit evaluator.settings.maxDepth)
  | levels + 1, id, outputPin, sample =>
      match graph.node? id with
      | none => .error (.nodeNotFound id)
      | some node =>
          if node.outputs.length ≤ outputPin.toNat then .error (.pinOutOfRange id outputPin)
          else
            match evaluator.formula? node.typeName with
            | none => .error (.unknownNodeType node.typeName)
            | some formula =>
                formula
                  { node
                    sample
                    settings := evaluator.settings
                    isConnected := fun pin => (graph.inputLink? node.id pin).isSome
                    resolve := fun pin sample =>
                      match graph.inputLink? node.id pin with
                      | some link =>
                          some <$>
                            evaluator.evaluateWithin graph levels link.source link.sourcePin sample
                      | none => .ok ((node.input? pin).map fun pin => pin.default) }
                  outputPin

/-- The value of an output pin at a sample point. -/
def evaluate (evaluator : Evaluator) (graph : Graph) (id : NodeId) (outputPin : UInt64)
    (sample : Vec2) : Except EvaluationError Value :=
  evaluator.evaluateWithin graph (evaluator.settings.maxDepth.toNat + 1) id outputPin sample

/-- The value of an output pin at a sample point, magenta if there is none. -/
def evaluateOrError (evaluator : Evaluator) (graph : Graph) (id : NodeId) (outputPin : UInt64)
    (sample : Vec2) : Value :=
  match evaluator.evaluate graph id outputPin sample with
  | .ok value => value
  | .error _ => .color Color.error

/-- The settings and the types with formulas, in words. -/
def describe (evaluator : Evaluator) : String :=
  let names := (sortedWords (evaluator.formulas.map Prod.fst)).map fun name =>
    String.ofList (Quoted.quote .double name.toList)
  "Evaluator \x7b settings: " ++ evaluator.settings.describe ++ ", formulas: [" ++
    String.intercalate ", " names ++ "] \x7d"

end Evaluator
end TextureGraph
