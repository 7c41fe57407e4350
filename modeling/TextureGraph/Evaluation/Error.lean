import TextureGraph.Node

/-!
# Failures of evaluation
-/

namespace TextureGraph

/-- Why an output pin has no value. -/
inductive EvaluationError where
  /-- The graph has no such node. -/
  | nodeNotFound (node : NodeId)
  /-- No formula is known for the node's type. -/
  | unknownNodeType (name : String)
  /-- The node has no such output pin. -/
  | pinOutOfRange (node : NodeId) (pin : UInt64)
  /-- More links were followed in a row than the settings allow. -/
  | recursionLimit (depth : UInt32)
  deriving DecidableEq, Repr

namespace EvaluationError

/-- The text of a failure. -/
def message : EvaluationError → String
  | nodeNotFound node => "Node not found: " ++ toString node
  | unknownNodeType name => "No formula for node type: " ++ name
  | pinOutOfRange node pin =>
      "Output pin " ++ toString pin.toNat ++ " out of range on " ++ toString node
  | recursionLimit depth => "Evaluation exceeded the depth limit of " ++ toString depth.toNat

end EvaluationError
end TextureGraph
