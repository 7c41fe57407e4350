import TextureGraph.Evaluation.Error
import TextureGraph.Link

/-!
# Events

Operations that have something to tell beside their result return it as a list of events in the
order in which they happened.  `Event.message` gives the wording.
-/

namespace TextureGraph

/-- Name of the type of the node that a rendering starts from. -/
def outputTypeName : String :=
  "Texture Output"

/-- How much an event matters. -/
inductive Level where
  /-- Of use when looking for a fault. -/
  | debug
  /-- A likely mistake. -/
  | warn
  deriving DecidableEq, Repr

namespace Level

/-- The word for a level. -/
def name : Level → String
  | debug => "DEBUG"
  | warn => "WARN"

end Level

/-- Something that happened during an operation. -/
inductive Event where
  /-- A node type took the place of an earlier one of the same name. -/
  | typeReplaced (name : String)
  /-- A node was asked for whose type is not in the catalogue. -/
  | typeUnknown (name : String)
  /-- A node was asked for when no number was left. -/
  | nodeIdsExhausted (typeName : String)
  /-- A node came in. -/
  | nodeAdded (id : NodeId) (typeName : String)
  /-- A node went out together with its links. -/
  | nodeRemoved (id : NodeId) (links : Nat)
  /-- A link was asked for when no number was left. -/
  | linkIdsExhausted (source target : NodeId)
  /-- A link came in. -/
  | linkAdded (link : Link)
  /-- A link went out. -/
  | linkRemoved (id : LinkId)
  /-- A loaded node has a type that is not in the catalogue. -/
  | typeUnregistered (id : NodeId) (typeName : String)
  /-- A document became a graph. -/
  | graphLoaded (nodes links : Nat)
  /-- There is no node to render from. -/
  | outputMissing
  /-- A rendering was given up before a row. -/
  | renderingCancelled (row : Nat)
  /-- The first pixel of a rendering that has no value. -/
  | pixelFailed (x y : Nat) (error : EvaluationError)
  /-- How many of all pixels have no value. -/
  | pixelsFailed (failed total : Nat)
  deriving DecidableEq, Repr

namespace Event

/-- How much each event matters. -/
def level : Event → Level
  | typeReplaced .. | typeUnknown .. | nodeIdsExhausted .. | linkIdsExhausted ..
  | typeUnregistered .. | outputMissing | pixelsFailed .. => .warn
  | nodeAdded .. | nodeRemoved .. | linkAdded .. | linkRemoved .. | graphLoaded ..
  | renderingCancelled .. | pixelFailed .. => .debug

/-- The text of an event. -/
def message : Event → String
  | typeReplaced name => "Node type '" ++ name ++ "' registered twice, keeping the latest"
  | typeUnknown name => "Cannot add node of unknown type '" ++ name ++ "'"
  | nodeIdsExhausted typeName =>
      "Cannot add node of type '" ++ typeName ++ "': node IDs exhausted"
  | nodeAdded id typeName => "Added " ++ toString id ++ " (" ++ typeName ++ ")"
  | nodeRemoved id links => "Removed " ++ toString id ++ " and " ++ toString links ++ " link(s)"
  | linkIdsExhausted source target =>
      "Cannot link " ++ toString source ++ " -> " ++ toString target ++ ": link IDs exhausted"
  | linkAdded link =>
      "Linked " ++ toString link.source ++ ":" ++ toString link.sourcePin.toNat ++ " -> " ++
        toString link.target ++ ":" ++ toString link.targetPin.toNat ++ " as " ++ toString link.id
  | linkRemoved id => "Removed " ++ toString id
  | typeUnregistered id typeName => toString id ++ " has unregistered type '" ++ typeName ++ "'"
  | graphLoaded nodes links =>
      "Loaded graph with " ++ toString nodes ++ " node(s) and " ++ toString links ++ " link(s)"
  | outputMissing => "Graph has no '" ++ outputTypeName ++ "' node, rendering error color"
  | renderingCancelled row => "Rendering cancelled at row " ++ toString row
  | pixelFailed x y error =>
      "First failing pixel (" ++ toString x ++ ", " ++ toString y ++ "): " ++ error.message
  | pixelsFailed failed total =>
      toString failed ++ " of " ++ toString total ++ " pixel(s) failed to evaluate"

/-- The line of a log: the level and the text. -/
def line (event : Event) : String :=
  event.level.name ++ " " ++ event.message

end Event

/-- A result with the events that led to it. -/
structure Logged (α : Type) where
  /-- What the operation gave. -/
  result : α
  /-- What happened meanwhile, oldest first. -/
  events : List Event

end TextureGraph
