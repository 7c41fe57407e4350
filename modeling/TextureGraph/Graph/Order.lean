import TextureGraph.Graph.Basic

/-!
# Dependency order

`Graph.order` lists the nodes so that every link leads forward, or names a node on a cycle.  It
completes the sources of a node before the node itself, depth first, nodes and links being taken
oldest first.
-/

namespace TextureGraph

/-- A cycle of links passes through the node. -/
structure CycleError where
  /-- A node on the cycle. -/
  node : NodeId
  deriving DecidableEq, Repr

namespace CycleError

/-- The text of the failure. -/
def message (error : CycleError) : String :=
  "Graph contains a cycle through " ++ toString error.node

end CycleError

namespace Graph

/-- Appends a node to the completed ones after everything it depends on.  `path` holds the nodes
whose completion waits for this one, so meeting one of them closes a cycle; `room` is how many more
nodes can still join the path. -/
def complete (graph : Graph) :
    (room : Nat) → (path : List NodeId) → (completed : List NodeId) → NodeId →
      Except CycleError (List NodeId)
  | room, path, completed, node =>
      if node ∈ completed then .ok completed
      else if node ∈ path then .error ⟨node⟩
      else
        match room with
        | 0 => .error ⟨node⟩
        | room + 1 => do
            let earlier ←
              (graph.sourcesOf node).foldlM (graph.complete room (node :: path)) completed
            pure (earlier ++ [node])

/-- The nodes in dependency order, sources first.  A path holds distinct nodes, each of them a node
of the graph or the source of a link, so it never outgrows the room it is given. -/
def order (graph : Graph) : Except CycleError (List NodeId) :=
  graph.nodeIds.foldlM (graph.complete (graph.nodes.length + graph.links.length) []) []

/-- Whether the links form a cycle. -/
def hasCycle (graph : Graph) : Bool :=
  match graph.order with
  | .ok _ => false
  | .error _ => true

end Graph
end TextureGraph
