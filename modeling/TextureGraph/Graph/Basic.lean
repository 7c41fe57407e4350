import TextureGraph.Catalogue

/-!
# Graphs

A graph holds nodes and links in the order in which they came in, and the numbers that the next
ones get.  Order matters: of several links into one pin the oldest counts.
-/

namespace TextureGraph

/-- Nodes, the links between them, and the next free numbers.  A node is kept under its own number,
so there is no state in which it is found under another one. -/
structure Graph where
  /-- Nodes, oldest first. -/
  nodes : List Node
  /-- Links, oldest first. -/
  links : List Link
  /-- Number of the next node. -/
  nextNodeId : UInt32
  /-- Number of the next link. -/
  nextLinkId : UInt32
  deriving DecidableEq

namespace Graph

/-- The graph without nodes; numbers begin at one. -/
def empty : Graph := ⟨[], [], 1, 1⟩

/-- The node of a number. -/
def node? (graph : Graph) (id : NodeId) : Option Node :=
  graph.nodes.find? fun node => node.id = id

/-- Whether there is a node of a number. -/
def hasNode (graph : Graph) (id : NodeId) : Bool :=
  graph.nodes.any fun node => node.id = id

/-- The numbers of the nodes, oldest first. -/
def nodeIds (graph : Graph) : List NodeId :=
  graph.nodes.map Node.id

/-- The oldest node of a type. -/
def firstOfType? (graph : Graph) (typeName : String) : Option Node :=
  graph.nodes.find? fun node => node.typeName = typeName

/-- The link of a number. -/
def link? (graph : Graph) (id : LinkId) : Option Link :=
  graph.links.find? fun link => link.id = id

/-- The links that begin or end at a node, oldest first. -/
def linksOf (graph : Graph) (node : NodeId) : List Link :=
  graph.links.filter fun link => link.involves node

/-- The link that feeds an input pin: the oldest of those that lead there. -/
def inputLink? (graph : Graph) (node : NodeId) (pin : UInt64) : Option Link :=
  graph.links.find? fun link => link.feeds node pin

/-- Sources of the links into a node, oldest link first. -/
def sourcesOf (graph : Graph) (node : NodeId) : List NodeId :=
  (graph.links.filter fun link => link.target = node).map fun link => link.source

end Graph
end TextureGraph
