import TextureGraph.Graph.Reach

/-!
# Edits

Every edit returns its result, the graph after it and the events meanwhile; an edit that fails
returns the graph unchanged.  Links are admitted only between different nodes of the graph and only
if they close no cycle, so the links of a graph never form one.
-/

namespace TextureGraph

/-- Why an edit was refused. -/
inductive GraphError where
  /-- The type is not in the catalogue. -/
  | unknownNodeType (name : String)
  /-- The graph has no such node. -/
  | nodeNotFound (node : NodeId)
  /-- The node has no such pin. -/
  | pinOutOfRange (node : NodeId) (pin : UInt64)
  /-- The pins of these names cannot be joined, by direction or by type. -/
  | incompatiblePins (source target : String)
  /-- The link would join a node to itself. -/
  | selfLoop (node : NodeId)
  /-- The link would close a cycle. -/
  | wouldCreateCycle (source target : NodeId)
  /-- No number is left. -/
  | idsExhausted
  deriving DecidableEq, Repr

namespace GraphError

/-- The text of a refusal. -/
def message : GraphError → String
  | unknownNodeType name => "Unknown node type: " ++ name
  | nodeNotFound node => "Node not found: " ++ toString node
  | pinOutOfRange node pin => "Pin " ++ toString pin.toNat ++ " out of range on " ++ toString node
  | incompatiblePins source target => "Cannot connect '" ++ source ++ "' to '" ++ target ++ "'"
  | selfLoop node => "Self-loop not allowed on " ++ toString node
  | wouldCreateCycle source target =>
      "Linking " ++ toString source ++ " -> " ++ toString target ++ " would create a cycle"
  | idsExhausted => "No IDs left to assign"

end GraphError

/-- The number after this one, if 32 bits hold it. -/
def nextId? (id : UInt32) : Option UInt32 :=
  if id.toNat + 1 < UInt32.size then some (id + 1) else none

namespace Graph

/-- What an edit leaves behind. -/
structure Edited (α : Type) extends Logged α where
  /-- The graph after the edit. -/
  graph : Graph

/-- Adds a node of a type of the catalogue, which is asked now and never again. -/
def addNode (graph : Graph) (catalogue : Catalogue) (typeName : String) (position : Vec2) :
    Edited (Except GraphError NodeId) :=
  match catalogue.get? typeName with
  | none => ⟨⟨.error (.unknownNodeType typeName), [.typeUnknown typeName]⟩, graph⟩
  | some type =>
      match nextId? graph.nextNodeId with
      | none => ⟨⟨.error .idsExhausted, [.nodeIdsExhausted typeName]⟩, graph⟩
      | some next =>
          let id : NodeId := ⟨graph.nextNodeId⟩
          let node := type.instantiate id position
          ⟨⟨.ok id, [.nodeAdded id node.typeName]⟩,
            { graph with nodes := graph.nodes ++ [node], nextNodeId := next }⟩

/-- Removes a node and every link that begins or ends there. -/
def removeNode (graph : Graph) (id : NodeId) : Edited (Option Node) :=
  match graph.node? id with
  | none => ⟨⟨none, []⟩, graph⟩
  | some node =>
      let kept := graph.links.filter fun link => !link.involves id
      ⟨⟨some node, [.nodeRemoved id (graph.links.length - kept.length)]⟩,
        { graph with nodes := graph.nodes.filter fun node => node.id ≠ id, links := kept }⟩

/-- Checks the shape of a prospective link: different ends, both in the graph, no cycle. -/
def checkEnds (graph : Graph) (source target : NodeId) : Except GraphError Unit :=
  if source = target then .error (.selfLoop source)
  else if !graph.hasNode source then .error (.nodeNotFound source)
  else if !graph.hasNode target then .error (.nodeNotFound target)
  else if graph.isDownstream target source then .error (.wouldCreateCycle source target)
  else .ok ()

/-- Checks the pins of a prospective link: both exist and the first may feed the second. -/
def checkPins (graph : Graph) (connection : Connection) : Except GraphError Unit := do
  let source ← (graph.node? connection.source).elim
    (.error (.nodeNotFound connection.source)) .ok
  let target ← (graph.node? connection.target).elim
    (.error (.nodeNotFound connection.target)) .ok
  let sourcePin ← (source.output? connection.sourcePin).elim
    (.error (.pinOutOfRange connection.source connection.sourcePin)) .ok
  let targetPin ← (target.input? connection.targetPin).elim
    (.error (.pinOutOfRange connection.target connection.targetPin)) .ok
  if sourcePin.canFeed targetPin then .ok ()
  else .error (.incompatiblePins sourcePin.name targetPin.name)

/-- Checks everything about a prospective link. -/
def canConnect (graph : Graph) (connection : Connection) : Except GraphError Unit := do
  graph.checkEnds connection.source connection.target
  graph.checkPins connection

/-- Adds a link of sound shape, whatever its pins. -/
def addLink (graph : Graph) (connection : Connection) : Edited (Except GraphError LinkId) :=
  match graph.checkEnds connection.source connection.target with
  | .error error => ⟨⟨.error error, []⟩, graph⟩
  | .ok () =>
      match nextId? graph.nextLinkId with
      | none =>
          ⟨⟨.error .idsExhausted, [.linkIdsExhausted connection.source connection.target]⟩, graph⟩
      | some next =>
          let link : Link := { connection with id := ⟨graph.nextLinkId⟩ }
          ⟨⟨.ok link.id, [.linkAdded link]⟩,
            { graph with links := graph.links ++ [link], nextLinkId := next }⟩

/-- Adds a link after checking its pins as well. -/
def connect (graph : Graph) (connection : Connection) : Edited (Except GraphError LinkId) :=
  match graph.canConnect connection with
  | .error error => ⟨⟨.error error, []⟩, graph⟩
  | .ok () => graph.addLink connection

/-- Removes a link. -/
def removeLink (graph : Graph) (id : LinkId) : Edited (Option Link) :=
  match graph.link? id with
  | none => ⟨⟨none, []⟩, graph⟩
  | some link =>
      ⟨⟨some link, [.linkRemoved id]⟩,
        { graph with links := graph.links.filter fun link => link.id ≠ id }⟩

/-- Removes all nodes and links; numbers go on from where they are. -/
def clear (graph : Graph) : Graph :=
  { graph with nodes := [], links := [] }

/-- Puts a node in the place of the one with the same number. -/
def replaceNode (graph : Graph) (node : Node) : Graph :=
  { graph with nodes := graph.nodes.map fun old => if old.id = node.id then node else old }

/-- Changes the default value of an input pin; nothing if the node or the pin is missing. -/
def setInputDefault? (graph : Graph) (id : NodeId) (pin : UInt64) (value : Value) : Option Graph :=
  (graph.node? id).bind fun node =>
    (node.setInputDefault? pin value).map fun changed => graph.replaceNode changed

/-- Changes the default value of an output pin; nothing if the node or the pin is missing. -/
def setOutputDefault? (graph : Graph) (id : NodeId) (pin : UInt64) (value : Value) :
    Option Graph :=
  (graph.node? id).bind fun node =>
    (node.setOutputDefault? pin value).map fun changed => graph.replaceNode changed

/-- Moves a node on the canvas; nothing if it is missing. -/
def setPosition? (graph : Graph) (id : NodeId) (position : Vec2) : Option Graph :=
  (graph.node? id).map fun node => graph.replaceNode { node with position := position }

end Graph
end TextureGraph
