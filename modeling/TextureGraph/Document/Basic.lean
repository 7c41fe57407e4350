import TextureGraph.Graph.Edit
import TextureGraph.Graph.Order

/-!
# Documents

A document is the stored form of a graph.  `Document.ofGraph` takes the snapshot;
`Document.rebuild` admits a document only if its numbers are distinct, its links join stored nodes
and no cycle arises, and it reports the first violation in stored order.
-/

namespace TextureGraph

/-- The stored form of a graph. -/
structure Document where
  /-- Version of the format. -/
  version : UInt32
  /-- Nodes, oldest first. -/
  nodes : List Node
  /-- Links, oldest first. -/
  links : List Link
  /-- Number of the next node. -/
  nextNodeId : UInt32
  /-- Number of the next link. -/
  nextLinkId : UInt32
  deriving DecidableEq

/-- Why a document is no graph. -/
inductive DocumentError where
  /-- Another version of the format. -/
  | unsupportedVersion (version : UInt32)
  /-- Two nodes have the same number. -/
  | duplicateNodeId (node : NodeId)
  /-- Two links have the same number. -/
  | duplicateLinkId (link : LinkId)
  /-- A link begins or ends at a node that is not stored. -/
  | danglingLink (link : LinkId) (node : NodeId)
  /-- A link joins a node to itself. -/
  | selfLoop (node : NodeId)
  /-- The links form a cycle through a node. -/
  | cycle (node : NodeId)
  deriving DecidableEq, Repr

namespace Document

/-- The version of the format that is written and understood. -/
def currentVersion : UInt32 := 1

end Document

namespace DocumentError

/-- The text of a failure. -/
def message : DocumentError → String
  | unsupportedVersion version =>
      "Unsupported document version " ++ toString version.toNat ++ " (expected " ++
        toString Document.currentVersion.toNat ++ ")"
  | duplicateNodeId node => "Duplicate node ID: " ++ toString node
  | duplicateLinkId link => "Duplicate link ID: " ++ toString link.val.toNat
  | danglingLink link node =>
      "Link " ++ toString link.val.toNat ++ " references missing " ++ toString node
  | selfLoop node => "Self-loop on " ++ toString node
  | cycle node => "Links form a cycle through " ++ toString node

end DocumentError

namespace Document

/-- Equal parts, positions and values compared as numbers. -/
instance : BEq Document where
  beq a b :=
    a.version == b.version && a.nodes == b.nodes && decide (a.links = b.links) &&
      a.nextNodeId == b.nextNodeId && a.nextLinkId == b.nextLinkId

/-- The snapshot of a graph. -/
def ofGraph (graph : Graph) : Document :=
  ⟨currentVersion, graph.nodes, graph.links, graph.nextNodeId, graph.nextLinkId⟩

/-- The graph that is stored, with the numbers of the next node and link raised past every stored
number as far as 32 bits allow. -/
def toGraph (document : Document) : Graph where
  nodes := document.nodes
  links := document.links
  nextNodeId := raisedPast document.nextNodeId (document.nodes.map fun node => node.id.val)
  nextLinkId := raisedPast document.nextLinkId (document.links.map fun link => link.id.val)
where
  /-- A counter raised past some numbers; past none it is at least one. -/
  raisedPast (next : UInt32) (ids : List UInt32) : UInt32 :=
    let largest := ids.foldl max 0
    max next ((nextId? largest).getD largest)

/-- Checks that no node repeats the number of one before it, those of `seen` included, and tells of
types that are not in the catalogue. -/
def checkNodes (catalogue : Catalogue) :
    (seen : List NodeId) → List Node → Logged (Except DocumentError Unit)
  | _, [] => ⟨.ok (), []⟩
  | seen, node :: nodes =>
      if node.id ∈ seen then ⟨.error (.duplicateNodeId node.id), []⟩
      else
        let later := checkNodes catalogue (node.id :: seen) nodes
        let event :=
          if catalogue.contains node.typeName then []
          else [Event.typeUnregistered node.id node.typeName]
        ⟨later.result, event ++ later.events⟩

/-- Checks that no link repeats the number of one before it, those of `seen` included, and that
each joins two different nodes of a list. -/
def checkLinks (nodes : List NodeId) :
    (seen : List LinkId) → List Link → Except DocumentError Unit
  | _, [] => .ok ()
  | seen, link :: links =>
      if link.id ∈ seen then .error (.duplicateLinkId link.id)
      else if link.source = link.target then .error (.selfLoop link.source)
      else if link.source ∉ nodes then .error (.danglingLink link.id link.source)
      else if link.target ∉ nodes then .error (.danglingLink link.id link.target)
      else checkLinks nodes (link.id :: seen) links

/-- The graph of a document with sound nodes, unless its links are unsound or form a cycle. -/
def checkedGraph (document : Document) : Except DocumentError Graph := do
  checkLinks (document.nodes.map Node.id) [] document.links
  match document.toGraph.order with
  | .error error => .error (.cycle error.node)
  | .ok _ => .ok document.toGraph

/-- Checks a document and makes it a graph again. -/
def rebuild (catalogue : Catalogue) (document : Document) : Logged (Except DocumentError Graph) :=
  if document.version ≠ currentVersion then
    ⟨.error (.unsupportedVersion document.version), []⟩
  else
    let checked := checkNodes catalogue [] document.nodes
    match checked.result with
    | .error error => ⟨.error error, checked.events⟩
    | .ok () =>
        match document.checkedGraph with
        | .error error => ⟨.error error, checked.events⟩
        | .ok graph =>
            ⟨.ok graph,
              checked.events ++ [.graphLoaded graph.nodes.length graph.links.length]⟩

end Document
end TextureGraph
