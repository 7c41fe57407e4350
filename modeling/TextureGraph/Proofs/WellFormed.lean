import Mathlib.Data.List.Nodup
import TextureGraph.Proofs.LinkPath

/-!
# Well-formed graphs

A graph is sound if its numbers are distinct and its links join nodes of it, and well-formed if
moreover its links form no cycle.
-/

namespace TextureGraph
namespace Graph

/-- Every link begins and ends at a node of the graph. -/
structure EndsStored (graph : Graph) : Prop where
  source_mem : ∀ link ∈ graph.links, link.source ∈ graph.nodeIds
  target_mem : ∀ link ∈ graph.links, link.target ∈ graph.nodeIds

/-- Numbers are distinct and links join nodes of the graph; cycles are not excluded. -/
structure Sound (graph : Graph) : Prop extends graph.EndsStored where
  nodeIds_nodup : graph.nodeIds.Nodup
  linkIds_nodup : (graph.links.map fun link => link.id).Nodup

/-- A sound graph without cycles of links. -/
structure WellFormed (graph : Graph) : Prop extends graph.Sound where
  acyclic : Acyclic graph.links

/-- Leaving out nodes, and links so that none dangles, keeps a graph well-formed. -/
theorem WellFormed.restrict {graph smaller : Graph} (wellFormed : graph.WellFormed)
    (nodes_sublist : smaller.nodeIds.Sublist graph.nodeIds)
    (links_sublist : smaller.links.Sublist graph.links)
    (ends : ∀ link ∈ smaller.links,
      link.source ∈ smaller.nodeIds ∧ link.target ∈ smaller.nodeIds) : smaller.WellFormed where
  nodeIds_nodup := wellFormed.nodeIds_nodup.sublist nodes_sublist
  linkIds_nodup := wellFormed.linkIds_nodup.sublist (links_sublist.map _)
  source_mem link member := (ends link member).1
  target_mem link member := (ends link member).2
  acyclic := wellFormed.acyclic.anti links_sublist.subset

/-! ## Looking nodes up -/

theorem hasNode_iff {graph : Graph} {id : NodeId} :
    graph.hasNode id = true ↔ id ∈ graph.nodeIds := by
  simp [hasNode, nodeIds]

theorem id_of_node? {graph : Graph} {id : NodeId} {node : Node}
    (found : graph.node? id = some node) : node.id = id := by
  simpa using List.find?_some found

theorem mem_of_node? {graph : Graph} {id : NodeId} {node : Node}
    (found : graph.node? id = some node) : node ∈ graph.nodes :=
  List.mem_of_find?_eq_some found

theorem node?_eq_none_iff {graph : Graph} {id : NodeId} :
    graph.node? id = none ↔ id ∉ graph.nodeIds := by
  simp [node?, nodeIds]

theorem exists_node?_of_mem {graph : Graph} {id : NodeId} (member : id ∈ graph.nodeIds) :
    ∃ node, graph.node? id = some node := by
  cases found : graph.node? id with
  | none => exact absurd member (node?_eq_none_iff.mp found)
  | some node => exact ⟨node, rfl⟩

/-- With distinct numbers, a node is found exactly under its own number. -/
theorem node?_eq_some_iff {graph : Graph} (nodeIds_nodup : graph.nodeIds.Nodup) {id : NodeId}
    {node : Node} : graph.node? id = some node ↔ node ∈ graph.nodes ∧ node.id = id := by
  constructor
  · intro found
    exact ⟨mem_of_node? found, id_of_node? found⟩
  · rintro ⟨member, rfl⟩
    obtain ⟨other, found⟩ := exists_node?_of_mem (List.mem_map_of_mem (f := Node.id) member)
    have same : other = node :=
      List.inj_on_of_nodup_map nodeIds_nodup (mem_of_node? found) member (id_of_node? found)
    rw [found, same]

/-! ## Sources -/

theorem feeds_iff {connection : Connection} {node : NodeId} {pin : UInt64} :
    connection.feeds node pin = true ↔ connection.target = node ∧ connection.targetPin = pin := by
  simp [Connection.feeds]

theorem mem_of_inputLink? {graph : Graph} {id : NodeId} {pin : UInt64} {link : Link}
    (feeds : graph.inputLink? id pin = some link) : link ∈ graph.links :=
  List.mem_of_find?_eq_some feeds

theorem target_of_inputLink? {graph : Graph} {id : NodeId} {pin : UInt64} {link : Link}
    (feeds : graph.inputLink? id pin = some link) : link.target = id ∧ link.targetPin = pin := by
  have passes := List.find?_some feeds
  exact feeds_iff.mp passes

theorem mem_sourcesOf {graph : Graph} {source target : NodeId} :
    source ∈ graph.sourcesOf target ↔ Linked graph.links source target := by
  simp only [sourcesOf, Linked, List.mem_map, List.mem_filter, decide_eq_true_eq]
  constructor
  · rintro ⟨link, ⟨member, ends⟩, begins⟩
    exact ⟨link, member, begins, ends⟩
  · rintro ⟨link, member, begins, ends⟩
    exact ⟨link, ⟨member, ends⟩, begins⟩

theorem EndsStored.source_mem_of_linked {graph : Graph} (stored : graph.EndsStored)
    {source target : NodeId} (linked : Linked graph.links source target) :
    source ∈ graph.nodeIds := by
  obtain ⟨link, member, rfl, _⟩ := linked
  exact stored.source_mem link member

theorem EndsStored.target_mem_of_path {graph : Graph} (stored : graph.EndsStored)
    {start goal : NodeId} (path : LinkPath graph.links start goal) : goal ∈ graph.nodeIds := by
  obtain ⟨_, _, link, member, _, rfl⟩ := Relation.TransGen.tail'_iff.mp path
  exact stored.target_mem link member

end Graph
end TextureGraph
