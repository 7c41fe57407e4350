import TextureGraph.Proofs.Seniority

/-!
# Removals

Removing a node takes exactly that node and the links at it, and removing a link takes exactly that
link.  What is left after a run of removals is what none of them names and no removed node takes
along, so their order does not matter, even where a node takes a link that is to be removed later.
-/

namespace TextureGraph

/-- A request to take a node or a link out of a graph. -/
inductive Removal where
  | node (id : NodeId)
  | link (id : LinkId)
  deriving DecidableEq

/-- The graph after a removal; what is not there cannot be removed. -/
def Removal.apply (removal : Removal) (graph : Graph) : Graph :=
  match removal with
  | node id => (graph.removeNode id).graph
  | link id => (graph.removeLink id).graph

namespace Graph

/-- The graph after a run of removals. -/
def afterRemovals (graph : Graph) (removals : List Removal) : Graph :=
  removals.foldl (fun graph removal => removal.apply graph) graph

/-- The nodes that no removal names, and the links that neither they nor their ends are named by
one. -/
def sparedBy (graph : Graph) (removals : List Removal) : Graph :=
  { graph with
    nodes := graph.nodes.filter fun node => .node node.id ∉ removals
    links := graph.links.filter fun link =>
      .link link.id ∉ removals ∧ .node link.source ∉ removals ∧ .node link.target ∉ removals }

/-! ## One removal -/

theorem mem_linksOf {graph : Graph} {id : NodeId} {link : Link} :
    link ∈ graph.linksOf id ↔ link ∈ graph.links ∧ link.involves id = true :=
  List.mem_filter

theorem filter_notMem_linksOf (graph : Graph) (id : NodeId) :
    (graph.links.filter fun link => link ∉ graph.linksOf id) =
      graph.links.filter fun link => !link.involves id := by
  refine List.filter_congr fun link member => ?_
  simp [mem_linksOf, member]

theorem length_linksOf (graph : Graph) (id : NodeId) :
    graph.links.length - (graph.links.filter fun link => !link.involves id).length =
      (graph.linksOf id).length := by
  have total := List.length_eq_length_filter_add (l := graph.links) fun link => link.involves id
  rw [linksOf]
  omega

theorem EndsStored.withoutNode_of_absent {graph : Graph} (stored : graph.EndsStored) {id : NodeId}
    (absent : id ∉ graph.nodeIds) : graph.withoutNode id = graph := by
  have nodes : (graph.nodes.filter fun node => node.id ≠ id) = graph.nodes := by
    refine List.filter_eq_self.mpr fun node member => decide_eq_true ?_
    rintro rfl
    exact absent (List.mem_map_of_mem member)
  have links : (graph.links.filter fun link => !link.involves id) = graph.links := by
    refine List.filter_eq_self.mpr fun link member => ?_
    have source_ne : link.source ≠ id := fun same => absent (same ▸ stored.source_mem link member)
    have target_ne : link.target ≠ id := fun same => absent (same ▸ stored.target_mem link member)
    simp [Connection.involves, source_ne, target_ne]
  rw [withoutNode, nodes, links]

theorem EndsStored.removeNode_graph {graph : Graph} (stored : graph.EndsStored) (id : NodeId) :
    (graph.removeNode id).graph = graph.withoutNode id := by
  by_cases present : id ∈ graph.nodeIds
  · exact removeNode_graph_of_mem present
  · rw [stored.withoutNode_of_absent present, removeNode, node?_eq_none_iff.mpr present]

theorem EndsStored.apply_removal {graph : Graph} (stored : graph.EndsStored) (removal : Removal) :
    removal.apply graph = graph.sparedBy [removal] := by
  cases removal with
  | node id => simp [Removal.apply, stored.removeNode_graph, withoutNode, sparedBy,
      Connection.involves]
  | link id => simp [Removal.apply, removeLink_graph, withoutLink, sparedBy]

/-! ## Runs of removals -/

theorem sparedBy_nil (graph : Graph) : graph.sparedBy [] = graph := by
  simp [sparedBy]

theorem sparedBy_sparedBy (graph : Graph) (first second : List Removal) :
    (graph.sparedBy first).sparedBy second = graph.sparedBy (first ++ second) := by
  have nodes (node : Node) :
      (.node node.id ∉ second ∧ .node node.id ∉ first) ↔ .node node.id ∉ first ++ second := by
    rw [List.mem_append, not_or, and_comm]
  have links (link : Link) :
      ((.link link.id ∉ second ∧ .node link.source ∉ second ∧ .node link.target ∉ second) ∧
          .link link.id ∉ first ∧ .node link.source ∉ first ∧ .node link.target ∉ first) ↔
        .link link.id ∉ first ++ second ∧ .node link.source ∉ first ++ second ∧
          .node link.target ∉ first ++ second := by
    simp only [List.mem_append, not_or]
    tauto
  simp only [sparedBy, List.filter_filter, ← Bool.decide_and, nodes, links]

theorem EndsStored.sparedBy {graph : Graph} (stored : graph.EndsStored) (removals : List Removal) :
    (graph.sparedBy removals).EndsStored := by
  have spared {id : NodeId} (present : id ∈ graph.nodeIds) (unnamed : .node id ∉ removals) :
      id ∈ (graph.sparedBy removals).nodeIds := by
    obtain ⟨node, member, rfl⟩ := List.mem_map.mp present
    exact List.mem_map_of_mem (List.mem_filter.mpr ⟨member, decide_eq_true unnamed⟩)
  constructor
  · intro link member
    obtain ⟨member, unnamed⟩ := List.mem_filter.mp member
    exact spared (stored.source_mem link member) (of_decide_eq_true unnamed).2.1
  · intro link member
    obtain ⟨member, unnamed⟩ := List.mem_filter.mp member
    exact spared (stored.target_mem link member) (of_decide_eq_true unnamed).2.2

/-- A run of removals leaves what is spared by all of them. -/
theorem EndsStored.afterRemovals_eq {graph : Graph} (stored : graph.EndsStored)
    (removals : List Removal) : graph.afterRemovals removals = graph.sparedBy removals := by
  induction removals generalizing graph with
  | nil => exact graph.sparedBy_nil.symm
  | cons removal removals induction =>
      calc graph.afterRemovals (removal :: removals)
          = (removal.apply graph).afterRemovals removals := rfl
        _ = (graph.sparedBy [removal]).afterRemovals removals := by rw [stored.apply_removal]
        _ = (graph.sparedBy [removal]).sparedBy removals := induction (stored.sparedBy [removal])
        _ = graph.sparedBy (removal :: removals) := sparedBy_sparedBy graph [removal] removals

theorem sparedBy_perm (graph : Graph) {removals others : List Removal}
    (same : removals.Perm others) : graph.sparedBy removals = graph.sparedBy others := by
  simp only [sparedBy, same.mem_iff]

/-- Removing a node of a well-formed graph returns it, leaves all other nodes and the links that are
not at it, in their order and with both counters as they were, and tells how many links went.
Removing a node that is not there does nothing.  Any removals of nodes and links, there or not, end
in the same graph in every order. -/
theorem removals_cascade_commute {graph : Graph} (wellFormed : graph.WellFormed) :
    (∀ id node, graph.node? id = some node →
      (graph.removeNode id).result = some node ∧
        (graph.removeNode id).graph =
          { graph with
            nodes := graph.nodes.filter fun other => other ≠ node
            links := graph.links.filter fun link => link ∉ graph.linksOf id } ∧
        (graph.removeNode id).events = [.nodeRemoved id (graph.linksOf id).length]) ∧
      (∀ id, graph.node? id = none →
        (graph.removeNode id).result = none ∧ (graph.removeNode id).graph = graph ∧
          (graph.removeNode id).events = []) ∧
      ∀ removals others : List Removal, removals.Perm others →
        graph.afterRemovals removals = graph.afterRemovals others := by
  refine ⟨fun id node found => ?_, fun id absent => ?_, fun removals others same => ?_⟩
  · have others : (graph.nodes.filter fun other => other ≠ node) =
        graph.nodes.filter fun other => other.id ≠ id := by
      refine List.filter_congr fun other member => ?_
      have found_iff : graph.node? id = some other ↔ other ∈ graph.nodes ∧ other.id = id :=
        node?_eq_some_iff wellFormed.nodeIds_nodup
      simp only [found, Option.some.injEq, member, true_and] at found_iff
      simp [← found_iff, eq_comm]
    rw [others, filter_notMem_linksOf, ← length_linksOf, removeNode, found]
    exact ⟨rfl, rfl, rfl⟩
  · rw [removeNode, absent]
    exact ⟨rfl, rfl, rfl⟩
  · have stored := wellFormed.toEndsStored
    rw [stored.afterRemovals_eq, stored.afterRemovals_eq, sparedBy_perm graph same]

/-- The first colour takes both of its links along, so that a later removal of one of them, like
that of a link that never was, finds nothing. -/
theorem removals_cascade_commute_contestedBlur :
    contestedBlur.WellFormed ∧
      (contestedBlur.removeNode ⟨1⟩).events = [.nodeRemoved ⟨1⟩ 2] ∧
      (contestedBlur.removeNode ⟨9⟩).graph = contestedBlur ∧
      contestedBlur.afterRemovals [.node ⟨1⟩, .link ⟨3⟩, .link ⟨9⟩, .node ⟨3⟩] =
        contestedBlur.afterRemovals [.link ⟨9⟩, .node ⟨3⟩, .link ⟨3⟩, .node ⟨1⟩] ∧
      (contestedBlur.afterRemovals [.node ⟨1⟩, .link ⟨3⟩, .link ⟨9⟩, .node ⟨3⟩]).links =
        [⟨⟨⟨2⟩, 0, ⟨4⟩, 0⟩, ⟨4⟩⟩] := by
  have reachable : contestedBlur.Reachable := Reachable.empty.afterEdits _ _
  have wellFormed := reachable.intact.toWellFormed
  obtain ⟨cascade, nothing, commute⟩ := removals_cascade_commute wellFormed
  obtain ⟨node, found⟩ :=
    exists_node?_of_mem (show (⟨1⟩ : NodeId) ∈ contestedBlur.nodeIds by decide +kernel)
  have links : (contestedBlur.linksOf ⟨1⟩).length = 2 := by decide +kernel
  have removed := (cascade ⟨1⟩ node found).2.2
  rw [links] at removed
  have absent := (nothing ⟨9⟩ (by decide +kernel)).2.1
  exact ⟨wellFormed, removed, absent, commute _ _ (by decide), by decide +kernel⟩

end Graph
end TextureGraph
