import TextureGraph.Operation.Catalogue
import TextureGraph.Proofs.Rebuild

/-!
# Graphs that arise by edits

A graph is reachable if edits, granted or refused, lead to it from the empty graph or from a rebuilt
document.  Every edit keeps a graph intact: well-formed, with counters above all numbers in use.
-/

namespace TextureGraph

/-- One edit of a graph. -/
inductive Edit where
  | addNode (typeName : String) (position : Vec2)
  | removeNode (id : NodeId)
  | addLink (connection : Connection)
  | connect (connection : Connection)
  | removeLink (id : LinkId)
  | clear
  | setInputDefault (id : NodeId) (pin : UInt64) (value : Value)
  | setOutputDefault (id : NodeId) (pin : UInt64) (value : Value)
  | setPosition (id : NodeId) (position : Vec2)

/-- The graph after an edit; a refused edit leaves the graph as it was. -/
def Edit.apply (edit : Edit) (catalogue : Catalogue) (graph : Graph) : Graph :=
  match edit with
  | addNode typeName position => (graph.addNode catalogue typeName position).graph
  | removeNode id => (graph.removeNode id).graph
  | addLink connection => (graph.addLink connection).graph
  | connect connection => (graph.connect connection).graph
  | removeLink id => (graph.removeLink id).graph
  | clear => graph.clear
  | setInputDefault id pin value => (graph.setInputDefault? id pin value).getD graph
  | setOutputDefault id pin value => (graph.setOutputDefault? id pin value).getD graph
  | setPosition id position => (graph.setPosition? id position).getD graph

namespace Graph

/-- Edits lead to the graph from the empty graph or from a rebuilt document. -/
inductive Reachable : Graph → Prop
  | empty : Reachable empty
  | rebuilt {catalogue : Catalogue} {document : Document} {graph : Graph} :
      (document.rebuild catalogue).result = .ok graph → Reachable graph
  | edited {graph : Graph} (catalogue : Catalogue) (edit : Edit) :
      Reachable graph → Reachable (edit.apply catalogue graph)

/-- The graph after a run of edits. -/
def afterEdits (graph : Graph) (catalogue : Catalogue) (edits : List Edit) : Graph :=
  edits.foldl (fun graph edit => edit.apply catalogue graph) graph

theorem Reachable.afterEdits {graph : Graph} (reachable : graph.Reachable)
    (catalogue : Catalogue) (edits : List Edit) :
    (graph.afterEdits catalogue edits).Reachable := by
  induction edits generalizing graph with
  | nil => exact reachable
  | cons edit edits induction => exact induction (reachable.edited catalogue edit)

/-- A well-formed graph whose counters lie above all numbers in use. -/
structure Intact (graph : Graph) : Prop extends graph.WellFormed where
  nodeCounter_above : CounterAbove graph.nextNodeId (graph.nodeIds.map NodeId.val)
  linkCounter_above :
    CounterAbove graph.nextLinkId ((graph.links.map fun link => link.id).map LinkId.val)

theorem intact_empty : empty.Intact where
  nodeIds_nodup := List.nodup_nil
  linkIds_nodup := List.nodup_nil
  source_mem := by simp [empty]
  target_mem := by simp [empty]
  acyclic := by
    intro node path
    obtain ⟨_, ⟨_, member, _⟩, _⟩ := Relation.TransGen.head'_iff.mp path
    simp [empty] at member
  nodeCounter_above := .nil _
  linkCounter_above := .nil _

theorem intact_of_rebuild {catalogue : Catalogue} {document : Document} {graph : Graph}
    (rebuilt : (document.rebuild catalogue).result = .ok graph) : graph.Intact := by
  obtain ⟨_, wellFormed, rfl⟩ := Document.rebuild_result_eq_ok_iff.mp rebuilt
  exact ⟨wellFormed, document.nodeCounter_toGraph_above, document.linkCounter_toGraph_above⟩

/-! ## Edits that only take away -/

/-- Leaving out nodes, and links so that none dangles, keeps a graph intact. -/
theorem Intact.restrict {graph smaller : Graph} (intact : graph.Intact)
    (nodes_sublist : smaller.nodeIds.Sublist graph.nodeIds)
    (links_sublist : smaller.links.Sublist graph.links)
    (ends : ∀ link ∈ smaller.links, link.source ∈ smaller.nodeIds ∧ link.target ∈ smaller.nodeIds)
    (same_nextNodeId : smaller.nextNodeId = graph.nextNodeId)
    (same_nextLinkId : smaller.nextLinkId = graph.nextLinkId) : smaller.Intact where
  toWellFormed := intact.toWellFormed.restrict nodes_sublist links_sublist ends
  nodeCounter_above := by
    rw [same_nextNodeId]
    exact intact.nodeCounter_above.anti (nodes_sublist.map _).subset
  linkCounter_above := by
    rw [same_nextLinkId]
    exact intact.linkCounter_above.anti ((links_sublist.map _).map _).subset

theorem Intact.removeNode {graph : Graph} (intact : graph.Intact) (id : NodeId) :
    (graph.removeNode id).graph.Intact := by
  unfold Graph.removeNode
  cases graph.node? id with
  | none => exact intact
  | some node =>
      refine intact.restrict ?_ List.filter_sublist ?_ rfl rfl
      · exact List.filter_sublist.map Node.id
      intro link member
      obtain ⟨member, apart⟩ := List.mem_filter.mp member
      simp only [Connection.involves, Bool.not_or, Bool.and_eq_true, Bool.not_eq_true',
        decide_eq_false_iff_not] at apart
      obtain ⟨source, source_mem, source_id⟩ := List.mem_map.mp (intact.source_mem link member)
      obtain ⟨target, target_mem, target_id⟩ := List.mem_map.mp (intact.target_mem link member)
      rw [← source_id, ← target_id] at apart ⊢
      exact ⟨List.mem_map_of_mem (List.mem_filter.mpr ⟨source_mem, decide_eq_true apart.1⟩),
        List.mem_map_of_mem (List.mem_filter.mpr ⟨target_mem, decide_eq_true apart.2⟩)⟩

theorem Intact.removeLink {graph : Graph} (intact : graph.Intact) (id : LinkId) :
    (graph.removeLink id).graph.Intact := by
  unfold Graph.removeLink
  cases graph.link? id with
  | none => exact intact
  | some _ =>
      refine intact.restrict (List.Sublist.refl _) List.filter_sublist ?_ rfl rfl
      intro link member
      have stored : link ∈ graph.links := List.mem_of_mem_filter member
      exact ⟨intact.source_mem link stored, intact.target_mem link stored⟩

theorem Intact.clear {graph : Graph} (intact : graph.Intact) : graph.clear.Intact :=
  intact.restrict (List.nil_sublist _) (List.nil_sublist _) (by simp [Graph.clear]) rfl rfl

/-! ## Edits of one node -/

theorem nodeIds_replaceNode (graph : Graph) (node : Node) :
    (graph.replaceNode node).nodeIds = graph.nodeIds := by
  simp only [nodeIds, replaceNode, List.map_map]
  refine List.map_congr_left fun old _ => ?_
  by_cases same : old.id = node.id <;> simp [same]

theorem Intact.replaceNode {graph : Graph} (intact : graph.Intact) (node : Node) :
    (graph.replaceNode node).Intact := by
  have same_ids := graph.nodeIds_replaceNode node
  refine intact.restrict (same_ids ▸ List.Sublist.refl _) (List.Sublist.refl _) ?_ rfl rfl
  intro link member
  rw [same_ids]
  exact ⟨intact.source_mem link member, intact.target_mem link member⟩

/-- Whatever an edit makes of one node, it keeps the graph intact. -/
theorem Intact.reviseNode {graph : Graph} (intact : graph.Intact) (id : NodeId)
    (revise : Node → Option Node) :
    (((graph.node? id).bind fun node =>
      (revise node).map fun revised => graph.replaceNode revised).getD graph).Intact := by
  cases graph.node? id with
  | none => exact intact
  | some node =>
      rw [Option.bind_some]
      cases revise node with
      | none => exact intact
      | some revised => exact intact.replaceNode revised

theorem Intact.setPosition {graph : Graph} (intact : graph.Intact) (id : NodeId)
    (position : Vec2) : ((graph.setPosition? id position).getD graph).Intact := by
  unfold setPosition?
  cases graph.node? id with
  | none => exact intact
  | some node => exact intact.replaceNode { node with position := position }

/-! ## Edits that add -/

theorem Intact.appendNode {graph : Graph} (intact : graph.Intact) {node : Node}
    (node_id : node.id = ⟨graph.nextNodeId⟩) (unfinished : graph.nextNodeId ≠ lastId) :
    Intact { graph with
      nodes := graph.nodes ++ [node]
      nextNodeId := graph.nextNodeId + 1 } := by
  have unused : node.id ∉ graph.nodeIds := by
    intro member
    have used := List.mem_map_of_mem (f := NodeId.val) member
    rw [node_id] at used
    exact intact.nodeCounter_above.next_notMem unfinished used
  have nodeIds_eq : (graph.nodes ++ [node]).map Node.id = graph.nodeIds ++ [node.id] := by
    simp [nodeIds]
  refine ⟨⟨⟨⟨fun link member => ?_, fun link member => ?_⟩, ?_, intact.linkIds_nodup⟩,
    intact.acyclic⟩, ?_, intact.linkCounter_above⟩
  · rw [nodeIds, nodeIds_eq]
    exact List.mem_append_left _ (intact.source_mem link member)
  · rw [nodeIds, nodeIds_eq]
    exact List.mem_append_left _ (intact.target_mem link member)
  · rw [nodeIds, nodeIds_eq, ← List.concat_eq_append]
    exact intact.nodeIds_nodup.concat unused
  · rw [nodeIds, nodeIds_eq, List.map_append, List.map_singleton, node_id]
    exact intact.nodeCounter_above.append_next unfinished

theorem EndsStored.appendLink {graph : Graph} (stored : graph.EndsStored) {link : Link}
    (source_mem : link.source ∈ graph.nodeIds) (target_mem : link.target ∈ graph.nodeIds)
    {nextLinkId : UInt32} :
    EndsStored { graph with
      links := graph.links ++ [link]
      nextLinkId := nextLinkId } where
  source_mem :=
    List.forall_mem_append.mpr ⟨stored.source_mem, List.forall_mem_singleton.mpr source_mem⟩
  target_mem :=
    List.forall_mem_append.mpr ⟨stored.target_mem, List.forall_mem_singleton.mpr target_mem⟩

theorem Intact.appendLink {graph : Graph} (intact : graph.Intact) {link : Link}
    (link_id : link.id = ⟨graph.nextLinkId⟩) (unfinished : graph.nextLinkId ≠ lastId)
    (source_mem : link.source ∈ graph.nodeIds) (target_mem : link.target ∈ graph.nodeIds)
    (no_return : ¬Leads graph.links link.target link.source) :
    Intact { graph with
      links := graph.links ++ [link]
      nextLinkId := graph.nextLinkId + 1 } := by
  have unused : link.id ∉ graph.links.map fun link => link.id := by
    intro member
    have used := List.mem_map_of_mem (f := LinkId.val) member
    rw [link_id] at used
    exact intact.linkCounter_above.next_notMem unfinished used
  refine ⟨⟨⟨intact.toEndsStored.appendLink source_mem target_mem, intact.nodeIds_nodup, ?_⟩, ?_⟩,
    intact.nodeCounter_above, ?_⟩
  · rw [List.map_append, List.map_singleton, ← List.concat_eq_append]
    exact intact.linkIds_nodup.concat unused
  · exact (acyclic_append_singleton graph.links link).mpr ⟨intact.acyclic, no_return⟩
  · rw [List.map_append, List.map_append, List.map_singleton, List.map_singleton, link_id]
    exact intact.linkCounter_above.append_next unfinished

theorem Intact.addNode {graph : Graph} (intact : graph.Intact) (catalogue : Catalogue)
    (typeName : String) (position : Vec2) :
    (graph.addNode catalogue typeName position).graph.Intact := by
  unfold Graph.addNode
  cases catalogue.get? typeName with
  | none => exact intact
  | some type =>
      dsimp only
      cases counted : nextId? graph.nextNodeId with
      | none => exact intact
      | some next =>
          obtain ⟨unfinished, rfl⟩ := nextId?_eq_some_iff.mp counted
          exact intact.appendNode (type.id_instantiate ⟨graph.nextNodeId⟩ position) unfinished

/-- The ends of a link are admitted exactly if they differ, exist and close no cycle. -/
theorem checkEnds_eq_ok_iff {graph : Graph} {source target : NodeId} :
    graph.checkEnds source target = .ok () ↔
      source ≠ target ∧ source ∈ graph.nodeIds ∧ target ∈ graph.nodeIds ∧
        ¬Leads graph.links target source := by
  rw [checkEnds, ← isDownstream_iff, ← hasNode_iff, ← hasNode_iff]
  split_ifs <;> simp_all

theorem Intact.addLink {graph : Graph} (intact : graph.Intact) (connection : Connection) :
    (graph.addLink connection).graph.Intact := by
  unfold Graph.addLink
  cases checked : graph.checkEnds connection.source connection.target with
  | error error => exact intact
  | ok =>
      obtain ⟨_, source_mem, target_mem, no_return⟩ := checkEnds_eq_ok_iff.mp checked
      dsimp only
      cases counted : nextId? graph.nextLinkId with
      | none => exact intact
      | some next =>
          obtain ⟨unfinished, rfl⟩ := nextId?_eq_some_iff.mp counted
          let link : Link := { connection with id := ⟨graph.nextLinkId⟩ }
          have link_id : link.id = ⟨graph.nextLinkId⟩ := rfl
          exact intact.appendLink link_id unfinished source_mem target_mem no_return

theorem Intact.connect {graph : Graph} (intact : graph.Intact) (connection : Connection) :
    (graph.connect connection).graph.Intact := by
  unfold Graph.connect
  cases graph.canConnect connection with
  | error error => exact intact
  | ok => exact intact.addLink connection

/-! ## Runs of edits -/

/-- Every edit, granted or refused, keeps a graph intact. -/
theorem Intact.apply {graph : Graph} (intact : graph.Intact) (catalogue : Catalogue)
    (edit : Edit) : (edit.apply catalogue graph).Intact := by
  cases edit with
  | addNode typeName position => exact intact.addNode catalogue typeName position
  | removeNode id => exact intact.removeNode id
  | addLink connection => exact intact.addLink connection
  | connect connection => exact intact.connect connection
  | removeLink id => exact intact.removeLink id
  | clear => exact intact.clear
  | setInputDefault id pin value =>
      exact intact.reviseNode id fun node => node.setInputDefault? pin value
  | setOutputDefault id pin value =>
      exact intact.reviseNode id fun node => node.setOutputDefault? pin value
  | setPosition id position => exact intact.setPosition id position

theorem Reachable.intact {graph : Graph} (reachable : graph.Reachable) : graph.Intact := by
  induction reachable with
  | empty => exact intact_empty
  | rebuilt rebuilt => exact intact_of_rebuild rebuilt
  | edited catalogue edit _ induction => exact induction.apply catalogue edit

/-- In every reachable graph nodes and links have distinct numbers, nodes are found under their own
numbers, links join different nodes of the graph, and no links form a cycle. -/
theorem reachable_consistent {graph : Graph} (reachable : graph.Reachable) :
    graph.nodeIds.Nodup ∧
      (∀ id node, graph.node? id = some node ↔ node ∈ graph.nodes ∧ node.id = id) ∧
      (graph.links.map fun link => link.id).Nodup ∧
      (∀ link ∈ graph.links, link.source ∈ graph.nodeIds ∧ link.target ∈ graph.nodeIds) ∧
      (∀ link ∈ graph.links, link.source ≠ link.target) ∧
      Acyclic graph.links ∧
      (∃ order, graph.order = .ok order) ∧
      graph.hasCycle = false := by
  have intact := reachable.intact
  have ordered := (exists_order_iff_acyclic intact.toEndsStored).mpr intact.acyclic
  exact ⟨intact.nodeIds_nodup, fun _ _ => node?_eq_some_iff intact.nodeIds_nodup,
    intact.linkIds_nodup,
    fun link member => ⟨intact.source_mem link member, intact.target_mem link member⟩,
    fun _ member => intact.acyclic.source_ne_target member, intact.acyclic, ordered,
    hasCycle_eq_false_iff.mpr ordered⟩

/-- A chain of three nodes whose closing link is refused, which gets a shortcut, loses its middle
with the links there and is given another node. -/
def prunedChain : Graph :=
  empty.afterEdits .builtin
    [.addNode "Add" ⟨0.0, 0.0⟩, .addNode "Math/Lerp" ⟨0.0, 0.0⟩, .addNode "Blur" ⟨0.0, 0.0⟩,
      .addLink ⟨⟨1⟩, 0, ⟨2⟩, 2⟩, .connect ⟨⟨2⟩, 0, ⟨3⟩, 0⟩, .addLink ⟨⟨3⟩, 0, ⟨1⟩, 1⟩,
      .connect ⟨⟨1⟩, 0, ⟨3⟩, 1⟩, .removeNode ⟨2⟩, .setPosition ⟨3⟩ ⟨1.0, 2.0⟩,
      .addNode "Texture Output" ⟨0.0, 0.0⟩]

theorem reachable_consistent_prunedChain :
    prunedChain.Reachable ∧ prunedChain.nodeIds = [⟨1⟩, ⟨3⟩, ⟨4⟩] ∧
      prunedChain.links = [⟨⟨⟨1⟩, 0, ⟨3⟩, 1⟩, ⟨3⟩⟩] ∧ Acyclic prunedChain.links ∧
      prunedChain.hasCycle = false := by
  have reachable : prunedChain.Reachable := Reachable.empty.afterEdits _ _
  obtain ⟨_, _, _, _, _, acyclic, _, no_cycle⟩ := reachable_consistent reachable
  exact ⟨reachable, by decide +kernel, by decide +kernel, acyclic, no_cycle⟩

end Graph
end TextureGraph
