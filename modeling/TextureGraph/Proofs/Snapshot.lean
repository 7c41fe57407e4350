import TextureGraph.Proofs.Numbering
import TextureGraph.Proofs.Violation

/-!
# Snapshots

The snapshot of a graph that arose by edits is admitted and gives the graph back.  The snapshot of
an admitted document is the document with its counters repaired, and it needs no further repair.
-/

namespace TextureGraph
namespace Graph

theorem Reachable.counters_pos {graph : Graph} (reachable : graph.Reachable) :
    0 < graph.nextNodeId ∧ 0 < graph.nextLinkId := by
  induction reachable with
  | empty => decide
  | rebuilt rebuilt =>
      obtain ⟨_, _, rfl⟩ := Document.rebuild_result_eq_ok_iff.mp rebuilt
      exact ⟨Document.raisedPast_pos _ _, Document.raisedPast_pos _ _⟩
  | @edited graph catalogue edit _ induction =>
      have counted := graph.counted_apply catalogue edit
      exact ⟨UInt32.lt_of_lt_of_le induction.1 counted.nodes.start_le,
        UInt32.lt_of_lt_of_le induction.2 counted.links.start_le⟩

end Graph

namespace Document

/-- The graph that the snapshot of a reachable graph stores is that graph. -/
theorem toGraph_ofGraph {graph : Graph} (reachable : graph.Reachable) :
    (ofGraph graph).toGraph = graph := by
  have intact := reachable.intact
  obtain ⟨node_pos, link_pos⟩ := reachable.counters_pos
  have nodes_above := intact.nodeCounter_above
  have links_above := intact.linkCounter_above
  rw [Graph.nodeIds, List.map_map] at nodes_above
  rw [List.map_map] at links_above
  have same_nextNodeId := raisedPast_eq_self node_pos nodes_above
  have same_nextLinkId := raisedPast_eq_self link_pos links_above
  exact congrArg₂ (Graph.mk graph.nodes graph.links) same_nextNodeId same_nextLinkId

theorem rebuild_ofGraph {graph : Graph} (reachable : graph.Reachable) (catalogue : Catalogue) :
    ((ofGraph graph).rebuild catalogue).result = .ok graph := by
  have same := toGraph_ofGraph reachable
  rw [rebuild_result_eq_ok_iff, same]
  exact ⟨rfl, reachable.intact.toWellFormed, rfl⟩

/-- Rebuilding the snapshot of a reachable graph gives that graph, whatever types are known.  The
snapshot of a rebuilt document is the document with repaired counters, and rebuilding it again
changes nothing more. -/
theorem snapshot_rebuild_inverse :
    (∀ graph : Graph, graph.Reachable → ∀ catalogue,
      ((ofGraph graph).rebuild catalogue).result = .ok graph) ∧
      ∀ (document : Document) (catalogue : Catalogue) (graph : Graph),
        (document.rebuild catalogue).result = .ok graph →
          ofGraph graph =
              { document with
                nextNodeId := graph.nextNodeId
                nextLinkId := graph.nextLinkId } ∧
            graph.nextNodeId.toNat =
              repairedCounter document.nextNodeId (document.nodes.map fun node => node.id.val) ∧
            graph.nextLinkId.toNat =
              repairedCounter document.nextLinkId (document.links.map fun link => link.id.val) ∧
            ∀ again, ((ofGraph graph).rebuild again).result = .ok graph := by
  refine ⟨fun _ reachable => rebuild_ofGraph reachable, fun _ _ graph rebuilt => ?_⟩
  have reachable : graph.Reachable := .rebuilt rebuilt
  obtain ⟨version, _, rfl⟩ := rebuild_result_eq_ok_iff.mp rebuilt
  refine ⟨?_, toNat_raisedPast _ _, toNat_raisedPast _ _, rebuild_ofGraph reachable⟩
  rw [ofGraph, ← version]
  rfl

theorem snapshot_rebuild_inverse_prunedChain :
    Graph.prunedChain.Reachable ∧ Graph.prunedChain.nextNodeId = 5 ∧
      ((ofGraph Graph.prunedChain).rebuild .empty).result = .ok Graph.prunedChain ∧
      (storedChain.rebuild .empty).result = .ok storedChain.toGraph ∧
      ofGraph storedChain.toGraph =
        { storedChain with nextNodeId := 10, nextLinkId := 4294967295 } ∧
      ((ofGraph storedChain.toGraph).rebuild .builtin).result = .ok storedChain.toGraph := by
  have reachable : Graph.prunedChain.Reachable := Graph.Reachable.empty.afterEdits _ _
  have rebuilt : (storedChain.rebuild .empty).result = .ok storedChain.toGraph := by
    decide +kernel
  obtain ⟨snapshot, _, _, again⟩ := snapshot_rebuild_inverse.2 _ _ _ rebuilt
  exact ⟨reachable, by decide +kernel, snapshot_rebuild_inverse.1 _ reachable .empty, rebuilt,
    snapshot.trans (by decide +kernel), again .builtin⟩

end Document
end TextureGraph
