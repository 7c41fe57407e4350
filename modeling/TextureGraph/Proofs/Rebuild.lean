import TextureGraph.Proofs.Counter
import TextureGraph.Proofs.DependencyOrder

/-!
# Rebuilding documents

A document is admitted exactly if it has the current version and describes a well-formed graph;
the graph is then the described one.
-/

namespace TextureGraph
namespace Document

theorem nodup_and_disjoint_cons {α : Type} {id : α} {ids seen : List α} (fresh : id ∉ seen) :
    (id :: ids).Nodup ∧ (id :: ids).Disjoint seen ↔ ids.Nodup ∧ ids.Disjoint (id :: seen) := by
  simp only [List.nodup_cons, List.disjoint_cons_left, List.disjoint_cons_right]
  tauto

theorem checkNodes_result_eq_ok_iff (catalogue : Catalogue) (seen : List NodeId)
    (nodes : List Node) :
    (checkNodes catalogue seen nodes).result = .ok () ↔
      (nodes.map Node.id).Nodup ∧ (nodes.map Node.id).Disjoint seen := by
  induction nodes generalizing seen with
  | nil => simp [checkNodes]
  | cons node nodes induction =>
      by_cases repeated : node.id ∈ seen
      · simp [checkNodes, repeated]
      · rw [checkNodes, if_neg repeated, List.map_cons, nodup_and_disjoint_cons repeated]
        exact induction (node.id :: seen)

theorem checkLinks_eq_ok_iff (nodes : List NodeId) (seen : List LinkId) (links : List Link) :
    checkLinks nodes seen links = .ok () ↔
      ((links.map fun link => link.id).Nodup ∧ (links.map fun link => link.id).Disjoint seen) ∧
        ∀ link ∈ links, link.source ≠ link.target ∧ link.source ∈ nodes ∧ link.target ∈ nodes := by
  induction links generalizing seen with
  | nil => simp [checkLinks]
  | cons link links induction =>
      rw [checkLinks]
      split_ifs with repeated loop source_mem target_mem
      · simp [repeated]
      · simp [loop]
      · rw [List.map_cons, nodup_and_disjoint_cons repeated, induction, List.forall_mem_cons]
        simp [loop, source_mem, target_mem]
      · simp [target_mem]
      · simp [source_mem]

theorem checkLinks_of_wellFormed {document : Document}
    (wellFormed : document.toGraph.WellFormed) :
    checkLinks (document.nodes.map Node.id) [] document.links = .ok () := by
  rw [checkLinks_eq_ok_iff]
  refine ⟨⟨wellFormed.linkIds_nodup, List.disjoint_nil_right _⟩, fun link member => ?_⟩
  exact ⟨wellFormed.acyclic.source_ne_target member, wellFormed.source_mem link member,
    wellFormed.target_mem link member⟩

theorem sound_of_checkLinks {document : Document}
    (nodeIds_nodup : (document.nodes.map Node.id).Nodup)
    (checked : checkLinks (document.nodes.map Node.id) [] document.links = .ok ()) :
    document.toGraph.Sound := by
  obtain ⟨⟨linkIds_nodup, _⟩, ends⟩ := (checkLinks_eq_ok_iff _ _ _).mp checked
  exact ⟨⟨fun link member => (ends link member).2.1, fun link member => (ends link member).2.2⟩,
    nodeIds_nodup, linkIds_nodup⟩

/-- The checks of a document's links and of their order admit exactly the well-formed graphs. -/
theorem checkedGraph_eq_ok_iff {document : Document} (graph : Graph)
    (nodeIds_nodup : (document.nodes.map Node.id).Nodup) :
    document.checkedGraph = .ok graph ↔ document.toGraph.WellFormed ∧ graph = document.toGraph := by
  constructor
  · intro accepted
    unfold checkedGraph at accepted
    cases checked : checkLinks (document.nodes.map Node.id) [] document.links with
    | error error =>
        rw [checked] at accepted
        cases accepted
    | ok =>
        have sound := sound_of_checkLinks nodeIds_nodup checked
        rw [checked] at accepted
        cases ordered : document.toGraph.order with
        | error error =>
            rw [ordered] at accepted
            cases accepted
        | ok order =>
            rw [ordered] at accepted
            have acyclic := Graph.acyclic_of_order_eq_ok sound.toEndsStored ordered
            cases accepted
            exact ⟨⟨sound, acyclic⟩, rfl⟩
  · rintro ⟨wellFormed, rfl⟩
    obtain ⟨order, ordered⟩ :=
      (Graph.exists_order_iff_acyclic wellFormed.toEndsStored).mpr wellFormed.acyclic
    rw [checkedGraph, checkLinks_of_wellFormed wellFormed, ordered]
    rfl

/-- Exactly the documents of the current version that describe a well-formed graph are admitted. -/
theorem rebuild_result_eq_ok_iff {catalogue : Catalogue} {document : Document} {graph : Graph} :
    (document.rebuild catalogue).result = .ok graph ↔
      document.version = currentVersion ∧ document.toGraph.WellFormed ∧
        graph = document.toGraph := by
  unfold rebuild
  split_ifs with version
  · simp [version]
  · have version : document.version = currentVersion := not_not.mp version
    have nodes_checked := checkNodes_result_eq_ok_iff catalogue [] document.nodes
    dsimp only
    cases checked : (checkNodes catalogue [] document.nodes).result with
    | error error =>
        constructor
        · nofun
        · rintro ⟨_, wellFormed, _⟩
          have passed := nodes_checked.mpr ⟨wellFormed.nodeIds_nodup, List.disjoint_nil_right _⟩
          rw [checked] at passed
          cases passed
    | ok =>
        have links_checked := checkedGraph_eq_ok_iff graph (nodes_checked.mp checked).1
        dsimp only
        cases outcome : document.checkedGraph with
        | error error =>
            rw [outcome] at links_checked
            simpa [version] using links_checked
        | ok rebuilt =>
            rw [outcome] at links_checked
            simpa [version] using links_checked

theorem nodeCounter_toGraph_above (document : Document) :
    CounterAbove document.toGraph.nextNodeId (document.toGraph.nodeIds.map NodeId.val) := by
  rw [Graph.nodeIds, List.map_map]
  exact counterAbove_raisedPast _ _

theorem linkCounter_toGraph_above (document : Document) :
    CounterAbove document.toGraph.nextLinkId
      ((document.toGraph.links.map fun link => link.id).map LinkId.val) := by
  rw [List.map_map]
  exact counterAbove_raisedPast _ _

end Document
end TextureGraph
