import TextureGraph.Proofs.Effect
import TextureGraph.Proofs.Snapshot

/-!
# Links added one by one or all at once

Adding links one after the other asks of each whether it closes a cycle with those before it;
rebuilding a document asks once about all of them.  Both admit the same links, in whatever order
they come, and when the links are numbered alike both lead to the same graph.
-/

namespace TextureGraph

/-- Links of the given connections, numbered one after the other. -/
def numberedFrom (next : UInt32) : List Connection → List Link
  | [] => []
  | connection :: connections =>
      { connection with id := ⟨next⟩ } :: numberedFrom (next + 1) connections

theorem map_toConnection_numberedFrom (next : UInt32) (connections : List Connection) :
    (numberedFrom next connections).map Link.toConnection = connections := by
  induction connections generalizing next with
  | nil => rfl
  | cons connection connections induction =>
      rw [numberedFrom, List.map_cons, induction]

theorem length_numberedFrom (next : UInt32) (connections : List Connection) :
    (numberedFrom next connections).length = connections.length := by
  rw [← List.length_map Link.toConnection, map_toConnection_numberedFrom]

theorem numbered_numberedFrom {next : UInt32} {connections : List Connection}
    (room : next.toNat + connections.length ≤ lastId.toNat) :
    ∃ finish,
      Numbered next ((numberedFrom next connections).map fun link => link.id.val) finish := by
  induction connections generalizing next with
  | nil => exact ⟨next, .nil next⟩
  | cons connection connections induction =>
      rw [List.length_cons] at room
      have last : lastId.toNat + 1 = UInt32.size := rfl
      have unfinished : next ≠ lastId := ne_lastId_iff.mpr (by omega)
      have room_left : (next + 1).toNat + connections.length ≤ lastId.toNat := by
        rw [toNat_add_one unfinished]
        omega
      obtain ⟨finish, later⟩ := induction room_left
      exact ⟨finish, (Numbered.single unfinished).append later⟩

theorem Acyclic.of_connections {links others : List Link} (acyclic : Acyclic links)
    (subset : others.map Link.toConnection ⊆ links.map Link.toConnection) : Acyclic others := by
  have linked : Linked others ≤ Linked links := by
    rintro source target ⟨other, member, rfl, rfl⟩
    obtain ⟨link, link_mem, same⟩ := List.mem_map.mp (subset (List.mem_map_of_mem member))
    exact ⟨link, link_mem, congrArg Connection.source same, congrArg Connection.target same⟩
  exact fun node path => acyclic node (Relation.TransGen.mono linked _ _ path)

namespace Graph

/-- The graph after links were added one after the other, unless one of them is refused. -/
def addLinks (graph : Graph) : List Connection → Except GraphError Graph
  | [] => .ok graph
  | connection :: connections =>
      match (graph.addLink connection).result with
      | .error error => .error error
      | .ok _ => (graph.addLink connection).graph.addLinks connections

/-- What a graph asks of further connections together: they join its nodes, and no links form a
cycle. -/
structure Admits (graph : Graph) (connections : List Connection) : Prop where
  ends_stored : ∀ connection ∈ connections,
    connection.source ∈ graph.nodeIds ∧ connection.target ∈ graph.nodeIds
  acyclic : Acyclic (graph.links ++ numberedFrom graph.nextLinkId connections)

theorem Admits.perm {graph : Graph} {connections others : List Connection}
    (admits : graph.Admits connections) (perm : connections.Perm others) :
    graph.Admits others where
  ends_stored connection member := admits.ends_stored connection (perm.mem_iff.mpr member)
  acyclic := by
    refine admits.acyclic.of_connections ?_
    simp only [List.map_append, map_toConnection_numberedFrom]
    exact (perm.symm.append_left _).subset

/-! ## One after the other -/

theorem admits_cons_iff {graph : Graph} {connection : Connection}
    {connections : List Connection} :
    graph.Admits (connection :: connections) ↔
      graph.checkEnds connection.source connection.target = .ok () ∧
        (graph.withLink connection).Admits connections := by
  have same_links : (graph.withLink connection).links ++
        numberedFrom (graph.withLink connection).nextLinkId connections =
      graph.links ++ numberedFrom graph.nextLinkId (connection :: connections) :=
    List.append_assoc _ _ _
  constructor
  · intro admits
    obtain ⟨⟨source_mem, target_mem⟩, ends_stored⟩ := List.forall_mem_cons.mp admits.ends_stored
    have acyclic := admits.acyclic
    rw [← same_links] at acyclic
    have acyclic_with : Acyclic (graph.withLink connection).links :=
      acyclic.anti (List.subset_append_left _ _)
    have no_return := ((acyclic_append_singleton _ _).mp acyclic_with).2
    refine ⟨checkEnds_eq_ok_iff.mpr ⟨?_, source_mem, target_mem, no_return⟩,
      ⟨ends_stored, acyclic⟩⟩
    intro same
    exact no_return (same ▸ .refl)
  · rintro ⟨sound, ends_stored, acyclic⟩
    obtain ⟨_, source_mem, target_mem, _⟩ := checkEnds_eq_ok_iff.mp sound
    rw [same_links] at acyclic
    exact ⟨List.forall_mem_cons.mpr ⟨⟨source_mem, target_mem⟩, ends_stored⟩, acyclic⟩

theorem addLinks_cons_of_error {graph : Graph} {connection : Connection} {error : GraphError}
    (refused : (graph.addLink connection).result = .error error) (connections : List Connection) :
    graph.addLinks (connection :: connections) = .error error := by
  rw [addLinks, refused]

theorem addLinks_cons_of_ok {graph : Graph} {connection : Connection} {id : LinkId}
    (added : (graph.addLink connection).result = .ok id) (connections : List Connection) :
    graph.addLinks (connection :: connections) =
      (graph.withLink connection).addLinks connections := by
  obtain ⟨unfinished, sound⟩ := addLink_eq_ok_iff.mp ⟨id, added⟩
  rw [addLinks, added, addLink_graph_of_ok unfinished sound]

/-- As long as numbers are left, links can be added one after the other exactly if the graph admits
them together. -/
theorem exists_addLinks_iff {graph : Graph} (intact : graph.Intact)
    {connections : List Connection}
    (room : graph.nextLinkId.toNat + connections.length ≤ lastId.toNat) :
    (∃ after, graph.addLinks connections = .ok after) ↔ graph.Admits connections := by
  induction connections generalizing graph with
  | nil =>
      have admits : graph.Admits [] := ⟨by simp, by simpa [numberedFrom] using intact.acyclic⟩
      exact iff_of_true ⟨graph, rfl⟩ admits
  | cons connection connections induction =>
      rw [List.length_cons] at room
      have last : lastId.toNat + 1 = UInt32.size := rfl
      have unfinished : graph.nextLinkId ≠ lastId := ne_lastId_iff.mpr (by omega)
      rw [admits_cons_iff]
      cases result : (graph.addLink connection).result with
      | error error =>
          have unsound : ¬graph.checkEnds connection.source connection.target = .ok () := by
            intro sound
            obtain ⟨id, added⟩ := addLink_eq_ok_iff.mpr ⟨unfinished, sound⟩
            cases added.symm.trans result
          simp [addLinks_cons_of_error result, unsound]
      | ok id =>
          have sound := (addLink_eq_ok_iff.mp ⟨id, result⟩).2
          have intact_with := intact.addLink connection
          rw [addLink_graph_of_ok unfinished sound] at intact_with
          have room_left :
              (graph.withLink connection).nextLinkId.toNat + connections.length ≤
                lastId.toNat := by
            rw [withLink, toNat_add_one unfinished]
            omega
          rw [addLinks_cons_of_ok result, induction intact_with room_left]
          simp [sound]

theorem addLinks_eq_ok {graph after : Graph} {connections : List Connection}
    (added : graph.addLinks connections = .ok after) :
    after.nodes = graph.nodes ∧ after.nextNodeId = graph.nextNodeId ∧
      after.links = graph.links ++ numberedFrom graph.nextLinkId connections ∧
      after.nextLinkId.toNat = graph.nextLinkId.toNat + connections.length := by
  induction connections generalizing graph with
  | nil =>
      cases added
      simp [numberedFrom]
  | cons connection connections induction =>
      cases result : (graph.addLink connection).result with
      | error error =>
          rw [addLinks_cons_of_error result] at added
          cases added
      | ok id =>
          have unfinished := (addLink_eq_ok_iff.mp ⟨id, result⟩).1
          rw [addLinks_cons_of_ok result] at added
          obtain ⟨nodes, nextNodeId, links, nextLinkId⟩ := induction added
          refine ⟨nodes, nextNodeId, links.trans (List.append_assoc _ _ _), ?_⟩
          rw [nextLinkId, withLink, toNat_add_one unfinished, List.length_cons]
          omega

end Graph

/-! ## All at once -/

namespace Document

/-- A document that extends the snapshot of a graph by links is admitted exactly if their numbers
are new and the graph admits their connections, in any order. -/
theorem exists_rebuild_iff_admits {graph : Graph} (wellFormed : graph.WellFormed)
    (catalogue : Catalogue) {connections : List Connection} {added : List Link}
    (same : (added.map Link.toConnection).Perm connections)
    (fresh : ((graph.links ++ added).map fun link => link.id).Nodup) :
    (∃ rebuilt, ({ ofGraph graph with links := graph.links ++ added }.rebuild catalogue).result =
      .ok rebuilt) ↔ graph.Admits connections := by
  have same_connections :
      ((graph.links ++ added).map Link.toConnection).Perm
        ((graph.links ++ numberedFrom graph.nextLinkId connections).map Link.toConnection) := by
    rw [List.map_append, List.map_append, map_toConnection_numberedFrom]
    exact same.append_left _
  rw [exists_rebuild_iff_consistent]
  constructor
  · intro consistent
    refine ⟨fun connection member => ?_,
      consistent.acyclic.of_connections same_connections.symm.subset⟩
    obtain ⟨link, link_mem, rfl⟩ := List.mem_map.mp (same.mem_iff.mpr member)
    exact consistent.ends_stored link (List.mem_append_right _ link_mem)
  · intro admits
    have acyclic : Acyclic (graph.links ++ added) :=
      admits.acyclic.of_connections same_connections.subset
    refine ⟨rfl, wellFormed.nodeIds_nodup, fresh, fun _ member => acyclic.source_ne_target member,
      List.forall_mem_append.mpr ⟨fun link member => ?_, fun link member => ?_⟩, acyclic⟩
    · exact ⟨wellFormed.source_mem link member, wellFormed.target_mem link member⟩
    · exact admits.ends_stored _ (same.mem_iff.mp (List.mem_map_of_mem member))

end Document

namespace Numbered

theorem lt_finish_of_mem {start finish id : UInt32} {given : List UInt32}
    (numbered : Numbered start given finish) (member : id ∈ given) : id < finish := by
  have listed := List.mem_map_of_mem (f := UInt32.toNat) member
  rw [numbered.consecutive, List.mem_range'_1] at listed
  rw [UInt32.lt_iff_toNat_lt, numbered.finish_eq]
  exact listed.2

theorem exists_last {start finish : UInt32} {given : List UInt32}
    (numbered : Numbered start given finish) (some_given : given ≠ []) :
    ∃ id ∈ given, id.toNat + 1 = finish.toNat := by
  have given_pos := List.length_pos_of_ne_nil some_given
  have finish_eq := numbered.finish_eq
  have listed : finish.toNat - 1 ∈ given.map UInt32.toNat := by
    rw [numbered.consecutive, List.mem_range'_1]
    omega
  obtain ⟨id, member, same⟩ := List.mem_map.mp listed
  exact ⟨id, member, by omega⟩

end Numbered

namespace Document

theorem raisedPast_eq_finish {start finish : UInt32} {used given : List UInt32}
    (positive : 0 < start) (above : CounterAbove start used)
    (numbered : Numbered start given finish) :
    toGraph.raisedPast start (used ++ given) = finish := by
  rcases given.eq_nil_or_concat with rfl | ⟨_, last, split⟩
  · rw [List.append_nil, numbered.finish_eq_start]
    exact raisedPast_eq_self positive above
  · have some_given : given ≠ [] := by simp [split]
    obtain ⟨id, member, next_eq⟩ := numbered.exists_last some_given
    have below_start := above.resolve_left (numbered.start_ne_lastId member)
    have start_le := numbered.start_le
    have largest_lt : (used ++ given).foldl max 0 < finish := by
      refine foldl_max_lt (UInt32.lt_of_lt_of_le positive start_le) ?_
      refine List.forall_mem_append.mpr ⟨fun other old => ?_, fun other new => ?_⟩
      · exact UInt32.lt_of_lt_of_le (below_start other old) start_le
      · exact numbered.lt_finish_of_mem new
    have le_largest := (le_foldl_max 0 (used ++ given)).2 id (List.mem_append_right _ member)
    rw [UInt32.lt_iff_toNat_lt] at largest_lt
    rw [UInt32.le_iff_toNat_le] at le_largest start_le
    have bound := finish.toNat_lt
    have last : lastId.toNat = 4294967295 := rfl
    rw [raisedPast_eq, ← UInt32.toNat_inj, toNat_max, toNat_nextId?_getD]
    omega

theorem toGraph_of_addLinks {graph after : Graph} (reachable : graph.Reachable)
    {connections : List Connection}
    (room : graph.nextLinkId.toNat + connections.length ≤ lastId.toNat)
    (added : graph.addLinks connections = .ok after) :
    { ofGraph graph with
      links := graph.links ++ numberedFrom graph.nextLinkId connections }.toGraph = after := by
  obtain ⟨nodes, nextNodeId, links, nextLinkId⟩ := Graph.addLinks_eq_ok added
  obtain ⟨node_pos, link_pos⟩ := reachable.counters_pos
  have intact := reachable.intact
  have nodes_above := intact.nodeCounter_above
  rw [Graph.nodeIds, List.map_map] at nodes_above
  have links_above := intact.linkCounter_above
  rw [List.map_map] at links_above
  obtain ⟨finish, numbered⟩ := numbered_numberedFrom room
  have finish_eq : finish = after.nextLinkId := by
    rw [← UInt32.toNat_inj, numbered.finish_eq, nextLinkId, List.length_map, length_numberedFrom]
  have same_nextNodeId := raisedPast_eq_self node_pos nodes_above
  have same_nextLinkId := raisedPast_eq_finish link_pos links_above numbered
  cases after
  simp only [toGraph, ofGraph, List.map_append, Graph.mk.injEq]
  exact ⟨nodes.symm, links.symm, same_nextNodeId.trans nextNodeId.symm,
    same_nextLinkId.trans finish_eq⟩

theorem fresh_numberedFrom {graph : Graph} (intact : graph.Intact) {connections : List Connection}
    (room : graph.nextLinkId.toNat + connections.length ≤ lastId.toNat) :
    ((graph.links ++ numberedFrom graph.nextLinkId connections).map fun link => link.id).Nodup := by
  obtain ⟨finish, numbered⟩ := numbered_numberedFrom room
  have numbered_ids : Numbered graph.nextLinkId
      (((numberedFrom graph.nextLinkId connections).map fun link => link.id).map LinkId.val)
      finish := by
    rwa [List.map_map]
  rw [List.map_append]
  exact numbered_ids.nodup_append intact.linkCounter_above intact.linkIds_nodup

/-- When the links are numbered from the counter onwards, adding them one after the other and
rebuilding the extended snapshot lead to the same graph. -/
theorem addLinks_eq_ok_iff_rebuild {graph : Graph} (reachable : graph.Reachable)
    {connections : List Connection}
    (room : graph.nextLinkId.toNat + connections.length ≤ lastId.toNat) (catalogue : Catalogue)
    (after : Graph) :
    graph.addLinks connections = .ok after ↔
      ({ ofGraph graph with
        links := graph.links ++ numberedFrom graph.nextLinkId connections }.rebuild
          catalogue).result = .ok after := by
  have intact := reachable.intact
  have added_iff := Graph.exists_addLinks_iff intact room
  have same : ((numberedFrom graph.nextLinkId connections).map Link.toConnection).Perm
      connections := by
    rw [map_toConnection_numberedFrom]
  have rebuilt_iff := exists_rebuild_iff_admits intact.toWellFormed catalogue same
    (fresh_numberedFrom intact room)
  constructor
  · intro added
    obtain ⟨rebuilt, admitted⟩ := rebuilt_iff.mpr (added_iff.mp ⟨after, added⟩)
    have described := (rebuild_result_eq_ok_iff.mp admitted).2.2
    rw [admitted, described, toGraph_of_addLinks reachable room added]
  · intro admitted
    obtain ⟨other, added⟩ := added_iff.mpr (rebuilt_iff.mp ⟨after, admitted⟩)
    have described := (rebuild_result_eq_ok_iff.mp admitted).2.2
    rw [added, described, toGraph_of_addLinks reachable room added]

/-- In a reachable graph that has numbers left for some connections, adding links for them one after
the other succeeds in one order exactly if it does in any other, and exactly if the snapshot with
such links behind its own is admitted, whatever their order and their numbers, so long as these are
new.  When the links are numbered from the counter onwards, both ways lead to the same graph. -/
theorem batch_admission {graph : Graph} (reachable : graph.Reachable)
    (connections : List Connection)
    (room : graph.nextLinkId.toNat + connections.length ≤ lastId.toNat) :
    (∀ others, connections.Perm others →
        ((∃ after, graph.addLinks connections = .ok after) ↔
          ∃ after, graph.addLinks others = .ok after)) ∧
      (∀ (catalogue : Catalogue) (added : List Link),
        (added.map Link.toConnection).Perm connections →
        ((graph.links ++ added).map fun link => link.id).Nodup →
        ((∃ after, graph.addLinks connections = .ok after) ↔
          ∃ rebuilt,
            ({ ofGraph graph with links := graph.links ++ added }.rebuild catalogue).result =
              .ok rebuilt)) ∧
      (numberedFrom graph.nextLinkId connections).map Link.toConnection = connections ∧
      ((numberedFrom graph.nextLinkId connections).map fun link => link.id.val.toNat) =
        List.range' graph.nextLinkId.toNat connections.length ∧
      ∀ catalogue after, graph.addLinks connections = .ok after ↔
        ({ ofGraph graph with
          links := graph.links ++ numberedFrom graph.nextLinkId connections }.rebuild
            catalogue).result = .ok after := by
  have intact := reachable.intact
  have added_iff := Graph.exists_addLinks_iff intact room
  refine ⟨fun others perm => ?_, fun catalogue added same fresh => ?_,
    map_toConnection_numberedFrom _ _, ?_, addLinks_eq_ok_iff_rebuild reachable room⟩
  · have room_others : graph.nextLinkId.toNat + others.length ≤ lastId.toNat :=
      perm.length_eq ▸ room
    rw [added_iff, Graph.exists_addLinks_iff intact room_others]
    exact ⟨fun admits => admits.perm perm, fun admits => admits.perm perm.symm⟩
  · rw [added_iff, exists_rebuild_iff_admits intact.toWellFormed catalogue same fresh]
  · obtain ⟨finish, numbered⟩ := numbered_numberedFrom room
    have consecutive := numbered.consecutive
    rwa [List.map_map, List.length_map, length_numberedFrom] at consecutive

/-- Four connections of the pruned chain that may be added, two of them alike. -/
def soundBatch : List Connection :=
  [⟨⟨3⟩, 0, ⟨4⟩, 0⟩, ⟨⟨1⟩, 0, ⟨4⟩, 9⟩, ⟨⟨3⟩, 0, ⟨4⟩, 0⟩, ⟨⟨1⟩, 0, ⟨3⟩, 0⟩]

/-- Links of the same connections, in reverse and under scattered numbers. -/
def scatteredBatch : List Link :=
  [⟨⟨⟨1⟩, 0, ⟨3⟩, 0⟩, ⟨4294967295⟩⟩, ⟨⟨⟨3⟩, 0, ⟨4⟩, 0⟩, ⟨7⟩⟩, ⟨⟨⟨1⟩, 0, ⟨4⟩, 9⟩, ⟨1⟩⟩,
    ⟨⟨⟨3⟩, 0, ⟨4⟩, 0⟩, ⟨60⟩⟩]

/-- Two connections of the pruned chain that close a cycle only together. -/
def cyclicBatch : List Connection :=
  [⟨⟨3⟩, 0, ⟨4⟩, 0⟩, ⟨⟨4⟩, 0, ⟨1⟩, 0⟩]

/-- The sound batch may be added in reverse, and stored in reverse under scattered numbers; the
cyclic one is refused under any numbers, although each of its connections alone may be added. -/
theorem batch_admission_prunedChain :
    Graph.prunedChain.Reachable ∧
      Graph.prunedChain.nextLinkId.toNat + soundBatch.length ≤ lastId.toNat ∧
      (∃ after, Graph.prunedChain.addLinks soundBatch.reverse = .ok after) ∧
      (∃ rebuilt,
        ({ ofGraph Graph.prunedChain with
          links := Graph.prunedChain.links ++ scatteredBatch }.rebuild .empty).result =
            .ok rebuilt) ∧
      (∀ connection ∈ cyclicBatch,
        Graph.prunedChain.addLinks [connection] = .ok (Graph.prunedChain.withLink connection)) ∧
      ∀ (catalogue : Catalogue) (added : List Link),
        (added.map Link.toConnection).Perm cyclicBatch →
        ((Graph.prunedChain.links ++ added).map fun link => link.id).Nodup →
        ¬∃ rebuilt,
          ({ ofGraph Graph.prunedChain with links := Graph.prunedChain.links ++ added }.rebuild
            catalogue).result = .ok rebuilt := by
  have reachable : Graph.prunedChain.Reachable := Graph.Reachable.empty.afterEdits _ _
  have room : Graph.prunedChain.nextLinkId.toNat + soundBatch.length ≤ lastId.toNat := by
    decide +kernel
  have added : ∃ after, Graph.prunedChain.addLinks soundBatch = .ok after :=
    ⟨{ Graph.prunedChain with
        links := Graph.prunedChain.links ++ numberedFrom 4 soundBatch
        nextLinkId := 8 }, by decide +kernel⟩
  have same : (scatteredBatch.map Link.toConnection).Perm soundBatch := soundBatch.reverse_perm
  have fresh : ((Graph.prunedChain.links ++ scatteredBatch).map fun link => link.id).Nodup := by
    decide +kernel
  have refused : Graph.prunedChain.addLinks cyclicBatch = .error (.wouldCreateCycle ⟨4⟩ ⟨1⟩) := by
    decide +kernel
  obtain ⟨reordered, stored, _⟩ := batch_admission reachable soundBatch room
  obtain ⟨_, storedCyclic, _⟩ := batch_admission reachable cyclicBatch (by decide +kernel)
  refine ⟨reachable, room, (reordered _ soundBatch.reverse_perm.symm).mp added,
    (stored .empty _ same fresh).mp added, by decide +kernel, fun catalogue links alike new => ?_⟩
  rintro rebuilt
  obtain ⟨after, admitted⟩ := (storedCyclic catalogue links alike new).mpr rebuilt
  rw [refused] at admitted
  exact nomatch admitted

end Document
end TextureGraph
