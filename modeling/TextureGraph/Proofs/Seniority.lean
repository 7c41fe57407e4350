import TextureGraph.Proofs.Session

/-!
# The oldest comes first

Throughout a session nodes and links stand in the order of their numbers, whatever is added,
removed and rebuilt in between.  The first one found is therefore the oldest, and when the oldest
link into a pin goes, the next oldest takes its place.
-/

namespace TextureGraph

/-- The item of a list with the smallest number of those that pass; nothing if none passes. -/
def Lowest {α : Type} (number : α → UInt32) (passes : α → Prop) (items : List α) :
    Option α → Prop
  | none => ∀ item ∈ items, ¬passes item
  | some item =>
      item ∈ items ∧ passes item ∧ ∀ other ∈ items, passes other → number item ≤ number other

namespace Lowest

variable {α : Type} {number : α → UInt32} {passes : α → Prop} {items : List α}

theorem find? {test : α → Bool} (test_iff : ∀ item, test item = true ↔ passes item)
    (ascending : items.Pairwise fun first second => number first < number second) :
    Lowest number passes items (items.find? test) := by
  cases found : items.find? test with
  | none =>
      intro item member passing
      exact List.find?_eq_none.mp found item member ((test_iff item).mpr passing)
  | some item =>
      obtain ⟨passing, before, after, rfl, failing⟩ := List.find?_eq_some_iff_append.mp found
      refine ⟨by simp, (test_iff item).mp passing, fun other member passing_other => ?_⟩
      have later := (List.pairwise_cons.mp (List.pairwise_append.mp ascending).2.1).1
      rcases List.mem_append.mp member with earlier | same_or_later
      · have fails := failing other earlier
        simp [(test_iff other).mpr passing_other] at fails
      · rcases List.mem_cons.mp same_or_later with rfl | behind
        · exact UInt32.le_refl _
        · exact UInt32.le_of_lt (later other behind)

theorem congr {others : List α} {passes_other : α → Prop} {item? : Option α}
    (lowest : Lowest number passes items item?)
    (same : ∀ item, item ∈ items ∧ passes item ↔ item ∈ others ∧ passes_other item) :
    Lowest number passes_other others item? := by
  cases item? with
  | none =>
      intro item member passing
      obtain ⟨member, passing⟩ := (same item).mpr ⟨member, passing⟩
      exact lowest item member passing
  | some item =>
      obtain ⟨member, passing, least⟩ := lowest
      obtain ⟨member, passing⟩ := (same item).mp ⟨member, passing⟩
      refine ⟨member, passing, fun other other_member other_passing => ?_⟩
      obtain ⟨other_member, other_passing⟩ := (same other).mpr ⟨other_member, other_passing⟩
      exact least other other_member other_passing

end Lowest

theorem CounterAbove.pairwise_append_next {next : UInt32} {ids : List UInt32}
    (above : CounterAbove next ids) (unfinished : next ≠ lastId)
    (ascending : ids.Pairwise (· < ·)) : (ids ++ [next]).Pairwise (· < ·) := by
  refine List.pairwise_append.mpr ⟨ascending, List.pairwise_singleton _ _, ?_⟩
  intro id member other last
  obtain rfl := List.mem_singleton.mp last
  exact (above.resolve_left unfinished) id member

namespace Graph

/-- Nodes and links stand in the order of their numbers. -/
structure InOrder (graph : Graph) : Prop where
  nodes : (graph.nodeIds.map NodeId.val).Pairwise (· < ·)
  links : ((graph.links.map fun link => link.id).map LinkId.val).Pairwise (· < ·)

theorem InOrder.restrict {graph smaller : Graph} (inOrder : graph.InOrder)
    (nodes_sublist : smaller.nodeIds.Sublist graph.nodeIds)
    (links_sublist : smaller.links.Sublist graph.links) : smaller.InOrder where
  nodes := inOrder.nodes.sublist (nodes_sublist.map _)
  links := inOrder.links.sublist ((links_sublist.map _).map _)

theorem InOrder.withNode {graph : Graph} (inOrder : graph.InOrder) (intact : graph.Intact)
    {node : Node} (node_id : node.id = ⟨graph.nextNodeId⟩)
    (unfinished : graph.nextNodeId ≠ lastId) : (graph.withNode node).InOrder where
  nodes := by
    have appended := intact.nodeCounter_above.pairwise_append_next unfinished inOrder.nodes
    simpa [nodeIds, Graph.withNode, node_id] using appended
  links := inOrder.links

theorem InOrder.withLink {graph : Graph} (inOrder : graph.InOrder) (intact : graph.Intact)
    (connection : Connection) (unfinished : graph.nextLinkId ≠ lastId) :
    (graph.withLink connection).InOrder where
  nodes := inOrder.nodes
  links := by
    have appended := intact.linkCounter_above.pairwise_append_next unfinished inOrder.links
    simpa [Graph.withLink] using appended

/-- Every edit keeps nodes and links in the order of their numbers. -/
theorem InOrder.of_effect {graph after : Graph} {edit : Edit} (inOrder : graph.InOrder)
    (intact : graph.Intact) (effect : graph.Effect edit after) : after.InOrder := by
  cases effect with
  | unchanged => exact inOrder
  | addsNode unfinished node_id => exact inOrder.withNode intact node_id unfinished
  | removesNode id =>
      exact inOrder.restrict (List.filter_sublist.map Node.id) List.filter_sublist
  | addsLink unfinished _ => exact inOrder.withLink intact _ unfinished
  | connectsLink unfinished _ _ => exact inOrder.withLink intact _ unfinished
  | removesLink id => exact inOrder.restrict (List.Sublist.refl _) List.filter_sublist
  | clears => exact inOrder.restrict (List.nil_sublist _) (List.nil_sublist _)
  | revisesNode _ _ _ _ =>
      exact inOrder.restrict (nodeIds_replaceNode graph _ ▸ List.Sublist.refl _)
        (List.Sublist.refl _)

theorem Session.inOrder {permitted : Edit → Prop} {graph : Graph}
    (session : graph.Session permitted) : graph.InOrder :=
  session.invariant ⟨List.Pairwise.nil, List.Pairwise.nil⟩
    fun _ _ _ intact _ effect inOrder => inOrder.of_effect intact effect

/-! ## Looking up -/

theorem InOrder.pairwise_nodes {graph : Graph} (inOrder : graph.InOrder) :
    graph.nodes.Pairwise fun older newer => older.id.val < newer.id.val := by
  have ascending := inOrder.nodes
  rwa [nodeIds, List.map_map, List.pairwise_map] at ascending

theorem InOrder.pairwise_links {graph : Graph} (inOrder : graph.InOrder) :
    graph.links.Pairwise fun older newer => older.id.val < newer.id.val := by
  have ascending := inOrder.links
  rwa [List.map_map, List.pairwise_map] at ascending

theorem InOrder.lowest_inputLink? {graph : Graph} (inOrder : graph.InOrder) (node : NodeId)
    (pin : UInt64) :
    Lowest (fun link => link.id.val) (fun link : Link => link.target = node ∧ link.targetPin = pin)
      graph.links (graph.inputLink? node pin) :=
  .find? (fun _ => feeds_iff) inOrder.pairwise_links

theorem lt_of_lowest {links : List Link} {passes : Link → Prop} {link other : Link}
    (lowest : Lowest (fun link => link.id.val) passes links (some link)) (member : other ∈ links)
    (passing : passes other) (different : other.id ≠ link.id) : link.id.val < other.id.val := by
  have le := lowest.2.2 other member passing
  rcases UInt32.lt_or_eq_of_le le with lt | same
  · exact lt
  · exact absurd (congrArg LinkId.mk same.symm) different

theorem InOrder.lowest_after_removeLink {graph : Graph} (inOrder : graph.InOrder) {node : NodeId}
    {pin : UInt64} {link : Link} (oldest : graph.inputLink? node pin = some link) :
    Lowest (fun link => link.id.val)
      (fun other : Link => (other.target = node ∧ other.targetPin = pin) ∧
        link.id.val < other.id.val)
      graph.links ((graph.removeLink link.id).graph.inputLink? node pin) := by
  have lowest := inOrder.lowest_inputLink? node pin
  rw [oldest] at lowest
  rw [removeLink_graph]
  have smaller : (graph.withoutLink link.id).InOrder :=
    inOrder.restrict (List.Sublist.refl _) List.filter_sublist
  refine (smaller.lowest_inputLink? node pin).congr fun other => ?_
  simp only [withoutLink, List.mem_filter, decide_eq_true_eq]
  constructor
  · rintro ⟨⟨member, different⟩, feeds⟩
    exact ⟨member, feeds, lt_of_lowest lowest member feeds different⟩
  · rintro ⟨member, feeds, newer⟩
    refine ⟨⟨member, ?_⟩, feeds⟩
    intro same
    rw [same] at newer
    exact UInt32.lt_irrefl _ newer

theorem InOrder.lowest_after_removeNode {graph : Graph} (inOrder : graph.InOrder)
    (wellFormed : graph.WellFormed) {node : NodeId} {pin : UInt64} {link : Link}
    (oldest : graph.inputLink? node pin = some link) :
    Lowest (fun link => link.id.val)
      (fun other : Link => (other.target = node ∧ other.targetPin = pin) ∧
        link.id.val < other.id.val ∧ other.source ≠ link.source)
      graph.links ((graph.removeNode link.source).graph.inputLink? node pin) := by
  have lowest := inOrder.lowest_inputLink? node pin
  rw [oldest] at lowest
  have ⟨link_mem, ⟨target, _⟩, _⟩ := lowest
  rw [removeNode_graph_of_mem (wellFormed.source_mem link link_mem)]
  have smaller : (graph.withoutNode link.source).InOrder :=
    inOrder.restrict (List.filter_sublist.map Node.id) List.filter_sublist
  refine (smaller.lowest_inputLink? node pin).congr fun other => ?_
  simp only [withoutNode, List.mem_filter, Connection.involves, Bool.not_or, Bool.and_eq_true,
    Bool.not_eq_true', decide_eq_false_iff_not]
  constructor
  · rintro ⟨⟨member, other_source, _⟩, feeds⟩
    refine ⟨member, feeds, lt_of_lowest lowest member feeds ?_, other_source⟩
    intro same
    have same_link : other = link :=
      List.inj_on_of_nodup_map wellFormed.linkIds_nodup member link_mem same
    exact other_source (same_link ▸ rfl)
  · rintro ⟨member, feeds, _, other_source⟩
    -- The target stays, because no link joins a node to itself.
    have target_stays : other.target ≠ link.source := by
      rw [feeds.1, ← target]
      exact (wellFormed.acyclic.source_ne_target link_mem).symm
    exact ⟨⟨member, other_source, target_stays⟩, feeds⟩

/-- Throughout a session, nodes and links stand in strictly increasing order of their numbers.  The
link that feeds a pin is the one with the smallest number of those that lead there, and the node
found for a type is the one with the smallest number of that type.  After the link that feeds a pin
is removed, or the node at its source, the pin is fed by the link with the next smallest number of
those that remain. -/
theorem session_oldest_first {graph : Graph} (session : graph.Session fun _ => True) :
    (graph.nodes.Pairwise fun older newer => older.id.val < newer.id.val) ∧
      (graph.links.Pairwise fun older newer => older.id.val < newer.id.val) ∧
      (∀ typeName, Lowest (fun node => node.id.val) (fun node => node.typeName = typeName)
        graph.nodes (graph.firstOfType? typeName)) ∧
      ∀ node pin,
        Lowest (fun link => link.id.val)
            (fun link => link.target = node ∧ link.targetPin = pin)
            graph.links (graph.inputLink? node pin) ∧
          ∀ link, graph.inputLink? node pin = some link →
            Lowest (fun link => link.id.val)
                (fun other => (other.target = node ∧ other.targetPin = pin) ∧
                  link.id.val < other.id.val)
                graph.links ((graph.removeLink link.id).graph.inputLink? node pin) ∧
              Lowest (fun link => link.id.val)
                (fun other => (other.target = node ∧ other.targetPin = pin) ∧
                  link.id.val < other.id.val ∧ other.source ≠ link.source)
                graph.links ((graph.removeNode link.source).graph.inputLink? node pin) := by
  have inOrder := session.inOrder
  have wellFormed := session.reachable.intact.toWellFormed
  refine ⟨inOrder.pairwise_nodes, inOrder.pairwise_links, fun typeName => ?_, fun node pin => ?_⟩
  · exact .find? (fun node => decide_eq_true_iff) inOrder.pairwise_nodes
  · exact ⟨inOrder.lowest_inputLink? node pin, fun link oldest =>
      ⟨inOrder.lowest_after_removeLink oldest, inOrder.lowest_after_removeNode wellFormed oldest⟩⟩

/-- Three colours whose links contend for the input of a blur; the first link was removed again. -/
def contestedBlur : Graph :=
  empty.afterEdits .builtin
    [.addNode "Solid Color" ⟨0.0, 0.0⟩, .addNode "Solid Color" ⟨0.0, 64.0⟩,
      .addNode "Solid Color" ⟨0.0, 128.0⟩, .addNode "Blur" ⟨64.0, 0.0⟩,
      .connect ⟨⟨3⟩, 0, ⟨4⟩, 0⟩, .addLink ⟨⟨1⟩, 0, ⟨4⟩, 0⟩, .connect ⟨⟨1⟩, 0, ⟨4⟩, 0⟩,
      .removeLink ⟨1⟩, .addLink ⟨⟨2⟩, 0, ⟨4⟩, 0⟩]

/-- The contest after the snapshot was rebuilt and a link was added. -/
def renewedContest : Graph :=
  contestedBlur.afterEdits .builtin [.connect ⟨⟨3⟩, 0, ⟨4⟩, 0⟩]

/-- The second link feeds the blur; without it the third does, and without the first colour, from
which both come, the fourth. -/
theorem session_oldest_first_renewedContest :
    (renewedContest.Session fun _ => True) ∧
      renewedContest.inputLink? ⟨4⟩ 0 = some ⟨⟨⟨1⟩, 0, ⟨4⟩, 0⟩, ⟨2⟩⟩ ∧
      (renewedContest.removeLink ⟨2⟩).graph.inputLink? ⟨4⟩ 0 =
        some ⟨⟨⟨1⟩, 0, ⟨4⟩, 0⟩, ⟨3⟩⟩ ∧
      (renewedContest.removeNode ⟨1⟩).graph.inputLink? ⟨4⟩ 0 =
        some ⟨⟨⟨2⟩, 0, ⟨4⟩, 0⟩, ⟨4⟩⟩ ∧
      ∀ other ∈ renewedContest.links, (other.target = ⟨4⟩ ∧ other.targetPin = 0) ∧
        2 < other.id.val ∧ other.source ≠ ⟨1⟩ → 4 ≤ other.id.val := by
  have session : contestedBlur.Session fun _ => True :=
    Session.empty.afterEdits .builtin fun _ _ => trivial
  have restored : contestedBlur.Session fun _ => True :=
    session.rebuilt (Document.rebuild_ofGraph session.reachable .empty)
  have session : renewedContest.Session fun _ => True :=
    restored.afterEdits .builtin fun _ _ => trivial
  have oldest : renewedContest.inputLink? ⟨4⟩ 0 = some ⟨⟨⟨1⟩, 0, ⟨4⟩, 0⟩, ⟨2⟩⟩ := by
    decide +kernel
  have without_source : (renewedContest.removeNode ⟨1⟩).graph.inputLink? ⟨4⟩ 0 =
      some ⟨⟨⟨2⟩, 0, ⟨4⟩, 0⟩, ⟨4⟩⟩ := by
    decide +kernel
  obtain ⟨_, _, _, fed⟩ := session_oldest_first session
  have next := (fed ⟨4⟩ 0).2 ⟨⟨⟨1⟩, 0, ⟨4⟩, 0⟩, ⟨2⟩⟩ oldest
  rw [without_source] at next
  exact ⟨session, oldest, by decide +kernel, without_source, next.2.2.2⟩

end Graph
end TextureGraph
