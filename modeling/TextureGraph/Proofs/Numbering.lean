import TextureGraph.Proofs.LinkAdmission

/-!
# Numbers are never given out twice

Along a run of edits each counter gives out its numbers one after the other and moves only when it
gives one out.  No number given out is ever given out again or was in use before the run, and a
counter that has reached its end refuses every further addition.
-/

namespace TextureGraph

/-- A counter that stood at `start` has given out the numbers of the list, one after the other, and
stands at `finish`. -/
structure Numbered (start : UInt32) (given : List UInt32) (finish : UInt32) : Prop where
  consecutive : given.map UInt32.toNat = List.range' start.toNat given.length
  finish_eq : finish.toNat = start.toNat + given.length

namespace Numbered

theorem nil (next : UInt32) : Numbered next [] next :=
  ⟨rfl, rfl⟩

theorem single {next : UInt32} (unfinished : next ≠ lastId) : Numbered next [next] (next + 1) where
  consecutive := rfl
  finish_eq := toNat_add_one unfinished

theorem append {start middle finish : UInt32} {first second : List UInt32}
    (before : Numbered start first middle) (after : Numbered middle second finish) :
    Numbered start (first ++ second) finish where
  consecutive := by
    rw [List.map_append, before.consecutive, after.consecutive, before.finish_eq,
      List.range'_append_1, List.length_append]
  finish_eq := by
    rw [after.finish_eq, before.finish_eq, List.length_append, Nat.add_assoc]

theorem finish_eq_start {start finish : UInt32} (numbered : Numbered start [] finish) :
    finish = start :=
  UInt32.toNat_inj.mp numbered.finish_eq

theorem start_le {start finish : UInt32} {given : List UInt32}
    (numbered : Numbered start given finish) : start ≤ finish := by
  rw [UInt32.le_iff_toNat_le, numbered.finish_eq]
  exact Nat.le_add_right _ _

theorem start_le_of_mem {start finish id : UInt32} {given : List UInt32}
    (numbered : Numbered start given finish) (member : id ∈ given) : start ≤ id := by
  have listed := List.mem_map_of_mem (f := UInt32.toNat) member
  rw [numbered.consecutive, List.mem_range'_1] at listed
  exact UInt32.le_iff_toNat_le.mpr listed.1

/-- A counter that has reached its end gives out nothing. -/
theorem start_ne_lastId {start finish id : UInt32} {given : List UInt32}
    (numbered : Numbered start given finish) (member : id ∈ given) : start ≠ lastId := by
  have bound : finish.toNat < UInt32.size := finish.toNat_lt
  have given_pos : 0 < given.length := List.length_pos_of_mem member
  rw [numbered.finish_eq] at bound
  exact ne_lastId_iff.mpr (by omega)

/-- What a counter gives out is new if the counter stood above all numbers in use. -/
theorem nodup_append {α : Type} {val : α → UInt32} {start finish : UInt32} {used given : List α}
    (numbered : Numbered start (given.map val) finish) (above : CounterAbove start (used.map val))
    (used_nodup : used.Nodup) : (used ++ given).Nodup := by
  have given_nodup : given.Nodup := by
    apply List.Nodup.of_map (UInt32.toNat ∘ val)
    rw [← List.map_map, numbered.consecutive]
    exact List.nodup_range'
  refine used_nodup.append given_nodup fun id old new => ?_
  have old : val id ∈ used.map val := List.mem_map_of_mem old
  have new : val id ∈ given.map val := List.mem_map_of_mem new
  rcases above with last | below
  · exact numbered.start_ne_lastId new last
  · exact UInt32.not_le.mpr (below _ old) (numbered.start_le_of_mem new)

end Numbered

/-! ## What an edit gives out -/

namespace Edit

/-- The number of the node that an edit adds. -/
def newNode? (edit : Edit) (catalogue : Catalogue) (graph : Graph) : Option NodeId :=
  match edit with
  | addNode typeName position => (graph.addNode catalogue typeName position).result.toOption
  | _ => none

/-- The number of the link that an edit adds. -/
def newLink? (edit : Edit) (graph : Graph) : Option LinkId :=
  match edit with
  | addLink connection => (graph.addLink connection).result.toOption
  | connect connection => (graph.connect connection).result.toOption
  | _ => none

end Edit

namespace Graph

/-- The numbers of the nodes that a run of edits adds, in the order of the edits. -/
def newNodes (graph : Graph) (catalogue : Catalogue) : List Edit → List NodeId
  | [] => []
  | edit :: edits =>
      (edit.newNode? catalogue graph).toList ++
        (edit.apply catalogue graph).newNodes catalogue edits

/-- The numbers of the links that a run of edits adds, in the order of the edits. -/
def newLinks (graph : Graph) (catalogue : Catalogue) : List Edit → List LinkId
  | [] => []
  | edit :: edits =>
      (edit.newLink? graph).toList ++
        (edit.apply catalogue graph).newLinks catalogue edits

/-- How the counters move when an edit adds a node, a link or neither. -/
inductive Counted (before after : Graph) : Option NodeId → Option LinkId → Prop
  | neither :
      after.nextNodeId = before.nextNodeId →
      after.nextLinkId = before.nextLinkId →
      Counted before after none none
  | node :
      before.nextNodeId ≠ lastId →
      after.nextNodeId = before.nextNodeId + 1 →
      after.nextLinkId = before.nextLinkId →
      Counted before after (some ⟨before.nextNodeId⟩) none
  | link :
      before.nextLinkId ≠ lastId →
      after.nextNodeId = before.nextNodeId →
      after.nextLinkId = before.nextLinkId + 1 →
      Counted before after none (some ⟨before.nextLinkId⟩)

theorem Counted.nodes {before after : Graph} {node? : Option NodeId} {link? : Option LinkId}
    (counted : Counted before after node? link?) :
    Numbered before.nextNodeId (node?.toList.map NodeId.val) after.nextNodeId := by
  cases counted with
  | neither kept _ | link _ kept _ =>
      rw [kept]
      exact .nil _
  | node unfinished moved _ =>
      rw [moved]
      exact .single unfinished

theorem Counted.links {before after : Graph} {node? : Option NodeId} {link? : Option LinkId}
    (counted : Counted before after node? link?) :
    Numbered before.nextLinkId (link?.toList.map LinkId.val) after.nextLinkId := by
  cases counted with
  | neither _ kept | node _ _ kept =>
      rw [kept]
      exact .nil _
  | link unfinished _ moved =>
      rw [moved]
      exact .single unfinished

theorem counted_addNode (graph : Graph) (catalogue : Catalogue) (typeName : String)
    (position : Vec2) :
    Counted graph (graph.addNode catalogue typeName position).graph
      (graph.addNode catalogue typeName position).result.toOption none := by
  unfold addNode
  cases catalogue.get? typeName with
  | none => exact .neither rfl rfl
  | some type =>
      dsimp only
      cases counted : nextId? graph.nextNodeId with
      | none => exact .neither rfl rfl
      | some next =>
          obtain ⟨unfinished, rfl⟩ := nextId?_eq_some_iff.mp counted
          exact .node unfinished rfl rfl

theorem counted_addLink (graph : Graph) (connection : Connection) :
    Counted graph (graph.addLink connection).graph none
      (graph.addLink connection).result.toOption := by
  unfold addLink
  cases graph.checkEnds connection.source connection.target with
  | error error => exact .neither rfl rfl
  | ok =>
      dsimp only
      cases counted : nextId? graph.nextLinkId with
      | none => exact .neither rfl rfl
      | some next =>
          obtain ⟨unfinished, rfl⟩ := nextId?_eq_some_iff.mp counted
          exact .link unfinished rfl rfl

theorem counted_connect (graph : Graph) (connection : Connection) :
    Counted graph (graph.connect connection).graph none
      (graph.connect connection).result.toOption := by
  cases allowed : graph.canConnect connection with
  | error error =>
      rw [connect, allowed]
      exact .neither rfl rfl
  | ok =>
      rw [connect_eq_addLink allowed]
      exact graph.counted_addLink connection

theorem counted_reviseNode (graph : Graph) (id : NodeId) (revise : Node → Option Node) :
    Counted graph
      (((graph.node? id).bind fun node =>
        (revise node).map fun revised => graph.replaceNode revised).getD graph) none none := by
  cases graph.node? id with
  | none => exact .neither rfl rfl
  | some node =>
      rw [Option.bind_some]
      cases revise node <;> exact .neither rfl rfl

/-- The counters move exactly when an edit adds something. -/
theorem counted_apply (graph : Graph) (catalogue : Catalogue) (edit : Edit) :
    Counted graph (edit.apply catalogue graph) (edit.newNode? catalogue graph)
      (edit.newLink? graph) := by
  cases edit with
  | addNode typeName position => exact graph.counted_addNode catalogue typeName position
  | removeNode id =>
      simp only [Edit.apply, removeNode]
      cases graph.node? id <;> exact .neither rfl rfl
  | addLink connection => exact graph.counted_addLink connection
  | connect connection => exact graph.counted_connect connection
  | removeLink id =>
      simp only [Edit.apply, removeLink]
      cases graph.link? id <;> exact .neither rfl rfl
  | clear => exact .neither rfl rfl
  | setInputDefault id pin value =>
      exact graph.counted_reviseNode id fun node => node.setInputDefault? pin value
  | setOutputDefault id pin value =>
      exact graph.counted_reviseNode id fun node => node.setOutputDefault? pin value
  | setPosition id position =>
      simp only [Edit.apply, setPosition?]
      cases graph.node? id <;> exact .neither rfl rfl

/-! ## Runs of edits -/

theorem numbered_newNodes (graph : Graph) (catalogue : Catalogue) (edits : List Edit) :
    Numbered graph.nextNodeId ((graph.newNodes catalogue edits).map NodeId.val)
      (graph.afterEdits catalogue edits).nextNodeId := by
  induction edits generalizing graph with
  | nil => exact .nil _
  | cons edit edits induction =>
      rw [newNodes, List.map_append]
      exact (graph.counted_apply catalogue edit).nodes.append (induction _)

theorem numbered_newLinks (graph : Graph) (catalogue : Catalogue) (edits : List Edit) :
    Numbered graph.nextLinkId ((graph.newLinks catalogue edits).map LinkId.val)
      (graph.afterEdits catalogue edits).nextLinkId := by
  induction edits generalizing graph with
  | nil => exact .nil _
  | cons edit edits induction =>
      rw [newLinks, List.map_append]
      exact (graph.counted_apply catalogue edit).links.append (induction _)

/-! ## The end of the numbers -/

/-- An addition gets the next number of a counter; when the counter has reached its end, it is
refused for that reason and changes nothing. -/
def GrantsNext {α : Type} (graph : Graph) (next : UInt32) (number : UInt32 → α)
    (edited : Edited (Except GraphError α)) : Prop :=
  if next = lastId then edited.result = .error .idsExhausted ∧ edited.graph = graph
  else edited.result = .ok (number next)

theorem grantsNext_addNode {graph : Graph} {catalogue : Catalogue} {typeName : String}
    (known : (catalogue.get? typeName).isSome = true) (position : Vec2) :
    graph.GrantsNext graph.nextNodeId NodeId.mk (graph.addNode catalogue typeName position) := by
  obtain ⟨type, found⟩ := Option.isSome_iff_exists.mp known
  rw [addNode, found, GrantsNext]
  split_ifs with last
  · rw [nextId?_eq_none_iff.mpr last]
    exact ⟨rfl, rfl⟩
  · rw [nextId?_eq_some_iff.mpr ⟨last, rfl⟩]

theorem grantsNext_addLink {graph : Graph} {connection : Connection}
    (sound : graph.checkEnds connection.source connection.target = .ok ()) :
    graph.GrantsNext graph.nextLinkId LinkId.mk (graph.addLink connection) := by
  rw [addLink, sound, GrantsNext]
  split_ifs with last
  · rw [nextId?_eq_none_iff.mpr last]
    exact ⟨rfl, rfl⟩
  · rw [nextId?_eq_some_iff.mpr ⟨last, rfl⟩]

/-- Along every run of edits that begins at a reachable graph, the numbers of the added nodes and of
the added links follow each other without a gap from the counter onwards; none repeats an earlier
one or one that the graph had at the beginning, whatever was removed since.  Edits that add nothing
keep the counters, and an addition that passes the other checks gets the next number or, when there
is none, is refused for that reason and changes nothing. -/
theorem numbers_never_reused {start : Graph} (reachable : start.Reachable) (catalogue : Catalogue)
    (edits : List Edit) :
    let finish := start.afterEdits catalogue edits
    Numbered start.nextNodeId ((start.newNodes catalogue edits).map NodeId.val)
        finish.nextNodeId ∧
      Numbered start.nextLinkId ((start.newLinks catalogue edits).map LinkId.val)
        finish.nextLinkId ∧
      (start.nodeIds ++ start.newNodes catalogue edits).Nodup ∧
      ((start.links.map fun link => link.id) ++ start.newLinks catalogue edits).Nodup ∧
      (∀ edit : Edit, edit.newNode? catalogue finish = none →
        (edit.apply catalogue finish).nextNodeId = finish.nextNodeId) ∧
      (∀ edit : Edit, edit.newLink? finish = none →
        (edit.apply catalogue finish).nextLinkId = finish.nextLinkId) ∧
      (∀ typeName position, (catalogue.get? typeName).isSome = true →
        finish.GrantsNext finish.nextNodeId NodeId.mk
          (finish.addNode catalogue typeName position)) ∧
      (∀ connection, finish.checkEnds connection.source connection.target = .ok () →
        finish.GrantsNext finish.nextLinkId LinkId.mk (finish.addLink connection)) ∧
      ∀ connection, finish.canConnect connection = .ok () →
        finish.GrantsNext finish.nextLinkId LinkId.mk (finish.connect connection) := by
  intro finish
  have intact := reachable.intact
  have nodes := start.numbered_newNodes catalogue edits
  have links := start.numbered_newLinks catalogue edits
  refine ⟨nodes, links, nodes.nodup_append intact.nodeCounter_above intact.nodeIds_nodup,
    links.nodup_append intact.linkCounter_above intact.linkIds_nodup, fun edit nothing => ?_,
    fun edit nothing => ?_, fun _ position known => grantsNext_addNode known position,
    fun _ sound => grantsNext_addLink sound, fun connection allowed => ?_⟩
  · have nodes := (finish.counted_apply catalogue edit).nodes
    rw [nothing] at nodes
    exact nodes.finish_eq_start
  · have links := (finish.counted_apply catalogue edit).links
    rw [nothing] at links
    exact links.finish_eq_start
  · rw [connect_eq_addLink allowed]
    exact grantsNext_addLink (canConnect_eq_ok_iff.mp allowed).1

/-- A document with two node numbers left and no link number. -/
def lateDocument : Document where
  version := 1
  nodes := [7, 4294967292].map fun id => ⟨⟨id⟩, "Add", ⟨0.0, 0.0⟩, [], []⟩
  links := [⟨⟨⟨7⟩, 0, ⟨4294967292⟩, 0⟩, ⟨4294967295⟩⟩]
  nextNodeId := 0
  nextLinkId := 3

/-- The built-in types and one more, whose instances are made without pins and under its full
name. -/
def framedCatalogue : Catalogue :=
  Catalogue.builtin.insert
    { name := "Frame"
      category := "Layout"
      inputs := [.input "Title" .string]
      outputs := []
      constructor? := some
        { make := fun template id _ => ⟨id, template.fullName, ⟨-1.0, -1.0⟩, [], []⟩
          make_id := fun _ _ _ => rfl } }

/-- Adds, removes and clears until the node numbers are used up. -/
def lateEdits : List Edit :=
  [.addNode "Blur" ⟨0.0, 0.0⟩, .removeNode ⟨4294967293⟩, .addLink ⟨⟨4294967292⟩, 0, ⟨7⟩, 0⟩,
    .removeLink ⟨4294967295⟩, .addLink ⟨⟨4294967292⟩, 0, ⟨7⟩, 0⟩,
    .addNode "No such type" ⟨0.0, 0.0⟩, .clear,
    .addNode "Frame" ⟨0.0, 0.0⟩, .addNode "Blur" ⟨0.0, 0.0⟩]

/-- The last number goes to a node that a constructor makes. -/
theorem numbers_never_reused_lateDocument :
    (lateDocument.rebuild framedCatalogue).result = .ok lateDocument.toGraph ∧
      lateDocument.toGraph.newNodes framedCatalogue lateEdits = [⟨4294967293⟩, ⟨4294967294⟩] ∧
      lateDocument.toGraph.newLinks framedCatalogue lateEdits = [] ∧
      (lateDocument.toGraph.nodeIds ++
        lateDocument.toGraph.newNodes framedCatalogue lateEdits).Nodup ∧
      (lateDocument.toGraph.afterEdits framedCatalogue lateEdits).nodes =
        [⟨⟨4294967294⟩, "Layout/Frame", ⟨-1.0, -1.0⟩, [], []⟩] ∧
      ((lateDocument.toGraph.afterEdits framedCatalogue lateEdits).addNode framedCatalogue "Blur"
        ⟨0.0, 0.0⟩).result = .error .idsExhausted := by
  have rebuilt : (lateDocument.rebuild framedCatalogue).result = .ok lateDocument.toGraph := by
    decide +kernel
  have used_up :
      (lateDocument.toGraph.afterEdits framedCatalogue lateEdits).nextNodeId = lastId := by
    decide +kernel
  obtain ⟨_, _, fresh, _, _, _, grants, _⟩ :=
    numbers_never_reused (.rebuilt rebuilt) framedCatalogue lateEdits
  have refused := grants "Blur" ⟨0.0, 0.0⟩ (by decide +kernel)
  rw [GrantsNext, if_pos used_up] at refused
  exact ⟨rebuilt, by decide +kernel, by decide +kernel, fresh, by decide +kernel, refused.1⟩

end Graph
end TextureGraph
