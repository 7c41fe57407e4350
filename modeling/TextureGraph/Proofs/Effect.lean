import TextureGraph.Proofs.LinkAdmission

/-!
# What an edit does

An edit leaves the graph as it is or does one thing to it, and what it has checked before holds.
Laws about every edit follow by going through these effects.
-/

namespace TextureGraph

/-! ## Pins -/

/-- What a connection asks of a pin. -/
def Pin.kind (pin : Pin) : Direction × ValueType :=
  (pin.direction, pin.type)

/-- The second node has, place by place, pins of the same directions and types. -/
structure Node.SamePins (node other : Node) : Prop where
  inputs : other.inputs.map Pin.kind = node.inputs.map Pin.kind
  outputs : other.outputs.map Pin.kind = node.outputs.map Pin.kind

theorem Node.SamePins.refl (node : Node) : node.SamePins node :=
  ⟨rfl, rfl⟩

/-- Another default value leaves the kinds of a list of pins as they were. -/
theorem map_kind_set {pins : List Pin} {place : Nat} {pin : Pin} (found : pins[place]? = some pin)
    (value : Value) :
    (pins.set place { pin with default := value }).map Pin.kind = pins.map Pin.kind := by
  obtain ⟨within, rfl⟩ := List.getElem?_eq_some_iff.mp found
  have within_kinds : place < (pins.map Pin.kind).length := by
    rwa [List.length_map]
  have same : Pin.kind { pins[place] with default := value } = (pins.map Pin.kind)[place] := by
    rw [List.getElem_map]
    rfl
  rw [List.map_set, same, List.set_getElem_self]

namespace Graph

/-! ## The graph after an edit -/

/-- The graph with a further node, which has taken the next number. -/
def withNode (graph : Graph) (node : Node) : Graph :=
  { graph with nodes := graph.nodes ++ [node], nextNodeId := graph.nextNodeId + 1 }

/-- The graph with a further link, which has taken the next number. -/
def withLink (graph : Graph) (connection : Connection) : Graph :=
  { graph with
    links := graph.links ++ [{ connection with id := ⟨graph.nextLinkId⟩ }]
    nextLinkId := graph.nextLinkId + 1 }

/-- The graph without a node and the links that begin or end there. -/
def withoutNode (graph : Graph) (id : NodeId) : Graph :=
  { graph with
    nodes := graph.nodes.filter fun node => node.id ≠ id
    links := graph.links.filter fun link => !link.involves id }

/-- The graph without a link. -/
def withoutLink (graph : Graph) (id : LinkId) : Graph :=
  { graph with links := graph.links.filter fun link => link.id ≠ id }

/-- What an edit may do to a graph, with what it has checked before. -/
inductive Effect (graph : Graph) : Edit → Graph → Prop
  | unchanged (edit : Edit) : Effect graph edit graph
  | addsNode {typeName : String} {position : Vec2} {node : Node} :
      graph.nextNodeId ≠ lastId →
      node.id = ⟨graph.nextNodeId⟩ →
      Effect graph (.addNode typeName position) (graph.withNode node)
  | removesNode (id : NodeId) : Effect graph (.removeNode id) (graph.withoutNode id)
  | addsLink {connection : Connection} :
      graph.nextLinkId ≠ lastId →
      graph.checkEnds connection.source connection.target = .ok () →
      Effect graph (.addLink connection) (graph.withLink connection)
  | connectsLink {connection : Connection} :
      graph.nextLinkId ≠ lastId →
      graph.checkEnds connection.source connection.target = .ok () →
      graph.PinsFit connection →
      Effect graph (.connect connection) (graph.withLink connection)
  | removesLink (id : LinkId) : Effect graph (.removeLink id) (graph.withoutLink id)
  | clears : Effect graph .clear graph.clear
  | revisesNode (edit : Edit) {id : NodeId} {node revised : Node} :
      graph.node? id = some node →
      revised.id = node.id →
      node.SamePins revised →
      Effect graph edit (graph.replaceNode revised)

theorem effect_addNode (graph : Graph) (catalogue : Catalogue) (typeName : String)
    (position : Vec2) :
    graph.Effect (.addNode typeName position)
      (graph.addNode catalogue typeName position).graph := by
  unfold addNode
  cases catalogue.get? typeName with
  | none => exact .unchanged _
  | some type =>
      dsimp only
      cases counted : nextId? graph.nextNodeId with
      | none => exact .unchanged _
      | some next =>
          obtain ⟨unfinished, rfl⟩ := nextId?_eq_some_iff.mp counted
          exact .addsNode unfinished (type.id_instantiate ⟨graph.nextNodeId⟩ position)

/-- A link that is added has taken the next number after its ends were checked. -/
theorem addLink_eq_ok_iff {graph : Graph} {connection : Connection} :
    (∃ id, (graph.addLink connection).result = .ok id) ↔
      graph.nextLinkId ≠ lastId ∧
        graph.checkEnds connection.source connection.target = .ok () := by
  unfold addLink
  cases graph.checkEnds connection.source connection.target with
  | error error => simp
  | ok =>
      dsimp only
      cases counted : nextId? graph.nextLinkId with
      | none => simp [nextId?_eq_none_iff.mp counted]
      | some next => simp [(nextId?_eq_some_iff.mp counted).1]

theorem addLink_graph_of_ok {graph : Graph} {connection : Connection}
    (unfinished : graph.nextLinkId ≠ lastId)
    (sound : graph.checkEnds connection.source connection.target = .ok ()) :
    (graph.addLink connection).graph = graph.withLink connection := by
  rw [addLink, sound, nextId?_eq_some_iff.mpr ⟨unfinished, rfl⟩]
  rfl

theorem addLink_graph_of_error {graph : Graph} {connection : Connection} {error : GraphError}
    (refused : (graph.addLink connection).result = .error error) :
    (graph.addLink connection).graph = graph := by
  rw [addLink_graph_eq, refused]

theorem effect_addLink (graph : Graph) (connection : Connection) :
    graph.Effect (.addLink connection) (graph.addLink connection).graph := by
  cases result : (graph.addLink connection).result with
  | error error =>
      rw [addLink_graph_of_error result]
      exact .unchanged _
  | ok id =>
      obtain ⟨unfinished, sound⟩ := addLink_eq_ok_iff.mp ⟨id, result⟩
      rw [addLink_graph_of_ok unfinished sound]
      exact .addsLink unfinished sound

theorem effect_connect (graph : Graph) (connection : Connection) :
    graph.Effect (.connect connection) (graph.connect connection).graph := by
  cases result : (graph.connect connection).result with
  | error error =>
      rw [connect_graph_of_error result]
      exact .unchanged _
  | ok id =>
      have allowed := canConnect_eq_ok_of_connect result
      obtain ⟨sound, fit⟩ := canConnect_eq_ok_iff.mp allowed
      rw [connect_eq_addLink allowed] at result ⊢
      obtain ⟨unfinished, _⟩ := addLink_eq_ok_iff.mp ⟨id, result⟩
      rw [addLink_graph_of_ok unfinished sound]
      exact .connectsLink unfinished sound fit

theorem removeNode_graph_of_mem {graph : Graph} {id : NodeId} (member : id ∈ graph.nodeIds) :
    (graph.removeNode id).graph = graph.withoutNode id := by
  obtain ⟨node, found⟩ := exists_node?_of_mem member
  rw [removeNode, found]
  rfl

/-- Removing a link that is not there leaves out nothing. -/
theorem removeLink_graph (graph : Graph) (id : LinkId) :
    (graph.removeLink id).graph = graph.withoutLink id := by
  rw [removeLink]
  cases found : graph.link? id with
  | some link => rfl
  | none =>
      have all_kept : (graph.links.filter fun link => link.id ≠ id) = graph.links := by
        refine List.filter_eq_self.mpr fun link member => ?_
        simpa using List.find?_eq_none.mp found link member
      rw [withoutLink, all_kept]

/-- An edit of one node that keeps its number and its pins. -/
theorem effect_reviseNode (graph : Graph) (edit : Edit) (id : NodeId)
    {revise : Node → Option Node}
    (keeps : ∀ node revised, revise node = some revised →
      revised.id = node.id ∧ node.SamePins revised) :
    graph.Effect edit
      (((graph.node? id).bind fun node =>
        (revise node).map fun revised => graph.replaceNode revised).getD graph) := by
  cases found : graph.node? id with
  | none => exact .unchanged edit
  | some node =>
      rw [Option.bind_some]
      cases result : revise node with
      | none => exact .unchanged edit
      | some revised =>
          obtain ⟨same_id, same_pins⟩ := keeps node revised result
          exact .revisesNode edit found same_id same_pins

/-- Every edit, granted or refused, has one of the effects. -/
theorem effect_apply (graph : Graph) (catalogue : Catalogue) (edit : Edit) :
    graph.Effect edit (edit.apply catalogue graph) := by
  cases edit with
  | addNode typeName position => exact graph.effect_addNode catalogue typeName position
  | removeNode id =>
      simp only [Edit.apply, removeNode]
      cases graph.node? id with
      | none => exact .unchanged _
      | some node => exact .removesNode id
  | addLink connection => exact graph.effect_addLink connection
  | connect connection => exact graph.effect_connect connection
  | removeLink id =>
      rw [Edit.apply, removeLink_graph]
      exact .removesLink id
  | clear => exact .clears
  | setInputDefault id pin value =>
      refine graph.effect_reviseNode _ id fun node revised result => ?_
      obtain ⟨old, found, rfl⟩ := Option.map_eq_some_iff.mp result
      exact ⟨rfl, map_kind_set found value, rfl⟩
  | setOutputDefault id pin value =>
      refine graph.effect_reviseNode _ id fun node revised result => ?_
      obtain ⟨old, found, rfl⟩ := Option.map_eq_some_iff.mp result
      exact ⟨rfl, rfl, map_kind_set found value⟩
  | setPosition id position =>
      simp only [Edit.apply, setPosition?]
      cases found : graph.node? id with
      | none => exact .unchanged _
      | some node => exact .revisesNode _ found rfl ⟨rfl, rfl⟩

end Graph
end TextureGraph
