import TextureGraph.Proofs.Failure

/-!
# What evaluation can see

Evaluation sees of a graph only what lies upstream of the requested node: whether a node exists, its
type, the default values of its inputs, how many outputs it has, and the source of the oldest link
into each of its inputs.  Two graphs that agree on these give the same values and failures there,
and so do the graphs before and after any run of changes that touch nothing of this.
-/

namespace TextureGraph

/-! ## Formulas -/

namespace Reading

theorem run_congr {width : Nat} {α : Type} (reading : Reading width α) {inputs other : Inputs}
    (settings : inputs.settings = other.settings) (sample : inputs.sample = other.sample)
    (connected : ∀ pin : UInt64, pin.toNat < width →
      inputs.isConnected pin = other.isConnected pin)
    (resolve : ∀ pin : UInt64, pin.toNat < width → inputs.resolve pin = other.resolve pin) :
    reading.run inputs = reading.run other := by
  induction reading with
  | done result => rfl
  | resolution next induction =>
      rw [run, run, settings]
      exact induction _
  | sample next induction =>
      rw [run, run, sample]
      exact induction _
  | connected pin declared next induction =>
      rw [run, run, connected pin declared]
      exact induction _
  | value pin declared point next induction =>
      rw [run, run, resolve pin declared]
      exact bind_congr fun answer => induction answer

end Reading

/-- A built-in formula depends on the settings, the sample point and the declared inputs alone. -/
theorem Operation.formula_congr (operation : Operation) (outputPin : UInt64)
    {inputs other : Inputs} (settings : inputs.settings = other.settings)
    (sample : inputs.sample = other.sample)
    (connected : ∀ pin : UInt64, pin.toNat < operation.inputs.length →
      inputs.isConnected pin = other.isConnected pin)
    (resolve : ∀ pin : UInt64, pin.toNat < operation.inputs.length →
      inputs.resolve pin = other.resolve pin) :
    operation.formula inputs outputPin = operation.formula other outputPin := by
  obtain ⟨reading, runs⟩ := operation.formula_isReading outputPin
  dsimp only at runs
  rw [runs, runs]
  exact reading.run_congr settings sample connected resolve

/-! ## Agreement of graphs -/

/-- Two nodes that evaluation cannot tell apart. -/
structure Node.Alike (node other : Node) : Prop where
  typeName : node.typeName = other.typeName
  defaults : node.inputs.map Pin.default = other.inputs.map Pin.default
  outputs : node.outputs.length = other.outputs.length

namespace Graph

/-- The output pin that feeds an input pin, by the oldest link into it. -/
def feed? (graph : Graph) (id : NodeId) (pin : UInt64) : Option (NodeId × UInt64) :=
  (graph.inputLink? id pin).map fun link => (link.source, link.sourcePin)

/-- A region that contains, with each of its nodes, the sources of the oldest links into it. -/
def ClosedUpstream (graph : Graph) (region : Set NodeId) : Prop :=
  ∀ id ∈ region, id ∈ graph.nodeIds → ∀ pin source, graph.feed? id pin = some source →
    source.1 ∈ region

/-- Agreement of two graphs on a region: the same nodes exist, those that do are alike, and their
inputs are fed from the same output pins. -/
structure AgreeOn (graph other : Graph) (region : Set NodeId) : Prop where
  nodes : ∀ id ∈ region, Option.Rel Node.Alike (graph.node? id) (other.node? id)
  feeds : ∀ id ∈ region, id ∈ graph.nodeIds → ∀ pin, graph.feed? id pin = other.feed? id pin

theorem isSome_feed? (graph : Graph) (id : NodeId) (pin : UInt64) :
    (graph.feed? id pin).isSome = (graph.inputLink? id pin).isSome := by
  simp [feed?]

theorem AgreeOn.present_iff {graph other : Graph} {region : Set NodeId}
    (agree : graph.AgreeOn other region) {id : NodeId} (inside : id ∈ region) :
    id ∈ graph.nodeIds ↔ id ∈ other.nodeIds := by
  have nodes := agree.nodes id inside
  rw [← not_iff_not, ← node?_eq_none_iff, ← node?_eq_none_iff]
  generalize graph.node? id = found at nodes ⊢
  generalize other.node? id = found_other at nodes ⊢
  cases nodes <;> simp

/-- A region that is closed in one graph is closed in every graph that agrees on it. -/
theorem ClosedUpstream.of_agreeOn {graph other : Graph} {region : Set NodeId}
    (closed : graph.ClosedUpstream region) (agree : graph.AgreeOn other region) :
    other.ClosedUpstream region := by
  intro id inside present pin source fed
  have before := (agree.present_iff inside).mpr present
  exact closed id inside before pin source (agree.feeds id inside before pin ▸ fed)

end Graph

/-! ## Evaluation in agreeing graphs -/

namespace Evaluator

theorem inputsFrom_resolve (evaluator : Evaluator) (graph : Graph) (known : NodeId → Meaning)
    (node : Node) (sample : Vec2) (pin : UInt64) (point : Vec2) :
    (evaluator.inputsFrom graph known node sample).resolve pin point =
      match graph.feed? node.id pin with
      | some source => some <$> known source.1 source.2 point
      | none => .ok (node.inputs.map Pin.default)[pin.toNat]? := by
  simp only [inputsFrom, Graph.feed?, List.getElem?_map, Node.input?]
  cases graph.inputLink? node.id pin <;> rfl

/-- Nodes of one type with as many outputs have the same meaning when the inputs that the type's
formula may read have the same default values and are fed from the same output pins. -/
theorem meaning_eq_of_read {evaluator : Evaluator} {graph otherGraph : Graph}
    {known otherKnown : NodeId → Meaning} {node other : Node} (read : UInt64 → Prop)
    (reads : ∀ formula, evaluator.formula? node.typeName = some formula →
      ∃ operation : Operation, formula = operation.formula ∧
        ∀ pin : UInt64, pin.toNat < operation.inputs.length → read pin)
    (same_id : node.id = other.id) (typeName : node.typeName = other.typeName)
    (outputs : node.outputs.length = other.outputs.length)
    (defaults : ∀ pin, read pin →
      (node.inputs.map Pin.default)[pin.toNat]? = (other.inputs.map Pin.default)[pin.toNat]?)
    (feeds : ∀ pin, read pin → graph.feed? node.id pin = otherGraph.feed? node.id pin)
    (sources : ∀ pin source, graph.feed? node.id pin = some source →
      known source.1 = otherKnown source.1) :
    evaluator.meaning graph known node = evaluator.meaning otherGraph otherKnown other := by
  funext outputPin sample
  rw [meaning, meaning, ← outputs, ← typeName, same_id]
  split_ifs with beyond
  · rfl
  · cases known_formula : evaluator.formula? node.typeName with
    | none => rfl
    | some formula =>
        obtain ⟨operation, rfl, within⟩ := reads formula known_formula
        refine operation.formula_congr outputPin rfl rfl (fun pin place => ?_)
          (fun pin place => ?_)
        · change (graph.inputLink? node.id pin).isSome = (otherGraph.inputLink? other.id pin).isSome
          rw [← Graph.isSome_feed?, ← Graph.isSome_feed?, feeds pin (within pin place), same_id]
        · funext point
          rw [inputsFrom_resolve, inputsFrom_resolve, ← same_id, ← feeds pin (within pin place),
            defaults pin (within pin place)]
          cases fed : graph.feed? node.id pin with
          | none => rfl
          | some source => simp only [sources pin source fed]

/-- Evaluation of a node in two graphs is the same if neither has it or both do, with the same
meaning. -/
theorem evaluateWithin_succ_congr {evaluator : Evaluator} {graph other : Graph}
    {related : Node → Node → Prop} {id : NodeId}
    (nodes : Option.Rel related (graph.node? id) (other.node? id)) {levels : Nat}
    (meanings : ∀ node otherNode, graph.node? id = some node → other.node? id = some otherNode →
      related node otherNode →
        evaluator.meaning graph (evaluator.evaluateWithin graph levels) node =
          evaluator.meaning other (evaluator.evaluateWithin other levels) otherNode) :
    evaluator.evaluateWithin graph (levels + 1) id =
      evaluator.evaluateWithin other (levels + 1) id := by
  cases found : graph.node? id with
  | none =>
      cases found_other : other.node? id with
      | none =>
          funext outputPin sample
          rw [evaluateWithin_of_absent found, evaluateWithin_of_absent found_other]
      | some otherNode =>
          rw [found, found_other] at nodes
          nomatch nodes
  | some node =>
      cases found_other : other.node? id with
      | none =>
          rw [found, found_other] at nodes
          nomatch nodes
      | some otherNode =>
          rw [found, found_other] at nodes
          obtain ⟨alike⟩ := nodes
          rw [evaluateWithin_succ found, evaluateWithin_succ found_other]
          exact meanings node otherNode found found_other alike

/-- Inside a region that is closed in one of two agreeing graphs, evaluation gives the same in
both. -/
theorem evaluateWithin_eq_of_agreeOn {evaluator : Evaluator}
    (ofOperations : evaluator.OfOperations) {graph other : Graph} {region : Set NodeId}
    (closed : graph.ClosedUpstream region) (agree : graph.AgreeOn other region) (levels : Nat)
    {id : NodeId} (inside : id ∈ region) :
    evaluator.evaluateWithin graph levels id = evaluator.evaluateWithin other levels id := by
  induction levels generalizing id with
  | zero => rfl
  | succ levels induction =>
      refine evaluateWithin_succ_congr (agree.nodes id inside) ?_
      intro node otherNode found found_other alike
      have same_id := (Graph.id_of_node? found).trans (Graph.id_of_node? found_other).symm
      obtain rfl := Graph.id_of_node? found
      have present : node.id ∈ graph.nodeIds := List.mem_map_of_mem (Graph.mem_of_node? found)
      refine meaning_eq_of_read (fun _ => True) (fun formula known => ?_) same_id alike.typeName
        alike.outputs (fun _ _ => by rw [alike.defaults])
        (fun pin _ => agree.feeds _ inside present pin) (fun pin source fed => ?_)
      · obtain ⟨operation, rfl⟩ := ofOperations.exists_operation known
        exact ⟨operation, rfl, fun _ _ => trivial⟩
      · exact induction (closed _ inside present pin source fed)

end Evaluator

/-! ## Changes that cannot be seen -/

/-- Edits that keep away from what evaluation in a region can see: no node there is added, removed
or given another input, and no link into it becomes or ceases to be the oldest into its pin. -/
def Edit.Spares (region : Set NodeId) (graph : Graph) : Edit → Prop
  | addNode _ _ => ⟨graph.nextNodeId⟩ ∉ region
  | removeNode id => id ∉ region
  | addLink connection | connect connection =>
      connection.target ∈ region →
        (graph.inputLink? connection.target connection.targetPin).isSome
  | removeLink id =>
      ∀ link ∈ graph.links, link.id = id → link.target ∈ region →
        graph.inputLink? link.target link.targetPin ≠ some link
  | clear => ∀ id ∈ region, id ∉ graph.nodeIds
  | setInputDefault id _ _ => id ∉ region
  | setOutputDefault _ _ _ | setPosition _ _ => True

namespace Graph

/-- One change of a graph that evaluation in a region cannot see: an edit that spares the region, or
any redrawing of nodes (moving them, renaming their pins) after which those of the region are alike
to what they were. -/
inductive Unseen (region : Set NodeId) (graph : Graph) : Graph → Prop
  | edit (catalogue : Catalogue) (edit : Edit) :
      edit.Spares region graph → Unseen region graph (edit.apply catalogue graph)
  | redraw (redraw : Node → Node) :
      (∀ node, (redraw node).id = node.id) →
      (∀ id ∈ region, ∀ node, graph.node? id = some node → node.Alike (redraw node)) →
      Unseen region graph { graph with nodes := graph.nodes.map redraw }

variable {graph : Graph} {region : Set NodeId}

theorem AgreeOn.refl (graph : Graph) (region : Set NodeId) : graph.AgreeOn graph region where
  nodes id _ := by
    cases graph.node? id with
    | none => exact .none
    | some node => exact .some ⟨rfl, rfl, rfl⟩
  feeds _ _ _ _ := rfl

theorem node?_map {redraw : Node → Node} (same_id : ∀ node, (redraw node).id = node.id)
    (id : NodeId) :
    { graph with nodes := graph.nodes.map redraw }.node? id = (graph.node? id).map redraw := by
  simp only [node?, List.find?_map, Function.comp_def, same_id]

theorem agreeOn_map {redraw : Node → Node} (same_id : ∀ node, (redraw node).id = node.id)
    (alike : ∀ id ∈ region, ∀ node, graph.node? id = some node → node.Alike (redraw node)) :
    graph.AgreeOn { graph with nodes := graph.nodes.map redraw } region where
  nodes id inside := by
    rw [node?_map same_id]
    cases found : graph.node? id with
    | none => exact .none
    | some node => exact .some (alike id inside node found)
  feeds _ _ _ _ := rfl

/-- Putting a node in the place of another changes nothing in a region if the other is outside or
alike. -/
theorem agreeOn_replaceNode {id : NodeId} {node changed : Node}
    (found : graph.node? id = some node) (same_id : changed.id = node.id)
    (alike : id ∈ region → node.Alike changed) :
    graph.AgreeOn (graph.replaceNode changed) region := by
  refine agreeOn_map (fun old => ?_) (fun other inside old found_old => ?_)
  · split_ifs with same
    · exact same.symm
    · rfl
  · split_ifs with same
    · have same_place : id = other := by
        rw [← id_of_node? found, ← id_of_node? found_old, same, same_id]
      obtain rfl := same_place
      cases found.symm.trans found_old
      exact alike inside
    · exact ⟨rfl, rfl, rfl⟩

/-- Other nodes, or the same in another order, are not seen if the region finds its own. -/
theorem agreeOn_of_node?_eq {nodes : List Node} {nextNodeId : UInt32}
    (same : ∀ id ∈ region,
      { graph with nodes := nodes, nextNodeId := nextNodeId }.node? id = graph.node? id) :
    graph.AgreeOn { graph with nodes := nodes, nextNodeId := nextNodeId } region where
  nodes id inside := by
    rw [same id inside]
    exact (AgreeOn.refl graph region).nodes id inside
  feeds _ _ _ _ := rfl

theorem inputLink?_append {link : Link} (nextLinkId : UInt32) {id : NodeId} (pin : UInt64)
    (spared : link.target = id → (graph.inputLink? link.target link.targetPin).isSome) :
    { graph with links := graph.links ++ [link], nextLinkId := nextLinkId }.inputLink? id pin =
      graph.inputLink? id pin := by
  simp only [inputLink?, List.find?_append]
  cases fed : graph.links.find? fun link => link.feeds id pin with
  | some first => rfl
  | none =>
      have other_pin : link.feeds id pin = false := by
        by_contra feeds
        obtain ⟨same_target, same_pin⟩ := feeds_iff.mp (Bool.not_eq_false _ ▸ feeds)
        have some_link := spared same_target
        rw [same_target, same_pin, inputLink?, fed] at some_link
        simp at some_link
      simp [other_pin]

/-- A further link is not seen where it does not lead into the region, or comes after an older one
into the same pin. -/
theorem agreeOn_addLink (connection : Connection)
    (spared : connection.target ∈ region →
      (graph.inputLink? connection.target connection.targetPin).isSome) :
    graph.AgreeOn (graph.addLink connection).graph region := by
  unfold addLink
  cases graph.checkEnds connection.source connection.target with
  | error error => exact AgreeOn.refl graph region
  | ok =>
      cases nextId? graph.nextLinkId with
      | none => exact AgreeOn.refl graph region
      | some next =>
          refine ⟨(AgreeOn.refl graph region).nodes, fun id inside _ pin => ?_⟩
          let link : Link := { connection with id := ⟨graph.nextLinkId⟩ }
          have spared_link : link.target = id →
              (graph.inputLink? link.target link.targetPin).isSome := by
            rintro rfl
            exact spared inside
          rw [feed?, feed?, inputLink?_append next pin spared_link]

theorem find?_filter_of_kept {α : Type} {items : List α} {test keep : α → Bool}
    (kept : ∀ item, items.find? test = some item → keep item = true) :
    (items.filter keep).find? test = items.find? test := by
  induction items with
  | nil => rfl
  | cons item items induction =>
      by_cases passes : test item = true
      · have kept_item := kept item (by simp [passes])
        simp [List.filter_cons_of_pos, kept_item, passes]
      · rw [List.find?_cons_of_neg passes] at kept ⊢
        by_cases stays : keep item = true
        · rw [List.filter_cons_of_pos stays, List.find?_cons_of_neg passes, induction kept]
        · rw [List.filter_cons_of_neg stays, induction kept]

/-- Nodes and links that go are not missed in a region that keeps its nodes and the oldest link into
each of their pins. -/
theorem agreeOn_filter {smaller : Graph} (keepNode : Node → Bool) (keepLink : Link → Bool)
    (nodes : smaller.nodes = graph.nodes.filter keepNode)
    (links : smaller.links = graph.links.filter keepLink)
    (kept_node : ∀ node ∈ graph.nodes, node.id ∈ region → keepNode node = true)
    (kept_link : ∀ id ∈ region, id ∈ graph.nodeIds → ∀ pin link,
      graph.inputLink? id pin = some link → keepLink link = true) :
    graph.AgreeOn smaller region where
  nodes id inside := by
    have same : smaller.node? id = graph.node? id := by
      rw [node?, nodes]
      refine find?_filter_of_kept fun node found => ?_
      have same_id : node.id = id := id_of_node? found
      exact kept_node node (mem_of_node? found) (same_id ▸ inside)
    rw [same]
    exact (AgreeOn.refl graph region).nodes id inside
  feeds id inside present pin := by
    have same : smaller.inputLink? id pin = graph.inputLink? id pin := by
      rw [inputLink?, links]
      exact find?_filter_of_kept (kept_link id inside present pin)
    rw [feed?, feed?, same]

theorem agreeOn_removeNode {id : NodeId} (closed : graph.ClosedUpstream region)
    (outside : id ∉ region) : graph.AgreeOn (graph.removeNode id).graph region := by
  unfold removeNode
  cases graph.node? id with
  | none => exact AgreeOn.refl graph region
  | some node =>
      refine agreeOn_filter _ _ rfl rfl ?_ ?_
      · intro node _ inside
        exact decide_eq_true fun same => outside (same ▸ inside)
      · intro reader inside present pin link fed
        have source : link.source ∈ region :=
          closed reader inside present pin (link.source, link.sourcePin) (by simp [feed?, fed])
        have target : link.target = reader := (target_of_inputLink? fed).1
        have no_source : link.source ≠ id := fun same => outside (same ▸ source)
        have no_target : link.target ≠ id := fun same => outside (same ▸ target ▸ inside)
        simp [Connection.involves, no_source, no_target]

theorem agreeOn_removeLink {id : LinkId}
    (spared : ∀ link ∈ graph.links, link.id = id → link.target ∈ region →
      graph.inputLink? link.target link.targetPin ≠ some link) :
    graph.AgreeOn (graph.removeLink id).graph region := by
  unfold removeLink
  cases graph.link? id with
  | none => exact AgreeOn.refl graph region
  | some removed =>
      refine agreeOn_filter _ _ (List.filter_true _).symm rfl (fun _ _ _ => rfl) ?_
      intro reader inside _ pin link fed
      obtain ⟨rfl, rfl⟩ := target_of_inputLink? fed
      exact decide_eq_true fun same => spared link (mem_of_inputLink? fed) same inside fed

theorem agreeOn_clear (empty : ∀ id ∈ region, id ∉ graph.nodeIds) :
    graph.AgreeOn graph.clear region := by
  refine agreeOn_filter (fun _ => false) (fun _ => false) ?_ ?_ ?_ ?_
  · simp [clear]
  · simp [clear]
  · intro node member inside
    exact absurd (List.mem_map_of_mem member) (empty node.id inside)
  · intro id inside present
    exact absurd present (empty id inside)

theorem agreeOn_setInputDefault {id : NodeId} (outside : id ∉ region) (pin : UInt64)
    (value : Value) : graph.AgreeOn ((graph.setInputDefault? id pin value).getD graph) region := by
  unfold setInputDefault?
  cases found : graph.node? id with
  | none => exact AgreeOn.refl graph region
  | some node =>
      rw [Option.bind_some, Node.setInputDefault?]
      cases node.input? pin with
      | none => exact AgreeOn.refl graph region
      | some old => exact agreeOn_replaceNode found rfl fun inside => absurd inside outside

theorem agreeOn_setOutputDefault (id : NodeId) (pin : UInt64) (value : Value) :
    graph.AgreeOn ((graph.setOutputDefault? id pin value).getD graph) region := by
  unfold setOutputDefault?
  cases found : graph.node? id with
  | none => exact AgreeOn.refl graph region
  | some node =>
      rw [Option.bind_some, Node.setOutputDefault?]
      cases node.output? pin with
      | none => exact AgreeOn.refl graph region
      | some old => exact agreeOn_replaceNode found rfl fun _ => ⟨rfl, rfl, by simp⟩

theorem agreeOn_setPosition (id : NodeId) (position : Vec2) :
    graph.AgreeOn ((graph.setPosition? id position).getD graph) region := by
  unfold setPosition?
  cases found : graph.node? id with
  | none => exact AgreeOn.refl graph region
  | some node => exact agreeOn_replaceNode found rfl fun _ => ⟨rfl, rfl, rfl⟩

theorem agreeOn_addNode (catalogue : Catalogue) (typeName : String) (position : Vec2)
    (outside : (⟨graph.nextNodeId⟩ : NodeId) ∉ region) :
    graph.AgreeOn (graph.addNode catalogue typeName position).graph region := by
  unfold addNode
  cases catalogue.get? typeName with
  | none => exact AgreeOn.refl graph region
  | some type =>
      dsimp only
      cases nextId? graph.nextNodeId with
      | none => exact AgreeOn.refl graph region
      | some next =>
          refine agreeOn_of_node?_eq fun id inside => ?_
          have different : (⟨graph.nextNodeId⟩ : NodeId) ≠ id := fun same => outside (same ▸ inside)
          simp [node?, different]

/-- An edit that spares a closed region leaves a graph that agrees there. -/
theorem agreeOn_apply (closed : graph.ClosedUpstream region) (catalogue : Catalogue) {edit : Edit}
    (spares : edit.Spares region graph) : graph.AgreeOn (edit.apply catalogue graph) region := by
  cases edit with
  | addNode typeName position => exact agreeOn_addNode catalogue typeName position spares
  | removeNode id => exact agreeOn_removeNode closed spares
  | addLink connection => exact agreeOn_addLink connection spares
  | connect connection =>
      change graph.AgreeOn (graph.connect connection).graph region
      unfold connect
      cases graph.canConnect connection with
      | error error => exact AgreeOn.refl graph region
      | ok => exact agreeOn_addLink connection spares
  | removeLink id => exact agreeOn_removeLink spares
  | clear => exact agreeOn_clear spares
  | setInputDefault id pin value => exact agreeOn_setInputDefault spares pin value
  | setOutputDefault id pin value => exact agreeOn_setOutputDefault id pin value
  | setPosition id position => exact agreeOn_setPosition id position

/-- A change that cannot be seen leaves a graph that agrees on the region. -/
theorem Unseen.agreeOn {after : Graph} (closed : graph.ClosedUpstream region)
    (unseen : Unseen region graph after) : graph.AgreeOn after region := by
  cases unseen with
  | edit catalogue edit spares => exact agreeOn_apply closed catalogue spares
  | redraw redraw same_id alike => exact agreeOn_map same_id alike

/-- Edits each of which spares the region in the graph that it finds. -/
def AllSpare (region : Set NodeId) (catalogue : Catalogue) : Graph → List Edit → Prop
  | _, [] => True
  | graph, edit :: edits =>
      edit.Spares region graph ∧ AllSpare region catalogue (edit.apply catalogue graph) edits

theorem AllSpare.run {catalogue : Catalogue} {edits : List Edit}
    (spare : AllSpare region catalogue graph edits) :
    Relation.ReflTransGen (Unseen region) graph (graph.afterEdits catalogue edits) := by
  induction edits generalizing graph with
  | nil => exact .refl
  | cons edit edits induction =>
      obtain ⟨spares, later⟩ := spare
      exact .head (.edit catalogue edit spares) (induction later)

end Graph

namespace Evaluator

/-- What lies in a region that is closed upstream has the same values and failures in every graph
that agrees there, and keeps them through any run of changes that cannot be seen there. -/
theorem evaluate_eq_of_agreeOn {evaluator : Evaluator} (ofOperations : evaluator.OfOperations)
    {graph : Graph} {region : Set NodeId} (closed : graph.ClosedUpstream region) :
    (∀ other, graph.AgreeOn other region → ∀ id ∈ region, ∀ outputPin sample,
      evaluator.evaluate graph id outputPin sample =
        evaluator.evaluate other id outputPin sample) ∧
      ∀ after, Relation.ReflTransGen (Graph.Unseen region) graph after →
        ∀ id ∈ region, ∀ outputPin sample,
          evaluator.evaluate graph id outputPin sample =
            evaluator.evaluate after id outputPin sample := by
  have agreeing {before other : Graph} (closed : before.ClosedUpstream region)
      (agree : before.AgreeOn other region) {id : NodeId} (inside : id ∈ region)
      (outputPin : UInt64) (sample : Vec2) :
      evaluator.evaluate before id outputPin sample =
        evaluator.evaluate other id outputPin sample := by
    rw [evaluate, evaluate, evaluateWithin_eq_of_agreeOn ofOperations closed agree _ inside]
  refine ⟨fun other agree id inside => agreeing closed agree inside, fun after run => ?_⟩
  -- Each change is seen from a graph that agrees with the one before, so the region stays closed.
  have closed_and_equal : after.ClosedUpstream region ∧ ∀ id ∈ region, ∀ outputPin sample,
      evaluator.evaluate graph id outputPin sample =
        evaluator.evaluate after id outputPin sample := by
    induction run with
    | refl => exact ⟨closed, fun _ _ _ _ => rfl⟩
    | tail run unseen induction =>
        obtain ⟨closed_before, equal_before⟩ := induction
        have agree := unseen.agreeOn closed_before
        refine ⟨closed_before.of_agreeOn agree, fun id inside outputPin sample => ?_⟩
        exact (equal_before id inside outputPin sample).trans
          (agreeing closed_before agree inside outputPin sample)
  exact closed_and_equal.2

/-- The noise without the blend, its blur moved and linked once more. -/
def rewiredNoise : Graph :=
  blurredNoise.afterEdits .builtin
    [.removeNode ⟨4⟩, .addLink ⟨⟨1⟩, 0, ⟨3⟩, 0⟩, .setPosition ⟨3⟩ ⟨64.0, 32.0⟩]

theorem evaluate_eq_of_agreeOn_rewiredNoise :
    blurredNoise.nodes.length = 4 ∧ rewiredNoise.nodes.length = 3 ∧
      rewiredNoise.links.length = 3 ∧
      ∀ sample,
        (withOperations ⟨256, 3⟩ Operation.all).evaluate blurredNoise ⟨3⟩ 0 sample =
            (withOperations ⟨256, 3⟩ Operation.all).evaluate rewiredNoise ⟨3⟩ 0 sample ∧
          (withOperations ⟨256, 3⟩ Operation.all).evaluate blurredNoise ⟨3⟩ 0 sample =
            (withOperations ⟨256, 3⟩ Operation.all).evaluate
              { blurredNoise with nodes := blurredNoise.nodes.reverse } ⟨3⟩ 0 sample := by
  let region : Set NodeId := {⟨2⟩, ⟨3⟩}
  have sources : ∀ link ∈ blurredNoise.links, link.target = ⟨2⟩ ∨ link.target = ⟨3⟩ →
      link.source = ⟨2⟩ ∨ link.source = ⟨3⟩ := by
    decide +kernel
  have closed : blurredNoise.ClosedUpstream region := by
    intro id inside _ pin source fed
    obtain ⟨link, found, rfl⟩ := Option.map_eq_some_iff.mp fed
    have feeds := List.find?_some found
    simp only [Connection.feeds, Bool.and_eq_true, decide_eq_true_eq] at feeds
    exact sources link (Graph.mem_of_inputLink? found) (feeds.1 ▸ inside)
  have outside : ¬((⟨4⟩ : NodeId) = ⟨2⟩ ∨ (⟨4⟩ : NodeId) = ⟨3⟩) := by decide
  have fed : ((blurredNoise.removeNode ⟨4⟩).graph.inputLink? ⟨3⟩ 0).isSome := by decide +kernel
  have spare : Graph.AllSpare region .builtin blurredNoise
      [.removeNode ⟨4⟩, .addLink ⟨⟨1⟩, 0, ⟨3⟩, 0⟩, .setPosition ⟨3⟩ ⟨64.0, 32.0⟩] :=
    ⟨outside, fun _ => fed, trivial, trivial⟩
  have reversed :
      blurredNoise.AgreeOn { blurredNoise with nodes := blurredNoise.nodes.reverse } region := by
    refine Graph.agreeOn_of_node?_eq ?_
    rintro id (rfl | rfl) <;> decide +kernel
  have operations := ofOperations_withOperations ⟨256, 3⟩ Operation.all
  have equal := evaluate_eq_of_agreeOn operations closed
  refine ⟨by decide +kernel, by decide +kernel, by decide +kernel, fun sample => ⟨?_, ?_⟩⟩
  · exact equal.2 rewiredNoise spare.run ⟨3⟩ (.inr rfl) 0 sample
  · exact equal.1 _ reversed ⟨3⟩ (.inr rfl) 0 sample

end Evaluator
end TextureGraph
