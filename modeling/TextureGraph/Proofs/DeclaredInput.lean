import TextureGraph.Proofs.Effect
import TextureGraph.Proofs.KnownType
import TextureGraph.Proofs.Upstream

/-!
# Declared inputs

Links and input pins may stand at places beyond the inputs that the catalogue declares for a type:
links are added, and documents admitted, whatever their pins are.  No built-in formula reads such a
place, so nothing that stands there has a part in any value or failure.
-/

namespace TextureGraph

/-! ## Undeclared places -/

namespace Node

/-- Whether a place lies beyond the inputs that the catalogue declares for the type of a node. -/
def isUndeclared (node : Node) (place : Nat) : Bool :=
  (Catalogue.builtin.get? node.typeName).any fun type => type.inputs.length ≤ place

/-- Two nodes that differ at most in input pins at undeclared places. -/
structure SameDeclared (node other : Node) : Prop where
  rest : { other with inputs := node.inputs } = node
  inputs : ∀ place, node.isUndeclared place = false → other.inputs[place]? = node.inputs[place]?

namespace SameDeclared

variable {node other : Node} (same : node.SameDeclared other)
include same

theorem id : other.id = node.id := by
  rw [← same.rest]

theorem typeName : other.typeName = node.typeName := by
  rw [← same.rest]

theorem outputs : other.outputs = node.outputs := by
  rw [← same.rest]

theorem isUndeclared (place : Nat) : other.isUndeclared place = node.isUndeclared place := by
  rw [Node.isUndeclared, Node.isUndeclared, same.typeName]

end SameDeclared

theorem SameDeclared.refl (node : Node) : node.SameDeclared node :=
  ⟨rfl, fun _ _ => rfl⟩

theorem sameDeclared_append {node : Node} (full : node.isUndeclared node.inputs.length = true)
    (pins : List Pin) : node.SameDeclared { node with inputs := node.inputs ++ pins } where
  rest := rfl
  inputs place declared := by
    refine List.getElem?_append_left (Nat.lt_of_not_le fun beyond => ?_)
    obtain ⟨type, catalogued, within⟩ := (Option.any_eq_true _ _).mp full
    have undeclared : node.isUndeclared place = true :=
      (Option.any_eq_true _ _).mpr
        ⟨type, catalogued, decide_eq_true (Nat.le_trans (of_decide_eq_true within) beyond)⟩
    simp [undeclared] at declared

theorem isUndeclared_of_lt {node : Node} {operation : Operation}
    (named : operation.typeName = node.typeName) {place : Nat}
    (within : place < operation.inputs.length) : node.isUndeclared place = false := by
  rw [isUndeclared, ← named, Catalogue.get?_builtin_typeName]
  simpa [Operation.nodeType] using within

end Node

namespace Graph

/-- Whether a connection leads to an undeclared place of a node. -/
def isStray (graph : Graph) (connection : Connection) : Bool :=
  (graph.node? connection.target).any fun node => node.isUndeclared connection.targetPin.toNat

/-- The connections of a graph other than those to undeclared places, oldest first. -/
def declaredConnections (graph : Graph) : List Connection :=
  (graph.links.map Link.toConnection).filter fun connection => !graph.isStray connection

/-- Two graphs that differ at most in links to, and input pins at, undeclared places. -/
structure SameDeclared (graph other : Graph) : Prop where
  nodes : List.Forall₂ Node.SameDeclared graph.nodes other.nodes
  connections : graph.declaredConnections = other.declaredConnections

variable {graph other : Graph}

theorem rel_find? {nodes others : List Node} (pairs : List.Forall₂ Node.SameDeclared nodes others)
    (id : NodeId) :
    Option.Rel Node.SameDeclared (nodes.find? fun node => node.id = id)
      (others.find? fun node => node.id = id) := by
  induction pairs with
  | nil => exact .none
  | @cons node other _ _ same _ induction =>
      by_cases here : node.id = id
      · rw [List.find?_cons_of_pos (by simpa using here),
          List.find?_cons_of_pos (by simpa [same.id] using here)]
        exact .some same
      · rw [List.find?_cons_of_neg (by simpa using here),
          List.find?_cons_of_neg (by simpa [same.id] using here)]
        exact induction

theorem feed?_of_declared {id : NodeId} {node : Node} (found : graph.node? id = some node)
    {pin : UInt64} (declared : node.isUndeclared pin.toNat = false) :
    graph.feed? id pin =
      (graph.declaredConnections.find? fun connection => connection.feeds id pin).map
        fun connection => (connection.source, connection.sourcePin) := by
  have kept : ∀ connection,
      (graph.links.map Link.toConnection).find? (fun connection => connection.feeds id pin) =
        some connection → (!graph.isStray connection) = true := by
    intro connection fed
    have feeds := List.find?_some fed
    obtain ⟨rfl, rfl⟩ := feeds_iff.mp feeds
    simp [isStray, found, declared]
  rw [declaredConnections, find?_filter_of_kept kept, List.find?_map, Option.map_map]
  rfl

theorem sameDeclared_of_links {links : List Link} {nextLinkId : UInt32}
    (same : ((links.map Link.toConnection).filter fun connection => !graph.isStray connection) =
      graph.declaredConnections) :
    graph.SameDeclared { graph with links := links, nextLinkId := nextLinkId } where
  nodes := List.forall₂_same.mpr fun node _ => Node.SameDeclared.refl node
  connections := same.symm

theorem sameDeclared_withLink {connection : Connection} (stray : graph.isStray connection = true) :
    graph.SameDeclared (graph.withLink connection) := by
  refine sameDeclared_of_links ?_
  rw [List.map_append, List.filter_append, ← declaredConnections]
  simp [stray]

theorem sameDeclared_addLink {connection : Connection} (stray : graph.isStray connection = true) :
    graph.SameDeclared (graph.addLink connection).graph := by
  cases result : (graph.addLink connection).result with
  | error error =>
      rw [addLink_graph_of_error result]
      exact sameDeclared_of_links rfl
  | ok id =>
      obtain ⟨unfinished, sound⟩ := addLink_eq_ok_iff.mp ⟨id, result⟩
      rw [addLink_graph_of_ok unfinished sound]
      exact sameDeclared_withLink stray

theorem sameDeclared_erase {link : Link} (stray : graph.isStray link.toConnection = true)
    (nextLinkId : UInt32) :
    graph.SameDeclared { graph with links := graph.links.erase link, nextLinkId := nextLinkId } := by
  refine sameDeclared_of_links ?_
  by_cases member : link ∈ graph.links
  · obtain ⟨before, after, _, split, erased⟩ := List.exists_erase_eq member
    rw [declaredConnections, erased, split]
    simp [stray]
  · rw [List.erase_of_not_mem member, declaredConnections]

end Graph

theorem Document.rebuild_erase {catalogue : Catalogue} {document : Document} {graph : Graph}
    (rebuilt : (document.rebuild catalogue).result = .ok graph) (link : Link) :
    ∃ nextLinkId,
      ({ document with links := document.links.erase link }.rebuild catalogue).result =
        .ok { graph with links := graph.links.erase link, nextLinkId := nextLinkId } := by
  obtain ⟨version, wellFormed, rfl⟩ := rebuild_result_eq_ok_iff.mp rebuilt
  let smaller : Document := { document with links := document.links.erase link }
  refine ⟨smaller.toGraph.nextLinkId, rebuild_result_eq_ok_iff.mpr ⟨version, ?_, rfl⟩⟩
  refine wellFormed.restrict (List.Sublist.refl _) List.erase_sublist fun other member => ?_
  have stored : other ∈ document.toGraph.links := List.mem_of_mem_erase member
  exact ⟨wellFormed.source_mem other stored, wellFormed.target_mem other stored⟩

namespace Evaluator

/-! ## Evaluation -/

/-- Graphs that differ at undeclared places only give the same at every request. -/
theorem evaluateWithin_eq_of_sameDeclared (settings : Settings) (operations : List Operation)
    {graph other : Graph} (same : graph.SameDeclared other) (levels : Nat) :
    (withOperations settings operations).evaluateWithin graph levels =
      (withOperations settings operations).evaluateWithin other levels := by
  induction levels with
  | zero => rfl
  | succ levels induction =>
      funext id
      refine evaluateWithin_succ_congr (Graph.rel_find? same.nodes id) ?_
      intro node otherNode found found_other same_node
      obtain rfl := Graph.id_of_node? found
      refine meaning_eq_of_read (fun pin => node.isUndeclared pin.toNat = false)
        (fun formula known => ?_) same_node.id.symm same_node.typeName.symm
        (by rw [same_node.outputs]) (fun pin declared => ?_) (fun pin declared => ?_)
        (fun _ source _ => by rw [induction])
      · obtain ⟨operation, named, rfl⟩ := exists_operation_of_formula? known
        exact ⟨operation, rfl, fun pin within => Node.isUndeclared_of_lt named within⟩
      · rw [List.getElem?_map, List.getElem?_map, same_node.inputs _ declared]
      · have declared_other : otherNode.isUndeclared pin.toNat = false :=
          (same_node.isUndeclared _).trans declared
        rw [Graph.feed?_of_declared found declared,
          Graph.feed?_of_declared found_other declared_other, same.connections]

/-- With built-in formulas, what stands at places beyond the declared inputs of a node's built-in
type has no part in any value or failure, at any node, output pin, sample point or limit: not an
input pin there, nor a link to there, whether it was added or came with a document. -/
theorem undeclared_inputs_unread (settings : Settings) (operations : List Operation) :
    (∀ graph other : Graph, graph.SameDeclared other → ∀ id outputPin sample,
      (withOperations settings operations).evaluate graph id outputPin sample =
        (withOperations settings operations).evaluate other id outputPin sample) ∧
      (∀ (graph : Graph) connection, graph.isStray connection = true → ∀ id outputPin sample,
        (withOperations settings operations).evaluate (graph.addLink connection).graph id outputPin
            sample =
          (withOperations settings operations).evaluate graph id outputPin sample) ∧
      ∀ catalogue (document : Document) graph, (document.rebuild catalogue).result = .ok graph →
        ∀ link ∈ document.links, graph.isStray link.toConnection = true →
          ∃ without,
            ({ document with links := document.links.erase link }.rebuild catalogue).result =
                .ok without ∧
              ∀ id outputPin sample,
                (withOperations settings operations).evaluate graph id outputPin sample =
                  (withOperations settings operations).evaluate without id outputPin sample := by
  have equal {graph other : Graph} (same : graph.SameDeclared other) (id : NodeId)
      (outputPin : UInt64) (sample : Vec2) :
      (withOperations settings operations).evaluate graph id outputPin sample =
        (withOperations settings operations).evaluate other id outputPin sample := by
    rw [evaluate, evaluate,
      evaluateWithin_eq_of_sameDeclared settings operations same]
  refine ⟨fun graph other same => equal same, fun graph connection stray id outputPin sample => ?_,
    fun catalogue document graph rebuilt link _ stray => ?_⟩
  · exact (equal (Graph.sameDeclared_addLink stray) id outputPin sample).symm
  · obtain ⟨nextLinkId, rebuilt_without⟩ := Document.rebuild_erase rebuilt link
    exact ⟨_, rebuilt_without, equal (Graph.sameDeclared_erase stray nextLinkId)⟩

/-- The noise with a link beyond the inputs of the blur and a spare pin on every node. -/
def strayNoise : Graph :=
  { (blurredNoise.addLink ⟨⟨2⟩, 0, ⟨3⟩, 2⟩).graph with
    nodes := blurredNoise.nodes.map fun node =>
      { node with inputs := node.inputs ++ [.input "Spare" .float] } }

theorem undeclared_inputs_unread_strayNoise :
    blurredNoise.SameDeclared strayNoise ∧ blurredNoise.isStray ⟨⟨2⟩, 0, ⟨3⟩, 2⟩ = true ∧
      strayNoise.links.length = 6 ∧
      ((Document.ofGraph strayNoise).rebuild .builtin).result = .ok strayNoise ∧
      ∀ settings sample,
        (withOperations settings Operation.all).evaluate blurredNoise ⟨1⟩ 0 sample =
            (withOperations settings Operation.all).evaluate strayNoise ⟨1⟩ 0 sample ∧
          (withOperations settings Operation.all).evaluate
              (blurredNoise.addLink ⟨⟨2⟩, 0, ⟨3⟩, 2⟩).graph ⟨1⟩ 0 sample =
            (withOperations settings Operation.all).evaluate blurredNoise ⟨1⟩ 0 sample ∧
          ∃ without : Graph, without.links.length = 5 ∧
            (withOperations settings Operation.all).evaluate strayNoise ⟨1⟩ 0 sample =
              (withOperations settings Operation.all).evaluate without ⟨1⟩ 0 sample := by
  have full : ∀ node ∈ blurredNoise.nodes, node.isUndeclared node.inputs.length = true := by
    decide +kernel
  have nodes : List.Forall₂ Node.SameDeclared blurredNoise.nodes strayNoise.nodes := by
    rw [strayNoise, List.forall₂_map_right_iff, List.forall₂_same]
    exact fun node member => Node.sameDeclared_append (full node member) [.input "Spare" .float]
  have connections : blurredNoise.declaredConnections = strayNoise.declaredConnections := by
    decide +kernel
  have same : blurredNoise.SameDeclared strayNoise := ⟨nodes, connections⟩
  have stray : blurredNoise.isStray ⟨⟨2⟩, 0, ⟨3⟩, 2⟩ = true := by decide +kernel
  have rebuilt : ((Document.ofGraph strayNoise).rebuild .builtin).result = .ok strayNoise := by
    decide +kernel
  refine ⟨same, stray, by decide +kernel, rebuilt, fun settings sample => ?_⟩
  obtain ⟨equal, added, document⟩ := undeclared_inputs_unread settings Operation.all
  let link : Link := ⟨⟨⟨2⟩, 0, ⟨3⟩, 2⟩, ⟨6⟩⟩
  obtain ⟨without, rebuilt_without, equal_without⟩ :=
    document _ _ _ rebuilt link (by decide +kernel) (by decide +kernel)
  obtain ⟨_, _, rfl⟩ := Document.rebuild_result_eq_ok_iff.mp rebuilt_without
  exact ⟨equal _ _ same _ _ _, added _ _ stray _ _ _, _, by decide +kernel, equal_without _ _ _⟩

end Evaluator
end TextureGraph
