import TextureGraph.Operation.Formula
import TextureGraph.Proofs.Reachable

/-!
# Dataflow meaning of graphs

The meaning of a node is a function from output pins and sample points to values or errors.  One
pass over the dependency order builds the meaning of every node from the meanings already built for
its sources.  Evaluation, which instead follows the links back from the requested node, gives the
same on every well-formed graph whose depth the settings admit.
-/

namespace TextureGraph

/-- What a node gives: the value of each output pin at each sample point, or why there is none. -/
abbrev Meaning : Type :=
  (outputPin : UInt64) → (sample : Vec2) → Except EvaluationError Value

/-- Meanings of some nodes. -/
abbrev Meanings : Type :=
  List (NodeId × Meaning)

/-- The meaning of a node in a table; a node that is not listed has none. -/
def Meanings.of (table : Meanings) (id : NodeId) : Meaning :=
  (table.lookup id).getD fun _ _ => .error (.nodeNotFound id)

namespace Evaluator

/-! ## Reference semantics -/

/-- What a formula sees of a node when the meanings of its sources are known: the oldest link into a
pin gives the value of its source, and a pin without a link has its default value, if it exists. -/
def inputsFrom (evaluator : Evaluator) (graph : Graph) (known : NodeId → Meaning) (node : Node)
    (sample : Vec2) : Inputs where
  node := node
  sample := sample
  settings := evaluator.settings
  isConnected := fun pin => (graph.inputLink? node.id pin).isSome
  resolve := fun pin sample =>
    match graph.inputLink? node.id pin with
    | some link => some <$> known link.source link.sourcePin sample
    | none => .ok ((node.input? pin).map fun pin => pin.default)

/-- The meaning of a node whose sources have the known meanings. -/
def meaning (evaluator : Evaluator) (graph : Graph) (known : NodeId → Meaning) (node : Node) :
    Meaning :=
  fun outputPin sample =>
    if node.outputs.length ≤ outputPin.toNat then .error (.pinOutOfRange node.id outputPin)
    else
      match evaluator.formula? node.typeName with
      | none => .error (.unknownNodeType node.typeName)
      | some formula => formula (evaluator.inputsFrom graph known node sample) outputPin

/-- Adds the meaning of the next node in dependency order. -/
def addMeaning (evaluator : Evaluator) (graph : Graph) (table : Meanings) (id : NodeId) :
    Meanings :=
  match graph.node? id with
  | none => table
  | some node => (id, evaluator.meaning graph table.of node) :: table

/-- The meanings of nodes taken in dependency order. -/
def meanings (evaluator : Evaluator) (graph : Graph) (order : List NodeId) : Meanings :=
  order.foldl (evaluator.addMeaning graph) []

/-- The meaning of every node, from one pass over the dependency order of the graph. -/
def dataflow (evaluator : Evaluator) (graph : Graph) : Except CycleError (NodeId → Meaning) :=
  graph.order.map fun order => (evaluator.meanings graph order).of

/-! ## Tables of meanings -/

theorem of_cons_self (id : NodeId) (meaning : Meaning) (table : Meanings) :
    Meanings.of ((id, meaning) :: table) id = meaning := by
  simp [Meanings.of]

theorem of_cons_of_ne {id other : NodeId} (different : other ≠ id) (meaning : Meaning)
    (table : Meanings) : Meanings.of ((id, meaning) :: table) other = table.of other := by
  have unlike : (other == id) = false := beq_false_of_ne different
  simp [Meanings.of, List.lookup_cons, unlike]

theorem addMeaning_of_ne {evaluator : Evaluator} {graph : Graph} {id other : NodeId}
    (different : other ≠ id) (table : Meanings) :
    (evaluator.addMeaning graph table id).of other = table.of other := by
  unfold addMeaning
  cases graph.node? id with
  | none => rfl
  | some node => exact of_cons_of_ne different _ table

/-- A pass adds no meaning of a node that it does not visit. -/
theorem foldl_addMeaning_of_notMem {evaluator : Evaluator} {graph : Graph} {order : List NodeId}
    {id : NodeId} (absent : id ∉ order) (table : Meanings) :
    (order.foldl (evaluator.addMeaning graph) table).of id = table.of id := by
  induction order generalizing table with
  | nil => rfl
  | cons next order induction =>
      obtain ⟨different, absent⟩ := List.ne_and_not_mem_of_not_mem_cons absent
      rw [List.foldl_cons, induction absent, addMeaning_of_ne different]

theorem meanings_append_singleton (evaluator : Evaluator) (graph : Graph) (order : List NodeId)
    (id : NodeId) :
    evaluator.meanings graph (order ++ [id]) =
      evaluator.addMeaning graph (evaluator.meanings graph order) id := by
  simp [meanings]

/-! ## Evaluation step by step -/

/-- One more level of evaluation is one application of a formula to the levels below. -/
theorem evaluateWithin_succ {evaluator : Evaluator} {graph : Graph} {id : NodeId} {node : Node}
    (found : graph.node? id = some node) (levels : Nat) :
    evaluator.evaluateWithin graph (levels + 1) id =
      evaluator.meaning graph (evaluator.evaluateWithin graph levels) node := by
  obtain rfl := Graph.id_of_node? found
  funext outputPin sample
  rw [evaluateWithin, found]
  rfl

theorem evaluateWithin_of_absent {evaluator : Evaluator} {graph : Graph} {id : NodeId}
    (absent : graph.node? id = none) (levels : Nat) (outputPin : UInt64) (sample : Vec2) :
    evaluator.evaluateWithin graph (levels + 1) id outputPin sample =
      .error (.nodeNotFound id) := by
  rw [evaluateWithin, absent]

theorem linked_of_inputLink? {graph : Graph} {node : NodeId} {pin : UInt64} {link : Link}
    (feeds : graph.inputLink? node pin = some link) :
    Linked graph.links link.source node :=
  ⟨link, Graph.mem_of_inputLink? feeds, rfl, (Graph.target_of_inputLink? feeds).1⟩

/-- The meaning of a node depends on the meanings of its sources only. -/
theorem meaning_congr {evaluator : Evaluator} {graph : Graph} {node : Node}
    {known other : NodeId → Meaning}
    (agree : ∀ source, Linked graph.links source node.id → known source = other source) :
    evaluator.meaning graph known node = evaluator.meaning graph other node := by
  have same_inputs :
      evaluator.inputsFrom graph known node = evaluator.inputsFrom graph other node := by
    funext sample
    simp only [inputsFrom, Inputs.mk.injEq, true_and]
    funext pin sample
    cases feeds : graph.inputLink? node.id pin with
    | none => rfl
    | some link => simp only [agree link.source (linked_of_inputLink? feeds)]
  funext outputPin sample
  simp only [meaning, same_inputs]

/-- Along a dependency order, evaluation with a level for every listed node agrees with the meanings
built in that order. -/
theorem evaluateWithin_eq_meanings {evaluator : Evaluator} {graph : Graph} {order : List NodeId}
    (ordered : graph.Ordered order) (stored : order ⊆ graph.nodeIds) {levels : Nat}
    (fits : order.length ≤ levels) {id : NodeId} (listed : id ∈ order) :
    evaluator.evaluateWithin graph levels id = (evaluator.meanings graph order).of id := by
  induction ordered generalizing levels id with
  | nil => simp at listed
  | @snoc earlier last _ fresh sources induction =>
      obtain ⟨earlier_stored, last_stored⟩ := List.append_subset.mp stored
      rw [List.length_append, List.length_singleton] at fits
      rw [meanings_append_singleton]
      rcases List.mem_append.mp listed with before | at_end
      · have different : id ≠ last := fun same => fresh (same ▸ before)
        rw [addMeaning_of_ne different]
        exact induction earlier_stored (by omega) before
      · obtain rfl := List.mem_singleton.mp at_end
        obtain ⟨node, found⟩ :=
          Graph.exists_node?_of_mem (last_stored (List.mem_singleton_self id))
        obtain ⟨below, rfl⟩ : ∃ below, levels = below + 1 :=
          Nat.exists_eq_succ_of_ne_zero (by omega)
        rw [evaluateWithin_succ found, addMeaning, found]
        dsimp only
        rw [of_cons_self]
        apply meaning_congr
        intro source linked
        rw [Graph.id_of_node? found] at linked
        exact induction earlier_stored (by omega) (sources source linked)

theorem dataflow_eq_ok {evaluator : Evaluator} {graph : Graph} {order : List NodeId}
    (found : graph.order = .ok order) :
    evaluator.dataflow graph = .ok (evaluator.meanings graph order).of := by
  rw [dataflow, found]
  rfl

/-- On a well-formed graph whose depth the settings admit, evaluation gives exactly the value or
error of the dataflow meaning, at every node, output pin and sample point and with any formulas,
whichever sample points these ask their inputs for. -/
theorem evaluate_eq_dataflow {graph : Graph} (wellFormed : graph.WellFormed)
    (evaluator : Evaluator)
    (admitted : graph.nodes.length - 1 ≤ evaluator.settings.maxDepth.toNat) :
    ∃ meaning, evaluator.dataflow graph = .ok meaning ∧
      ∀ id outputPin sample,
        evaluator.evaluate graph id outputPin sample = meaning id outputPin sample := by
  have stored := wellFormed.toEndsStored
  obtain ⟨order, found⟩ := (Graph.exists_order_iff_acyclic stored).mpr wellFormed.acyclic
  refine ⟨_, dataflow_eq_ok found, fun id outputPin sample => ?_⟩
  have ordered := Graph.ordered_of_order_eq_ok stored found
  have listed_iff (id : NodeId) : id ∈ order ↔ id ∈ graph.nodeIds :=
    Graph.mem_order_iff stored found
  have order_stored : order ⊆ graph.nodeIds := fun id => (listed_iff id).mp
  by_cases present : id ∈ graph.nodeIds
  · have short : order.length ≤ graph.nodeIds.length :=
      (ordered.nodup.subperm order_stored).length_le
    have fits : order.length ≤ evaluator.settings.maxDepth.toNat + 1 := by
      rw [Graph.nodeIds, List.length_map] at short
      omega
    have listed : id ∈ order := (listed_iff id).mpr present
    rw [evaluate, evaluateWithin_eq_meanings ordered order_stored fits listed]
  · have absent : id ∉ order := fun listed => present ((listed_iff id).mp listed)
    rw [evaluate, evaluateWithin_of_absent (Graph.node?_eq_none_iff.mpr present), meanings,
      foldl_addMeaning_of_notMem absent]
    rfl

/-- Noise of one layer that reaches a blend directly and through a blur, with a second link into the
output. -/
def blurredNoise : Graph :=
  Graph.empty.afterEdits .builtin
    [.addNode "Texture Output" ⟨0.0, 0.0⟩, .addNode "Perlin Noise" ⟨0.0, 0.0⟩,
      .addNode "Blur" ⟨0.0, 0.0⟩, .addNode "Blend Add" ⟨0.0, 0.0⟩,
      .setInputDefault ⟨2⟩ 2 (.float 1.0), .setInputDefault ⟨3⟩ 1 (.float 8.0),
      .connect ⟨⟨2⟩, 0, ⟨3⟩, 0⟩, .connect ⟨⟨2⟩, 0, ⟨4⟩, 0⟩, .connect ⟨⟨3⟩, 0, ⟨4⟩, 1⟩,
      .connect ⟨⟨4⟩, 0, ⟨1⟩, 0⟩, .connect ⟨⟨2⟩, 0, ⟨1⟩, 0⟩]

/-- At the sample the blend gives more than twice the noise, since the blur reads the noise around
it; the output passes on the blend, to which its older link leads. -/
theorem evaluate_eq_dataflow_blurredNoise :
    blurredNoise.WellFormed ∧ blurredNoise.nodes.length - 1 = 3 ∧
      blurredNoise.links.length = 5 ∧
      ∃ meaning, (builtin ⟨256, 3⟩).dataflow blurredNoise = .ok meaning ∧
        (∀ sample, (builtin ⟨256, 3⟩).evaluate blurredNoise ⟨1⟩ 0 sample =
          meaning ⟨1⟩ 0 sample) ∧
        meaning ⟨2⟩ 0 ⟨0.25, 0.1⟩ = .ok (.color (Color.gray 0.134128)) ∧
        meaning ⟨1⟩ 0 ⟨0.25, 0.1⟩ = .ok (.color (Color.gray 0.2768486)) := by
  have reachable : blurredNoise.Reachable := Graph.Reachable.empty.afterEdits _ _
  have wellFormed := reachable.intact.toWellFormed
  have size : blurredNoise.nodes.length - 1 = 3 := by decide +kernel
  have depth : (builtin ⟨256, 3⟩).settings.maxDepth.toNat = 3 := by decide +kernel
  obtain ⟨meaning, built, agrees⟩ :=
    evaluate_eq_dataflow wellFormed (builtin ⟨256, 3⟩) (Nat.le_of_eq (size.trans depth.symm))
  have noise : (builtin ⟨256, 3⟩).evaluate blurredNoise ⟨2⟩ 0 ⟨0.25, 0.1⟩ =
      .ok (.color (Color.gray 0.134128)) := by
    decide +kernel
  have sum : (builtin ⟨256, 3⟩).evaluate blurredNoise ⟨1⟩ 0 ⟨0.25, 0.1⟩ =
      .ok (.color (Color.gray 0.2768486)) := by
    decide +kernel
  rw [agrees] at noise sum
  exact ⟨wellFormed, size, by decide +kernel, meaning, built, agrees ⟨1⟩ 0, noise, sum⟩

end Evaluator
end TextureGraph
