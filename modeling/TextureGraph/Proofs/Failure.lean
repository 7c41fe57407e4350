import TextureGraph.Proofs.Dataflow
import TextureGraph.Proofs.Reading

/-!
# Why evaluation fails

A failure tells the truth about the graph: the node that it names is missing, the type that it names
is upstream and has no formula, the pin that it names is asked for and missing, or links lead to the
requested node in more steps than the settings allow.  Where none of this is so, there is a value.
-/

namespace TextureGraph
namespace Graph

/-- The output pins that a request may ask for: the requested one, and the sources of the oldest
links into the inputs of the requested node and of every node upstream of it. -/
inductive Needs (graph : Graph) (id : NodeId) (outputPin : UInt64) : NodeId → UInt64 → Prop
  | requested : Needs graph id outputPin id outputPin
  | source {reader : NodeId} {inputPin : UInt64} {link : Link} :
      Leads graph.links reader id → graph.inputLink? reader inputPin = some link →
      Needs graph id outputPin link.source link.sourcePin

theorem Needs.of_source {graph : Graph} {id node : NodeId} {inputPin outputPin pin : UInt64}
    {link : Link} (feeds : graph.inputLink? id inputPin = some link)
    (needs : graph.Needs link.source link.sourcePin node pin) :
    graph.Needs id outputPin node pin := by
  have linked := Evaluator.linked_of_inputLink? feeds
  cases needs with
  | requested => exact .source .refl feeds
  | source leads feeds => exact .source (leads.tail linked) feeds

/-- The node exists and has an output pin at the place. -/
def HasOutput (graph : Graph) (id : NodeId) (pin : UInt64) : Prop :=
  ∃ node, graph.node? id = some node ∧ pin.toNat < node.outputs.length

theorem HasOutput.mem {graph : Graph} {id : NodeId} {pin : UInt64}
    (output : graph.HasOutput id pin) : id ∈ graph.nodeIds := by
  obtain ⟨node, found, _⟩ := output
  exact id_of_node? found ▸ List.mem_map_of_mem (mem_of_node? found)

theorem HasOutput.lt {graph : Graph} {id : NodeId} {pin : UInt64} {node : Node}
    (output : graph.HasOutput id pin) (found : graph.node? id = some node) :
    pin.toNat < node.outputs.length := by
  obtain ⟨other, found_other, within⟩ := output
  cases found.symm.trans found_other
  exact within

instance (graph : Graph) (id : NodeId) (pin : UInt64) : Decidable (graph.HasOutput id pin) :=
  decidable_of_iff (∃ node ∈ graph.node? id, pin.toNat < node.outputs.length) Iff.rfl

end Graph

namespace Evaluator

/-- The evaluator that knows the listed operations only. -/
def withOperations (settings : Settings) (operations : List Operation) : Evaluator :=
  operations.foldl
    (fun evaluator operation => evaluator.register operation.typeName operation.formula)
    (empty settings)

/-- All formulas are built-in ones, whichever types have them. -/
def OfOperations (evaluator : Evaluator) : Prop :=
  ∀ entry ∈ evaluator.formulas, ∃ operation : Operation, entry.2 = operation.formula

theorem mem_of_formula? {evaluator : Evaluator} {typeName : String} {formula : Formula}
    (known : evaluator.formula? typeName = some formula) :
    (typeName, formula) ∈ evaluator.formulas := by
  obtain ⟨before, after, split, _⟩ := List.lookup_eq_some_iff.mp known
  simp [split]

theorem OfOperations.exists_operation {evaluator : Evaluator}
    (ofOperations : evaluator.OfOperations) {typeName : String} {formula : Formula}
    (known : evaluator.formula? typeName = some formula) :
    ∃ operation : Operation, formula = operation.formula :=
  ofOperations _ (mem_of_formula? known)

theorem OfOperations.register {evaluator : Evaluator} (ofOperations : evaluator.OfOperations)
    (typeName : String) (operation : Operation) :
    (evaluator.register typeName operation.formula).OfOperations := by
  intro entry listed
  rcases List.mem_cons.mp listed with rfl | earlier
  · exact ⟨operation, rfl⟩
  · exact ofOperations entry (List.mem_of_mem_filter earlier)

/-- What registering a built-in operation keeps holds of an evaluator that knows some of them. -/
theorem withOperations_induction {settings : Settings} {motive : Evaluator → Prop}
    (start : motive (empty settings))
    (register : ∀ (evaluator : Evaluator) (operation : Operation), motive evaluator →
      motive (evaluator.register operation.typeName operation.formula))
    (operations : List Operation) : motive (withOperations settings operations) := by
  unfold withOperations
  generalize empty settings = evaluator at start ⊢
  induction operations generalizing evaluator with
  | nil => exact start
  | cons operation operations induction =>
      exact induction _ (register evaluator operation start)

theorem ofOperations_withOperations (settings : Settings) (operations : List Operation) :
    (withOperations settings operations).OfOperations :=
  withOperations_induction (fun _ listed => nomatch listed)
    (fun _ operation ofOperations => ofOperations.register operation.typeName operation) operations

/-- What a failure says is true, `levels` being the number of nodes that may stand in a row. -/
def Founded (evaluator : Evaluator) (graph : Graph) (levels : Nat) (id : NodeId)
    (outputPin : UInt64) : EvaluationError → Prop
  | .nodeNotFound node => node = id ∧ id ∉ graph.nodeIds
  | .unknownNodeType name =>
      evaluator.formula? name = none ∧
        ∃ node ∈ graph.nodes, node.typeName = name ∧ Leads graph.links node.id id
  | .pinOutOfRange node pin =>
      (∃ stored, graph.node? node = some stored ∧ stored.outputs.length ≤ pin.toNat) ∧
        graph.Needs id outputPin node pin
  | .recursionLimit depth =>
      depth = evaluator.settings.maxDepth ∧ ∃ start, LinkChain graph.links levels start id

theorem Founded.of_source {evaluator : Evaluator} {graph : Graph} (stored : graph.EndsStored)
    {levels : Nat} {id : NodeId} {inputPin outputPin : UInt64} {link : Link}
    (feeds : graph.inputLink? id inputPin = some link) {error : EvaluationError}
    (founded : evaluator.Founded graph levels link.source link.sourcePin error) :
    evaluator.Founded graph (levels + 1) id outputPin error := by
  have linked := linked_of_inputLink? feeds
  cases error with
  | nodeNotFound node =>
      obtain ⟨_, absent⟩ := founded
      exact absurd (stored.source_mem_of_linked linked) absent
  | unknownNodeType name =>
      obtain ⟨no_formula, node, member, type, leads⟩ := founded
      exact ⟨no_formula, node, member, type, leads.tail linked⟩
  | pinOutOfRange node pin =>
      obtain ⟨beyond, needs⟩ := founded
      exact ⟨beyond, needs.of_source feeds⟩
  | recursionLimit depth =>
      obtain ⟨limit, start, chain⟩ := founded
      exact ⟨limit, start, chain.snoc linked⟩

theorem exists_source_error {evaluator : Evaluator} {graph : Graph} {known : NodeId → Meaning}
    {node : Node} {sample point : Vec2} {pin : UInt64} {error : EvaluationError}
    (failed : (evaluator.inputsFrom graph known node sample).resolve pin point = .error error) :
    ∃ link, graph.inputLink? node.id pin = some link ∧
      known link.source link.sourcePin point = .error error := by
  dsimp only [inputsFrom] at failed
  cases feeds : graph.inputLink? node.id pin with
  | none =>
      rw [feeds] at failed
      cases failed
  | some link =>
      rw [feeds] at failed
      refine ⟨link, rfl, ?_⟩
      cases outcome : known link.source link.sourcePin point with
      | ok value =>
          simp [outcome] at failed
      | error other =>
          simpa [outcome] using failed

/-- A failure within any number of levels is founded. -/
theorem founded_of_evaluateWithin {evaluator : Evaluator} (ofOperations : evaluator.OfOperations)
    {graph : Graph} (stored : graph.EndsStored) {levels : Nat} {id : NodeId} {outputPin : UInt64}
    {sample : Vec2} {error : EvaluationError}
    (failed : evaluator.evaluateWithin graph levels id outputPin sample = .error error) :
    evaluator.Founded graph levels id outputPin error := by
  -- Every level below follows one link back, so a failure there is founded at the link's source
  -- with one link less to go.
  induction levels generalizing id outputPin sample with
  | zero =>
      cases failed
      exact ⟨rfl, id, .nil id⟩
  | succ levels induction =>
      cases found : graph.node? id with
      | none =>
          rw [evaluateWithin_of_absent found] at failed
          cases failed
          exact ⟨rfl, Graph.node?_eq_none_iff.mp found⟩
      | some node =>
          obtain rfl := Graph.id_of_node? found
          have member := Graph.mem_of_node? found
          rw [evaluateWithin_succ found, meaning] at failed
          split_ifs at failed with beyond
          · cases failed
            exact ⟨⟨node, found, beyond⟩, .requested⟩
          · cases known : evaluator.formula? node.typeName with
            | none =>
                rw [known] at failed
                cases failed
                exact ⟨known, node, member, rfl, .refl⟩
            | some formula =>
                obtain ⟨operation, rfl⟩ := ofOperations.exists_operation known
                rw [known] at failed
                obtain ⟨pin, point, _, unresolved⟩ := operation.exists_resolve_error failed
                obtain ⟨link, feeds, failed_source⟩ := exists_source_error unresolved
                exact (induction failed_source).of_source stored feeds

/-- Every failure is founded.  Hence an existing output pin has a value if all types at and upstream
of the node have formulas, all upstream sources are existing pins, and the settings allow as many
nodes in a row as the graph has. -/
theorem evaluate_failure_founded {graph : Graph} (wellFormed : graph.WellFormed)
    {evaluator : Evaluator} (ofOperations : evaluator.OfOperations) (id : NodeId)
    (outputPin : UInt64) (sample : Vec2) :
    (∀ error, evaluator.evaluate graph id outputPin sample = .error error →
      evaluator.Founded graph (evaluator.settings.maxDepth.toNat + 1) id outputPin error) ∧
      (graph.HasOutput id outputPin →
        (∀ node ∈ graph.nodes, Leads graph.links node.id id →
          evaluator.hasFormula node.typeName = true) →
        (∀ reader inputPin link, Leads graph.links reader id →
          graph.inputLink? reader inputPin = some link →
            graph.HasOutput link.source link.sourcePin) →
        graph.nodes.length ≤ evaluator.settings.maxDepth.toNat + 1 →
        ∃ value, evaluator.evaluate graph id outputPin sample = .ok value) := by
  have founded (error : EvaluationError)
      (failed : evaluator.evaluate graph id outputPin sample = .error error) :
      evaluator.Founded graph (evaluator.settings.maxDepth.toNat + 1) id outputPin error :=
    founded_of_evaluateWithin ofOperations wellFormed.toEndsStored failed
  refine ⟨founded, fun output formulas sources room => ?_⟩
  cases outcome : evaluator.evaluate graph id outputPin sample with
  | ok value => exact ⟨value, rfl⟩
  | error error =>
      exfalso
      have founded := founded error outcome
      cases error with
      | nodeNotFound node => exact founded.2 output.mem
      | unknownNodeType name =>
          obtain ⟨no_formula, node, member, rfl, leads⟩ := founded
          have := formulas node member leads
          simp [hasFormula, no_formula] at this
      | pinOutOfRange node pin =>
          obtain ⟨⟨stored, found, beyond⟩, needs⟩ := founded
          have needed : graph.HasOutput node pin := by
            cases needs with
            | requested => exact output
            | source leads feeds => exact sources _ _ _ leads feeds
          exact absurd (needed.lt found) (Nat.not_lt.mpr beyond)
      | recursionLimit depth =>
          obtain ⟨_, start, chain⟩ := founded
          have := wellFormed.length_lt_of_chain chain output.mem
          omega

/-- Without a formula for noise the blend of noise and its blur has no value, because of a type
upstream; with all formulas it has a value at every sample point. -/
theorem evaluate_failure_founded_blurredNoise :
    blurredNoise.WellFormed ∧
      (withOperations ⟨256, 3⟩ [.blur, .blendAdd, .textureOutput]).evaluate blurredNoise ⟨1⟩ 0
        ⟨0.5, 0.5⟩ = .error (.unknownNodeType "Perlin Noise") ∧
      (∃ node ∈ blurredNoise.nodes, node.typeName = "Perlin Noise" ∧
        Leads blurredNoise.links node.id ⟨1⟩) ∧
      ∀ sample, ∃ value, (builtin ⟨256, 3⟩).evaluate blurredNoise ⟨1⟩ 0 sample = .ok value := by
  have reachable : blurredNoise.Reachable := Graph.Reachable.empty.afterEdits _ _
  have wellFormed := reachable.intact.toWellFormed
  have failed :
      (withOperations ⟨256, 3⟩ [.blur, .blendAdd, .textureOutput]).evaluate blurredNoise ⟨1⟩ 0
        ⟨0.5, 0.5⟩ = .error (.unknownNodeType "Perlin Noise") := by
    decide +kernel
  have some_operations := ofOperations_withOperations ⟨256, 3⟩ [.blur, .blendAdd, .textureOutput]
  have all_operations := ofOperations_withOperations ⟨256, 3⟩ Operation.all
  have upstream :=
    ((evaluate_failure_founded wellFormed some_operations ⟨1⟩ 0 ⟨0.5, 0.5⟩).1 _ failed).2
  have formulas : ∀ node ∈ blurredNoise.nodes,
      (withOperations ⟨256, 3⟩ Operation.all).hasFormula node.typeName = true := by
    decide +kernel
  have outputs : ∀ link ∈ blurredNoise.links,
      blurredNoise.HasOutput link.source link.sourcePin := by
    decide +kernel
  refine ⟨wellFormed, failed, upstream, fun sample => ?_⟩
  exact (evaluate_failure_founded wellFormed all_operations ⟨1⟩ 0 sample).2 (by decide +kernel)
    (fun node member _ => formulas node member)
    (fun _ _ link _ feeds => outputs link (Graph.mem_of_inputLink? feeds)) (by decide +kernel)

end Evaluator
end TextureGraph
