import TextureGraph.Proofs.Failure

/-!
# The depth limit

The limit on how many links may be followed in a row decides whether a request has an outcome, and
never which one.  An outcome other than hitting the limit stays under every higher limit, a limit of
one less than the number of nodes is never hit, and no request lies so deep that 32 bits could not
count the links that lead to it.
-/

namespace TextureGraph

/-- An outcome other than hitting the limit. -/
def Settled {α : Type} (outcome : Except EvaluationError α) : Prop :=
  ∀ limit, outcome ≠ .error (.recursionLimit limit)

theorem Settled.of_map {α β : Type} {convert : α → β} {outcome : Except EvaluationError α}
    (settled : Settled (convert <$> outcome)) : Settled outcome := by
  rintro limit rfl
  exact settled limit rfl

/-! ## Formulas -/

theorem Reading.run_eq_of_settled {width : Nat} {α : Type} (reading : Reading width α)
    {inputs other : Inputs} (resolution : other.settings.resolution = inputs.settings.resolution)
    (sample : other.sample = inputs.sample) (connected : other.isConnected = inputs.isConnected)
    (resolve : ∀ pin point, Settled (inputs.resolve pin point) →
      other.resolve pin point = inputs.resolve pin point)
    (settled : Settled (reading.run inputs)) : reading.run other = reading.run inputs := by
  induction reading with
  | done result => rfl
  | resolution next induction =>
      rw [run, resolution]
      exact induction _ settled
  | sample next induction =>
      rw [run, sample]
      exact induction _ settled
  | connected pin _ next induction =>
      rw [run, connected]
      exact induction _ settled
  | value pin _ point next induction =>
      rw [run] at settled
      have answer_settled : Settled (inputs.resolve pin point) := by
        intro limit hit
        rw [hit] at settled
        exact settled limit rfl
      rw [run, run, resolve pin point answer_settled]
      cases answered : inputs.resolve pin point with
      | error error => rfl
      | ok answer =>
          rw [answered] at settled
          exact induction answer settled

theorem Operation.formula_eq_of_settled (operation : Operation) (outputPin : UInt64)
    {inputs other : Inputs} (resolution : other.settings.resolution = inputs.settings.resolution)
    (sample : other.sample = inputs.sample) (connected : other.isConnected = inputs.isConnected)
    (resolve : ∀ pin point, Settled (inputs.resolve pin point) →
      other.resolve pin point = inputs.resolve pin point)
    (settled : Settled (operation.formula inputs outputPin)) :
    operation.formula other outputPin = operation.formula inputs outputPin := by
  obtain ⟨reading, runs⟩ := operation.formula_isReading outputPin
  dsimp only at runs
  rw [runs] at settled
  rw [runs, runs]
  exact reading.run_eq_of_settled resolution sample connected resolve settled

namespace Evaluator

/-! ## Higher limits -/

theorem withOperations_eq (settings other : Settings) (operations : List Operation) :
    withOperations settings operations =
      { withOperations other operations with settings := settings } := by
  let step (evaluator : Evaluator) (operation : Operation) : Evaluator :=
    evaluator.register operation.typeName operation.formula
  let set (evaluator : Evaluator) : Evaluator := { evaluator with settings := settings }
  change operations.foldl step (set (empty other)) = set (operations.foldl step (empty other))
  exact List.foldl_hom set fun _ _ => rfl

theorem settings_withOperations (settings : Settings) (operations : List Operation) :
    (withOperations settings operations).settings = settings := by
  rw [withOperations_eq settings settings]

theorem formulas_withOperations (settings other : Settings) (operations : List Operation) :
    (withOperations settings operations).formulas =
      (withOperations other operations).formulas := by
  rw [withOperations_eq settings other]

variable {evaluator deeper : Evaluator} {graph : Graph}

theorem meaning_eq_of_settled (ofOperations : evaluator.OfOperations)
    (formulas : deeper.formulas = evaluator.formulas)
    (resolution : deeper.settings.resolution = evaluator.settings.resolution)
    {known deeperKnown : NodeId → Meaning}
    (sources : ∀ source pin point, Settled (known source pin point) →
      deeperKnown source pin point = known source pin point)
    {node : Node} {outputPin : UInt64} {sample : Vec2}
    (settled : Settled (evaluator.meaning graph known node outputPin sample)) :
    deeper.meaning graph deeperKnown node outputPin sample =
      evaluator.meaning graph known node outputPin sample := by
  have same_formula : deeper.formula? node.typeName = evaluator.formula? node.typeName := by
    rw [formula?, formula?, formulas]
  rw [meaning] at settled
  rw [meaning, meaning, same_formula]
  split_ifs at settled ⊢ with beyond
  · rfl
  · cases known_formula : evaluator.formula? node.typeName with
    | none => rfl
    | some formula =>
        obtain ⟨operation, rfl⟩ := ofOperations.exists_operation known_formula
        rw [known_formula] at settled
        refine operation.formula_eq_of_settled outputPin resolution rfl rfl (fun pin point => ?_)
          settled
        dsimp only [inputsFrom]
        cases graph.inputLink? node.id pin with
        | none => exact fun _ => rfl
        | some link =>
            intro answer_settled
            dsimp only at answer_settled ⊢
            rw [sources _ _ _ answer_settled.of_map]

/-- An outcome that did not hit the limit is the same with more levels. -/
theorem evaluateWithin_eq_of_settled (ofOperations : evaluator.OfOperations)
    (formulas : deeper.formulas = evaluator.formulas)
    (resolution : deeper.settings.resolution = evaluator.settings.resolution)
    {levels more : Nat} (le : levels ≤ more) {id : NodeId} {outputPin : UInt64} {sample : Vec2}
    (settled : Settled (evaluator.evaluateWithin graph levels id outputPin sample)) :
    deeper.evaluateWithin graph more id outputPin sample =
      evaluator.evaluateWithin graph levels id outputPin sample := by
  induction levels generalizing more id outputPin sample with
  | zero => exact absurd rfl (settled _)
  | succ levels induction =>
      obtain ⟨more, rfl⟩ : ∃ fewer, more = fewer + 1 :=
        Nat.exists_eq_succ_of_ne_zero (by omega)
      cases found : graph.node? id with
      | none => rw [evaluateWithin_of_absent found, evaluateWithin_of_absent found]
      | some node =>
          rw [evaluateWithin_succ found] at settled ⊢
          rw [evaluateWithin_succ found]
          exact meaning_eq_of_settled ofOperations formulas resolution
            (fun _ _ _ => induction (Nat.le_of_succ_le_succ le)) settled

end Evaluator

/-! ## How deep requests go -/

theorem LinkChain.cons {links : List Link} {length : Nat} {start next goal : NodeId}
    (linked : Linked links start next) (chain : LinkChain links length next goal) :
    LinkChain links (length + 1) start goal := by
  induction chain with
  | nil => exact .snoc (.nil start) linked
  | snoc _ last induction => exact .snoc (induction linked) last

namespace Graph

/-- The requests that an evaluation may make, each with the number of links followed to it: the
given one, and for each of them the sources of the oldest links into the inputs of its node. -/
inductive Requests (graph : Graph) (id : NodeId) (outputPin : UInt64) :
    (depth : Nat) → NodeId → UInt64 → Prop
  | given : Requests graph id outputPin 0 id outputPin
  | source {depth : Nat} {reader : NodeId} {readerPin inputPin : UInt64} {link : Link} :
      Requests graph id outputPin depth reader readerPin →
      graph.inputLink? reader inputPin = some link →
      Requests graph id outputPin (depth + 1) link.source link.sourcePin

theorem Requests.chain {graph : Graph} {id node : NodeId} {outputPin pin : UInt64} {depth : Nat}
    (requests : graph.Requests id outputPin depth node pin) :
    LinkChain graph.links depth node id := by
  induction requests with
  | given => exact .nil id
  | source _ feeds induction => exact induction.cons (Evaluator.linked_of_inputLink? feeds)

theorem length_nodes_le {graph : Graph} (nodeIds_nodup : graph.nodeIds.Nodup) :
    graph.nodes.length ≤ UInt32.size := by
  let number (id : NodeId) : Nat := id.val.toNat
  have injective : Function.Injective number := by
    rintro ⟨first⟩ ⟨second⟩ same
    exact congrArg NodeId.mk (UInt32.toNat_inj.mp same)
  have within : graph.nodeIds.map number ⊆ List.range UInt32.size := by
    intro value member
    obtain ⟨id, _, rfl⟩ := List.mem_map.mp member
    exact List.mem_range.mpr id.val.toNat_lt
  have short := ((nodeIds_nodup.map injective).subperm within).length_le
  simpa [nodeIds] using short

theorem WellFormed.chain_length_lt_size {graph : Graph} (wellFormed : graph.WellFormed)
    {length : Nat} {start goal : NodeId} (chain : LinkChain graph.links length start goal)
    (goal_mem : goal ∈ graph.nodeIds) : length < UInt32.size :=
  Nat.lt_of_lt_of_le (wellFormed.length_lt_of_chain chain goal_mem)
    (length_nodes_le wellFormed.nodeIds_nodup)

end Graph

namespace Evaluator

/-! ## Counting in 32 bits -/

variable {evaluator : Evaluator} {graph : Graph}

/-- The value of an output pin to which `depth` links were followed, counted in 32 bits: each source
is asked with the count increased by one.  Where 32 bits cannot hold the increased count, the answer
is whatever `overflow` gives. -/
def evaluateAtDepth (evaluator : Evaluator) (graph : Graph) (overflow : NodeId → Meaning)
    (depth : UInt32) (id : NodeId) (outputPin : UInt64) (sample : Vec2) :
    Except EvaluationError Value :=
  if _ : evaluator.settings.maxDepth < depth then
    .error (.recursionLimit evaluator.settings.maxDepth)
  else
    match graph.node? id with
    | none => .error (.nodeNotFound id)
    | some node =>
        let known : NodeId → Meaning :=
          match _ : nextId? depth with
          | none => overflow
          | some next => evaluator.evaluateAtDepth graph overflow next
        evaluator.meaning graph known node outputPin sample
termination_by evaluator.settings.maxDepth.toNat + 1 - depth.toNat
decreasing_by
  rename_i beyond counted
  obtain ⟨unfinished, rfl⟩ := nextId?_eq_some_iff.mp counted
  have next_toNat := toNat_add_one unfinished
  rw [UInt32.lt_iff_toNat_lt] at beyond
  omega

theorem evaluateAtDepth_within {overflow : NodeId → Meaning} {depth : UInt32}
    (within : ¬evaluator.settings.maxDepth < depth) {id : NodeId} {node : Node}
    (found : graph.node? id = some node) :
    evaluator.evaluateAtDepth graph overflow depth id =
      evaluator.meaning graph
        ((nextId? depth).elim overflow (evaluator.evaluateAtDepth graph overflow)) node := by
  funext outputPin sample
  rw [evaluateAtDepth, dif_neg within, found]
  dsimp only
  split
  · rename_i finished
    rw [finished, Option.elim_none]
  · rename_i counted
    rw [counted, Option.elim_some]

/-- After a chain of links back from a node of the graph, evaluation that counts agrees with
evaluation within the levels that are left. -/
theorem evaluateAtDepth_eq (wellFormed : graph.WellFormed) (overflow : NodeId → Meaning)
    {goal : NodeId} (goal_mem : goal ∈ graph.nodeIds) {levels : Nat} {depth : UInt32}
    (left : depth.toNat + levels = evaluator.settings.maxDepth.toNat + 1) {id : NodeId}
    (chain : LinkChain graph.links depth.toNat id goal) :
    evaluator.evaluateAtDepth graph overflow depth id =
      evaluator.evaluateWithin graph levels id := by
  induction levels generalizing depth id with
  | zero =>
      have beyond : evaluator.settings.maxDepth < depth := UInt32.lt_iff_toNat_lt.mpr (by omega)
      funext outputPin sample
      rw [evaluateAtDepth, dif_pos beyond, evaluateWithin]
  | succ levels induction =>
      have within : ¬evaluator.settings.maxDepth < depth := by
        rw [UInt32.lt_iff_toNat_lt]
        omega
      cases found : graph.node? id with
      | none =>
          funext outputPin sample
          rw [evaluateAtDepth, dif_neg within, found, evaluateWithin_of_absent found]
      | some node =>
          rw [evaluateAtDepth_within within found, evaluateWithin_succ found]
          apply meaning_congr
          intro source linked
          rw [Graph.id_of_node? found] at linked
          -- Only where a source is asked does the count grow, and then the chain to that source
          -- is short enough to be counted.
          have longer : LinkChain graph.links (depth.toNat + 1) source goal := chain.cons linked
          have unfinished : depth ≠ lastId :=
            ne_lastId_iff.mpr (wellFormed.chain_length_lt_size longer goal_mem)
          have next_toNat := toNat_add_one unfinished
          rw [nextId?_eq_some_iff.mpr ⟨unfinished, rfl⟩, Option.elim_some]
          apply induction
          · omega
          · rw [next_toNat]
            exact longer

/-- Whatever an overflow of the count would give, evaluation gives what counting in 32 bits
gives. -/
theorem evaluateAtDepth_zero (wellFormed : graph.WellFormed) (overflow : NodeId → Meaning)
    (id : NodeId) (outputPin : UInt64) (sample : Vec2) :
    evaluator.evaluateAtDepth graph overflow 0 id outputPin sample =
      evaluator.evaluate graph id outputPin sample := by
  by_cases present : id ∈ graph.nodeIds
  · rw [evaluate, evaluateAtDepth_eq wellFormed overflow present (Nat.zero_add _) (.nil id)]
  · have absent := Graph.node?_eq_none_iff.mpr present
    have within : ¬evaluator.settings.maxDepth < 0 := UInt32.not_lt_zero
    rw [evaluateAtDepth, dif_neg within, absent, evaluate, evaluateWithin_of_absent absent]

/-! ## The limit -/

theorem settled_evaluate (ofOperations : evaluator.OfOperations) (wellFormed : graph.WellFormed)
    (room : graph.nodes.length - 1 ≤ evaluator.settings.maxDepth.toNat) (id : NodeId)
    (outputPin : UInt64) (sample : Vec2) :
    Settled (evaluator.evaluate graph id outputPin sample) := by
  intro limit hit
  have stored := wellFormed.toEndsStored
  obtain ⟨_, start, chain⟩ := founded_of_evaluateWithin ofOperations stored hit
  cases chain with
  | snoc before last =>
      have id_mem : id ∈ graph.nodeIds := stored.target_mem_of_path (.single last)
      have := wellFormed.length_lt_of_chain (before.snoc last) id_mem
      omega

/-- On a well-formed graph, whichever built-in operations are known: an outcome under one limit,
other than hitting it, is the outcome under every higher limit, and a limit of one less than the
number of nodes is never hit.  No request for a present node leads to one that as many links were
followed to as there are nodes, or as 32 bits cannot count; so counting the links in 32 bits gives
the same under every limit, whatever would come of an overflow. -/
theorem depth_limit_only_cuts {graph : Graph} (wellFormed : graph.WellFormed)
    (operations : List Operation) (resolution : UInt32) (id : NodeId) (outputPin : UInt64)
    (sample : Vec2) :
    (∀ shallow deep : UInt32, shallow ≤ deep →
      (∀ limit, (withOperations ⟨resolution, shallow⟩ operations).evaluate graph id outputPin
        sample ≠ .error (.recursionLimit limit)) →
      (withOperations ⟨resolution, deep⟩ operations).evaluate graph id outputPin sample =
        (withOperations ⟨resolution, shallow⟩ operations).evaluate graph id outputPin sample) ∧
      (∀ depth : UInt32, graph.nodes.length - 1 ≤ depth.toNat → ∀ limit,
        (withOperations ⟨resolution, depth⟩ operations).evaluate graph id outputPin sample ≠
          .error (.recursionLimit limit)) ∧
      (id ∈ graph.nodeIds → ∀ depth node pin, graph.Requests id outputPin depth node pin →
        depth < graph.nodes.length ∧ depth < UInt32.size) ∧
      ∀ depth overflow,
        (withOperations ⟨resolution, depth⟩ operations).evaluateAtDepth graph overflow 0 id
            outputPin sample =
          (withOperations ⟨resolution, depth⟩ operations).evaluate graph id outputPin sample := by
  have known (depth : UInt32) : (withOperations ⟨resolution, depth⟩ operations).OfOperations :=
    ofOperations_withOperations _ operations
  have settings (depth : UInt32) :
      (withOperations ⟨resolution, depth⟩ operations).settings = ⟨resolution, depth⟩ :=
    settings_withOperations _ operations
  refine ⟨fun shallow deep le settled => ?_, fun depth room => ?_, fun present => ?_,
    fun depth overflow => evaluateAtDepth_zero wellFormed overflow id outputPin sample⟩
  · have levels_le : shallow.toNat + 1 ≤ deep.toNat + 1 :=
      Nat.succ_le_succ (UInt32.le_iff_toNat_le.mp le)
    rw [evaluate, settings] at settled
    rw [evaluate, evaluate, settings, settings]
    exact evaluateWithin_eq_of_settled (known shallow) (formulas_withOperations _ _ operations)
      (by rw [settings, settings]) levels_le settled
  · exact settled_evaluate (known depth) wellFormed (by rwa [settings]) id outputPin sample
  · intro depth node pin requests
    exact ⟨wellFormed.length_lt_of_chain requests.chain present,
      wellFormed.chain_length_lt_size requests.chain present⟩

/-- Three links lead from the noise through blur and blend to the output.  A limit of two is hit at
the noise, and every limit from three on gives what the limit of three gives. -/
theorem depth_limit_only_cuts_blurredNoise :
    blurredNoise.WellFormed ∧
      (builtin ⟨256, 2⟩).evaluate blurredNoise ⟨1⟩ 0 ⟨0.5, 0.5⟩ = .error (.recursionLimit 2) ∧
      (∀ sample, (builtin ⟨256, 4294967295⟩).evaluate blurredNoise ⟨1⟩ 0 sample =
        (builtin ⟨256, 3⟩).evaluate blurredNoise ⟨1⟩ 0 sample) ∧
      blurredNoise.Requests ⟨1⟩ 0 3 ⟨2⟩ 0 ∧
      ∀ depth node pin, blurredNoise.Requests ⟨1⟩ 0 depth node pin → depth < 4 := by
  have reachable : blurredNoise.Reachable := Graph.Reachable.empty.afterEdits _ _
  have wellFormed := reachable.intact.toWellFormed
  have size : blurredNoise.nodes.length = 4 := by decide +kernel
  have present : (⟨1⟩ : NodeId) ∈ blurredNoise.nodeIds := by decide +kernel
  have cuts (sample : Vec2) :=
    depth_limit_only_cuts wellFormed Operation.all 256 ⟨1⟩ 0 sample
  have deepest : blurredNoise.Requests ⟨1⟩ 0 3 ⟨2⟩ 0 := by
    have blend : blurredNoise.inputLink? ⟨1⟩ 0 = some ⟨⟨⟨4⟩, 0, ⟨1⟩, 0⟩, ⟨4⟩⟩ := by decide +kernel
    have blur : blurredNoise.inputLink? ⟨4⟩ 1 = some ⟨⟨⟨3⟩, 0, ⟨4⟩, 1⟩, ⟨3⟩⟩ := by decide +kernel
    have noise : blurredNoise.inputLink? ⟨3⟩ 0 = some ⟨⟨⟨2⟩, 0, ⟨3⟩, 0⟩, ⟨1⟩⟩ := by decide +kernel
    exact .source (.source (.source .given blend) blur) noise
  refine ⟨wellFormed, by decide +kernel, fun sample => ?_, deepest, fun depth node pin asked => ?_⟩
  · have room : blurredNoise.nodes.length - 1 ≤ (3 : UInt32).toNat := by rw [size]; decide
    obtain ⟨stays, settles, _⟩ := cuts sample
    exact stays 3 4294967295 (by decide) (settles 3 room)
  · obtain ⟨_, _, bounded, _⟩ := cuts ⟨0.0, 0.0⟩
    exact size ▸ (bounded present depth node pin asked).1

end Evaluator
end TextureGraph
