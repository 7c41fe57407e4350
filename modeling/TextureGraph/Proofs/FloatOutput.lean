import TextureGraph.Proofs.KnownType

/-!
# Float outputs

Built-in formulas carry colours, also out of pins that the catalogue declares numbers.  From such a
pin comes the opaque gray of a number, and whoever reads the gray reads the number.  Evaluation can
therefore not be told from one that hands on numbers.
-/

namespace TextureGraph

/-! ## Grays -/

/-- An outcome that can only be an opaque gray, or fail. -/
def Grays (outcome : Except EvaluationError Color) : Prop :=
  ∀ color, outcome = .ok color → ∃ level, color = Color.gray level

namespace Grays

theorem gray (level : Float32) : Grays (.ok (Color.gray level)) :=
  fun _ same => ⟨level, (Except.ok.inj same).symm⟩

theorem bind {α : Type} {first : Except EvaluationError α}
    {next : α → Except EvaluationError Color} (grays : ∀ result, Grays (next result)) :
    Grays (first >>= next) := by
  cases first with
  | error error => exact fun _ failed => nomatch failed
  | ok result => exact grays result

end Grays

/-- What an operation computes for an output pin that it declares a number. -/
theorem Operation.color_grays {operation : Operation} {outputPin : UInt64} {name : String}
    (declared : operation.outputs[outputPin.toNat]? = some (name, .float)) (inputs : Inputs) :
    Grays (operation.color inputs outputPin) := by
  have listed : (name, .float) ∈ operation.outputs := List.mem_of_getElem? declared
  cases operation with
  | perlinNoise | voronoi =>
      refine .bind fun uv => ?_
      refine .bind fun scale => ?_
      exact .bind fun detail => .gray _
  | checkerboard =>
      refine .bind fun uv => ?_
      exact .bind fun scale => .gray _
  | add | multiply | power =>
      refine .bind fun a => ?_
      exact .bind fun b => .gray _
  | lerp | clamp =>
      refine .bind fun a => ?_
      refine .bind fun b => ?_
      exact .bind fun t => .gray _
  | remap =>
      refine .bind fun value => ?_
      refine .bind fun low => ?_
      refine .bind fun high => ?_
      refine .bind fun targetLow => ?_
      exact .bind fun targetHigh => .gray _
  | channelSplit => exact .bind fun color => .gray _
  | gradient | solidColor | textureSample | blur | levels | invert | hsvAdjust | channelMerge
  | colorize | blendMultiply | blendOverlay | blendScreen | blendAdd | textureOutput =>
      simp [outputs] at listed

/-! ## Reading a gray -/

/-- A value that gives the same number, colour and point as another. -/
structure Value.ReadsAs (value other : Value) : Prop where
  asFloat : value.asFloat = other.asFloat
  asColor : value.asColor = other.asColor
  asVec2 : value.asVec2 = other.asVec2

theorem Value.gray_readsAs (level : Float32) :
    (Value.color (Color.gray level)).ReadsAs (.float level) :=
  ⟨rfl, rfl, rfl⟩

/-- Inputs from which a formula reads the same, in every way in which it can read them. -/
structure Inputs.ReadAlike (inputs other : Inputs) : Prop where
  float : ∀ pin, other.float pin = inputs.float pin
  colorAt : ∀ pin point, other.colorAt pin point = inputs.colorAt pin point
  color : ∀ pin, other.color pin = inputs.color pin
  vec2 : ∀ pin, other.vec2 pin = inputs.vec2 pin
  uv : ∀ pin, other.uv pin = inputs.uv pin

/-- Inputs with the same answers, except that one may have a value where the other has a substitute
for it. -/
structure Inputs.UpTo (substitutes : Value → Value → Prop) (inputs other : Inputs) : Prop where
  sample : other.sample = inputs.sample
  settings : other.settings = inputs.settings
  connected : other.isConnected = inputs.isConnected
  resolve : ∀ pin point, other.resolve pin point = inputs.resolve pin point ∨
    ∃ value substitute, inputs.resolve pin point = .ok (some value) ∧
      other.resolve pin point = .ok (some substitute) ∧ substitutes value substitute

namespace Inputs.UpTo

variable {inputs other : Inputs}

theorem mono {finer coarser : Value → Value → Prop} (upTo : inputs.UpTo finer other)
    (le : ∀ value substitute, finer value substitute → coarser value substitute) :
    inputs.UpTo coarser other where
  sample := upTo.sample
  settings := upTo.settings
  connected := upTo.connected
  resolve pin point := by
    refine (upTo.resolve pin point).imp_right ?_
    rintro ⟨value, substitute, answer, other_answer, related⟩
    exact ⟨value, substitute, answer, other_answer, le value substitute related⟩

theorem read {α : Type} {substitutes : Value → Value → Prop} (upTo : inputs.UpTo substitutes other)
    {convert : Value → α}
    (same : ∀ value substitute, substitutes value substitute → convert value = convert substitute)
    (unset : α) (pin : UInt64) (point : Vec2) :
    (other.resolve pin point >>= fun answer => pure (answer.elim unset convert)) =
      (inputs.resolve pin point >>= fun answer => pure (answer.elim unset convert)) := by
  rcases upTo.resolve pin point with equal | ⟨value, substitute, answer, other_answer, related⟩
  · rw [equal]
  · rw [answer, other_answer]
    exact congrArg Except.ok (same value substitute related).symm

variable (upTo : inputs.UpTo Value.ReadsAs other)
include upTo

theorem float (pin : UInt64) : other.float pin = inputs.float pin := by
  rw [Inputs.float, Inputs.float, upTo.sample]
  exact upTo.read (fun _ _ alike => alike.asFloat) 0.0 pin _

theorem colorAt (pin : UInt64) (point : Vec2) :
    other.colorAt pin point = inputs.colorAt pin point :=
  upTo.read (fun _ _ alike => alike.asColor) Color.white pin point

theorem color (pin : UInt64) : other.color pin = inputs.color pin := by
  rw [Inputs.color, Inputs.color, upTo.sample]
  exact upTo.colorAt pin _

theorem vec2 (pin : UInt64) : other.vec2 pin = inputs.vec2 pin := by
  rw [Inputs.vec2, Inputs.vec2, upTo.sample]
  exact upTo.read (fun _ _ alike => alike.asVec2) inputs.sample pin _

theorem uv (pin : UInt64) : other.uv pin = inputs.uv pin := by
  rw [Inputs.uv, Inputs.uv, upTo.vec2, upTo.sample, upTo.connected]

theorem readAlike : inputs.ReadAlike other :=
  ⟨upTo.float, upTo.colorAt, upTo.color, upTo.vec2, upTo.uv⟩

/-- Formulas read their inputs as numbers, colours and points only. -/
theorem formula (operation : Operation) (outputPin : UInt64) :
    operation.formula other outputPin = operation.formula inputs outputPin := by
  have same_color : operation.color other outputPin = operation.color inputs outputPin := by
    cases operation <;>
      simp only [Operation.color, Operation.blendInputs, upTo.float, upTo.color, upTo.colorAt,
        upTo.uv, upTo.sample, upTo.settings]
  rw [Operation.formula, Operation.formula, same_color]

end Inputs.UpTo

namespace Evaluator

/-! ## What comes out of a pin -/

/-- What a built-in formula gives for an output pin that the catalogue declares a number. -/
theorem exists_level_of_formula {settings : Settings} {operations : List Operation}
    {name : String} {formula : Formula} {type : NodeType} {outputPin : UInt64} {pin : Pin}
    {inputs : Inputs} {value : Value}
    (known : (withOperations settings operations).formula? name = some formula)
    (catalogued : Catalogue.builtin.get? name = some type)
    (declared : type.outputs[outputPin.toNat]? = some pin) (number : pin.type = .float)
    (computed : formula inputs outputPin = .ok value) :
    ∃ level, value = .color (Color.gray level) := by
  obtain ⟨operation, rfl, rfl⟩ := exists_operation_of_formula? known
  obtain rfl : operation.nodeType = type :=
    Option.some.inj ((Catalogue.get?_builtin_typeName operation).symm.trans catalogued)
  rw [Operation.nodeType, List.getElem?_map, Option.map_eq_some_iff] at declared
  obtain ⟨⟨pinName, pinType⟩, declared, rfl⟩ := declared
  obtain rfl : pinType = .float := number
  rw [Operation.formula] at computed
  cases result : operation.color inputs outputPin with
  | error error =>
      rw [result] at computed
      cases computed
  | ok color =>
      obtain ⟨level, rfl⟩ := Operation.color_grays declared inputs color result
      rw [result] at computed
      exact ⟨level, (Except.ok.inj computed).symm⟩

theorem exists_formula_of_evaluate {evaluator : Evaluator} {graph : Graph} {id : NodeId}
    {node : Node} (found : graph.node? id = some node) {outputPin : UInt64} {sample : Vec2}
    {value : Value} (computed : evaluator.evaluate graph id outputPin sample = .ok value) :
    ∃ formula inputs, evaluator.formula? node.typeName = some formula ∧
      formula inputs outputPin = .ok value := by
  rw [evaluate, evaluateWithin_succ found, meaning] at computed
  split_ifs at computed
  cases known : evaluator.formula? node.typeName with
  | none =>
      rw [known] at computed
      cases computed
  | some formula =>
      rw [known] at computed
      exact ⟨formula, _, rfl, computed⟩

/-! ## Evaluation that hands on numbers -/

/-- A value as its pin declares it: a number where a number is declared. -/
def handOn (type? : Option ValueType) (value : Value) : Value :=
  if type? = some .float then .float value.asFloat else value

/-- The declared type of an output pin of a built-in node type. -/
def outputType? (name : String) (outputPin : UInt64) : Option ValueType :=
  (Catalogue.builtin.get? name).bind fun type =>
    type.outputs[outputPin.toNat]?.map fun pin => pin.type

/-- The evaluator whose formulas hand on numbers out of pins that are declared numbers. -/
def withNumbers (evaluator : Evaluator) : Evaluator :=
  { evaluator with
    formulas := evaluator.formulas.map fun entry =>
      (entry.1, fun inputs outputPin =>
        handOn (outputType? entry.1 outputPin) <$> entry.2 inputs outputPin) }

theorem formula?_withNumbers (evaluator : Evaluator) (name : String) :
    evaluator.withNumbers.formula? name =
      (evaluator.formula? name).map fun formula inputs outputPin =>
        handOn (outputType? name outputPin) <$> formula inputs outputPin := by
  rw [formula?, formula?, withNumbers]
  induction evaluator.formulas with
  | nil => rfl
  | cons entry entries induction =>
      rw [List.map_cons, List.lookup_cons, List.lookup_cons, induction]
      by_cases same : name = entry.1
      · simp [same]
      · rw [beq_false_of_ne same]

/-- The same failures and values, but a number in place of its opaque gray. -/
def SameUpToNumbers (outcome other : Except EvaluationError Value) : Prop :=
  other = outcome ∨
    ∃ level, outcome = .ok (.color (Color.gray level)) ∧ other = .ok (.float level)

theorem upTo_inputsFrom (evaluator : Evaluator) (graph : Graph) {known other : NodeId → Meaning}
    (same : ∀ source pin point, SameUpToNumbers (known source pin point) (other source pin point))
    (node : Node) (sample : Vec2) :
    (evaluator.inputsFrom graph known node sample).UpTo Value.ReadsAs
      (evaluator.withNumbers.inputsFrom graph other node sample) where
  sample := rfl
  settings := rfl
  connected := rfl
  resolve pin point := by
    dsimp only [inputsFrom]
    cases graph.inputLink? node.id pin with
    | none => exact .inl rfl
    | some link =>
        dsimp only
        rcases same link.source link.sourcePin point with equal | ⟨level, gray, number⟩
        · exact .inl (congrArg _ equal)
        · rw [gray, number]
          exact .inr ⟨_, _, rfl, rfl, Value.gray_readsAs level⟩

theorem sameUpToNumbers_handOn {outcome : Except EvaluationError Value}
    {type? : Option ValueType}
    (gray : type? = some .float → ∀ value, outcome = .ok value →
      ∃ level, value = .color (Color.gray level)) :
    SameUpToNumbers outcome (handOn type? <$> outcome) := by
  cases outcome with
  | error error => exact .inl rfl
  | ok value =>
      by_cases number : type? = some .float
      · obtain ⟨level, rfl⟩ := gray number value rfl
        exact .inr ⟨level, rfl, congrArg Except.ok (if_pos number)⟩
      · exact .inl (congrArg Except.ok (if_neg number))

/-- At every request, evaluation that hands on numbers fails as evaluation does, and gives the same
value or the number whose gray that is. -/
theorem sameUpToNumbers_evaluateWithin (settings : Settings) (operations : List Operation)
    (graph : Graph) (levels : Nat) (id : NodeId) (outputPin : UInt64) (sample : Vec2) :
    SameUpToNumbers
      ((withOperations settings operations).evaluateWithin graph levels id outputPin sample)
      ((withOperations settings operations).withNumbers.evaluateWithin graph levels id outputPin
        sample) := by
  induction levels generalizing id outputPin sample with
  | zero => exact .inl rfl
  | succ levels induction =>
      cases found : graph.node? id with
      | none =>
          rw [evaluateWithin_of_absent found, evaluateWithin_of_absent found]
          exact .inl rfl
      | some node =>
          rw [evaluateWithin_succ found, evaluateWithin_succ found, meaning, meaning,
            formula?_withNumbers]
          split_ifs
          · exact .inl rfl
          · cases known : (withOperations settings operations).formula? node.typeName with
            | none => exact .inl rfl
            | some formula =>
                -- The inputs below may differ by numbers, which the formula cannot tell, so the two
                -- outcomes differ only by what is handed on here.
                have upTo := upTo_inputsFrom (withOperations settings operations) graph induction
                  node sample
                obtain ⟨operation, _, rfl⟩ := exists_operation_of_formula? known
                dsimp only [Option.map_some]
                rw [upTo.formula operation outputPin]
                refine sameUpToNumbers_handOn fun number value computed => ?_
                rw [outputType?, Option.bind_eq_some_iff] at number
                obtain ⟨type, catalogued, number⟩ := number
                rw [Option.map_eq_some_iff] at number
                obtain ⟨pin, declared, number⟩ := number
                exact exists_level_of_formula known catalogued declared number computed

/-! ## Numbers and their grays -/

/-- A value out of a pin that the catalogue declares a number is read as that number: it gives the
same colour and the same point, and inputs that hold the number in its place are read alike.  Nor
can any node of the graph tell from what it reads whether all such pins hand on numbers. -/
theorem float_output_reads_as_number {settings : Settings} {operations : List Operation}
    {graph : Graph} {id : NodeId} {node : Node} (found : graph.node? id = some node)
    {type : NodeType} (catalogued : Catalogue.builtin.get? node.typeName = some type)
    {outputPin : UInt64} {pin : Pin} (declared : type.outputs[outputPin.toNat]? = some pin)
    (number : pin.type = .float) {sample : Vec2} {value : Value}
    (computed : (withOperations settings operations).evaluate graph id outputPin sample =
      .ok value) :
    value.asColor = (Value.float value.asFloat).asColor ∧
      value.asVec2 = (Value.float value.asFloat).asVec2 ∧
      (∀ inputs other : Inputs,
        inputs.UpTo (fun held substitute => held = value ∧ substitute = .float value.asFloat)
          other →
        inputs.ReadAlike other) ∧
      ∀ levels reader point,
        ((withOperations settings operations).inputsFrom graph
            ((withOperations settings operations).evaluateWithin graph levels) reader
            point).ReadAlike
          ((withOperations settings operations).withNumbers.inputsFrom graph
            ((withOperations settings operations).withNumbers.evaluateWithin graph levels) reader
            point) := by
  obtain ⟨formula, _, known, computed⟩ := exists_formula_of_evaluate found computed
  obtain ⟨level, rfl⟩ := exists_level_of_formula known catalogued declared number computed
  have alike := Value.gray_readsAs level
  refine ⟨alike.asColor, alike.asVec2, fun inputs other upTo => ?_, fun levels reader point => ?_⟩
  · have upTo : inputs.UpTo Value.ReadsAs other := by
      refine upTo.mono ?_
      rintro _ _ ⟨rfl, rfl⟩
      exact alike
    exact upTo.readAlike
  · have same := sameUpToNumbers_evaluateWithin settings operations graph levels
    exact (upTo_inputsFrom (withOperations settings operations) graph same reader point).readAlike

/-- A translucent colour and its four channels. -/
def splitColor : Graph :=
  Graph.empty.afterEdits .builtin
    [.addNode "Solid Color" ⟨0.0, 0.0⟩, .addNode "Channel Split" ⟨0.0, 0.0⟩,
      .setInputDefault ⟨1⟩ 0 (.color ⟨0.25, 0.5, 0.75, 0.5⟩), .connect ⟨⟨1⟩, 0, ⟨2⟩, 0⟩]

/-- Inputs of a node that all hold one value. -/
def inputsHolding (node : Node) (value : Value) : Inputs :=
  ⟨node, ⟨0.0, 0.0⟩, ⟨256, 1⟩, fun _ => true, fun _ _ => .ok (some value)⟩

/-- The last output of a split is the alpha channel, which comes as an opaque gray. -/
theorem float_output_reads_as_number_splitColor :
    Operation.channelSplit.nodeType.outputs[(3 : UInt64).toNat]? = some (.output "A" .float) ∧
      ∃ node, splitColor.node? ⟨2⟩ = some node ∧
        Catalogue.builtin.get? node.typeName = some Operation.channelSplit.nodeType ∧
        (builtin ⟨256, 1⟩).evaluate splitColor ⟨2⟩ 3 ⟨0.0, 0.0⟩ =
          .ok (.color ⟨0.5, 0.5, 0.5, 1.0⟩) ∧
        (builtin ⟨256, 1⟩).withNumbers.evaluate splitColor ⟨2⟩ 3 ⟨0.0, 0.0⟩ = .ok (.float 0.5) ∧
        (Value.color ⟨0.5, 0.5, 0.5, 1.0⟩).asColor = (Value.float 0.5).asColor ∧
        (Value.color ⟨0.5, 0.5, 0.5, 1.0⟩).asVec2 = (Value.float 0.5).asVec2 ∧
        ∀ input, (inputsHolding node (.float 0.5)).uv input =
          (inputsHolding node (.color ⟨0.5, 0.5, 0.5, 1.0⟩)).uv input := by
  have declared : Operation.channelSplit.nodeType.outputs[(3 : UInt64).toNat]? =
      some (.output "A" .float) := by
    decide +kernel
  obtain ⟨node, found⟩ :=
    Graph.exists_node?_of_mem (show (⟨2⟩ : NodeId) ∈ splitColor.nodeIds by decide +kernel)
  have named : node.typeName = Operation.channelSplit.typeName := by
    have names : (splitColor.node? ⟨2⟩).map (fun node => node.typeName) =
        some Operation.channelSplit.typeName := by
      decide +kernel
    rw [found] at names
    exact Option.some.inj names
  have catalogued : Catalogue.builtin.get? node.typeName = some Operation.channelSplit.nodeType :=
    named ▸ Catalogue.get?_builtin_typeName .channelSplit
  have computed : (withOperations ⟨256, 1⟩ Operation.all).evaluate splitColor ⟨2⟩ 3 ⟨0.0, 0.0⟩ =
      .ok (.color ⟨0.5, 0.5, 0.5, 1.0⟩) := by
    decide +kernel
  obtain ⟨color, vec2, untold, _⟩ :=
    float_output_reads_as_number found catalogued declared rfl computed
  have upTo : (inputsHolding node (.color ⟨0.5, 0.5, 0.5, 1.0⟩)).UpTo
      (fun held substitute => held = .color ⟨0.5, 0.5, 0.5, 1.0⟩ ∧ substitute = .float 0.5)
      (inputsHolding node (.float 0.5)) :=
    ⟨rfl, rfl, rfl, fun _ _ => .inr ⟨_, _, rfl, rfl, rfl, rfl⟩⟩
  exact ⟨declared, node, found, catalogued, computed, by decide +kernel, color, vec2,
    (untold _ _ upTo).uv⟩

end Evaluator
end TextureGraph
