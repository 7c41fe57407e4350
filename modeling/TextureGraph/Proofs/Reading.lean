import Mathlib.Tactic.Choose
import Mathlib.Tactic.SplitIfs
import TextureGraph.Operation.Catalogue
import TextureGraph.Operation.Formula

/-!
# Formulas as readings

A reading asks one question after the other about the inputs of a node, each question chosen by the
answers before it.  Every built-in formula is a reading of the input pins that its type declares.
It therefore knows nothing else about its node, and it fails only with the failure of a pin that it
reads.
-/

namespace TextureGraph

/-- Questions about the inputs of a node that lead to a result; of the input pins only the first
`width` may be asked about. -/
inductive Reading (width : Nat) (α : Type) where
  /-- Nothing more is asked. -/
  | done (result : α)
  /-- Asks for the resolution that the evaluator is set to. -/
  | resolution (next : UInt32 → Reading width α)
  /-- Asks for the sample point. -/
  | sample (next : Vec2 → Reading width α)
  /-- Asks whether a link feeds a pin. -/
  | connected (pin : UInt64) (declared : pin.toNat < width) (next : Bool → Reading width α)
  /-- Asks for the value of a pin at a sample point; a pin that fails ends the reading. -/
  | value (pin : UInt64) (declared : pin.toNat < width) (point : Vec2)
      (next : Option Value → Reading width α)

namespace Reading

variable {width : Nat} {α β : Type}

/-- The result of a reading when the inputs answer. -/
def run (inputs : Inputs) : Reading width α → Except EvaluationError α
  | done result => .ok result
  | resolution next => (next inputs.settings.resolution).run inputs
  | sample next => (next inputs.sample).run inputs
  | connected pin _ next => (next (inputs.isConnected pin)).run inputs
  | value pin _ point next => do
      let answer ← inputs.resolve pin point
      (next answer).run inputs

/-- One reading after another. -/
def bind (reading : Reading width α) (next : α → Reading width β) : Reading width β :=
  match reading with
  | done result => next result
  | resolution later => .resolution fun answer => (later answer).bind next
  | sample later => .sample fun answer => (later answer).bind next
  | connected pin declared later => .connected pin declared fun answer => (later answer).bind next
  | value pin declared point later =>
      .value pin declared point fun answer => (later answer).bind next

theorem run_bind (inputs : Inputs) (reading : Reading width α) (next : α → Reading width β) :
    (reading.bind next).run inputs =
      reading.run inputs >>= fun result => (next result).run inputs := by
  induction reading with
  | done result => rfl
  | resolution later induction => exact induction inputs.settings.resolution
  | sample later induction => exact induction inputs.sample
  | connected pin _ later induction => exact induction (inputs.isConnected pin)
  | value pin _ point later induction =>
      simp only [bind, run, bind_assoc]
      exact bind_congr fun answer => induction answer

/-- A reading fails only with the failure of a pin that it asks about. -/
theorem exists_resolve_error {reading : Reading width α} {inputs : Inputs} {error : EvaluationError}
    (failed : reading.run inputs = .error error) :
    ∃ pin point, pin.toNat < width ∧ inputs.resolve pin point = .error error := by
  induction reading with
  | done result => cases failed
  | resolution next induction => exact induction inputs.settings.resolution failed
  | sample next induction => exact induction inputs.sample failed
  | connected pin _ next induction => exact induction (inputs.isConnected pin) failed
  | value pin declared point next induction =>
      rw [run] at failed
      cases answered : inputs.resolve pin point with
      | error other =>
          rw [answered] at failed
          cases failed
          exact ⟨pin, point, declared, answered⟩
      | ok answer =>
          rw [answered] at failed
          exact induction answer failed

end Reading

/-- A computation on the inputs of a node is some reading of the first `width` input pins. -/
def IsReading {α : Type} (width : Nat) (compute : Inputs → Except EvaluationError α) : Prop :=
  ∃ reading : Reading width α, ∀ inputs, compute inputs = reading.run inputs

namespace IsReading

variable {width : Nat} {α β : Type}

theorem pure (result : α) : IsReading width fun _ => .ok result :=
  ⟨.done result, fun _ => rfl⟩

theorem bind {first : Inputs → Except EvaluationError α}
    {next : α → Inputs → Except EvaluationError β} (first_reading : IsReading width first)
    (next_reading : ∀ result, IsReading width (next result)) :
    IsReading width fun inputs => first inputs >>= fun result => next result inputs := by
  obtain ⟨reading, runs⟩ := first_reading
  choose later later_runs using next_reading
  refine ⟨reading.bind later, fun inputs => ?_⟩
  rw [Reading.run_bind, ← runs]
  exact bind_congr fun result => later_runs result inputs

theorem map {compute : Inputs → Except EvaluationError α} (convert : α → β)
    (reading : IsReading width compute) :
    IsReading width fun inputs => convert <$> compute inputs := by
  simp only [map_eq_pure_bind]
  exact reading.bind fun result => pure (convert result)

theorem ite {condition : Prop} [Decidable condition]
    {first second : Inputs → Except EvaluationError α} (first_reading : IsReading width first)
    (second_reading : IsReading width second) :
    IsReading width fun inputs => if condition then first inputs else second inputs := by
  by_cases holds : condition
  · simpa only [if_pos holds] using first_reading
  · simpa only [if_neg holds] using second_reading

theorem foldlM {step : Inputs → β → α → Except EvaluationError β}
    (step_reading : ∀ state item, IsReading width fun inputs => step inputs state item)
    (items : List α) (state : β) :
    IsReading width fun inputs => items.foldlM (step inputs) state := by
  induction items generalizing state with
  | nil => exact pure state
  | cons item items induction =>
      simp only [List.foldlM_cons]
      exact (step_reading state item).bind induction

/-! ## What formulas read -/

theorem float {pin : UInt64} (declared : pin.toNat < width) :
    IsReading width fun inputs => inputs.float pin :=
  ⟨.sample fun sample => .value pin declared sample fun answer =>
    .done (answer.elim 0.0 Value.asFloat), fun _ => rfl⟩

theorem colorAt {pin : UInt64} (declared : pin.toNat < width) (point : UInt32 → Vec2 → Vec2) :
    IsReading width fun inputs =>
      inputs.colorAt pin (point inputs.settings.resolution inputs.sample) :=
  ⟨.resolution fun resolution => .sample fun sample =>
    .value pin declared (point resolution sample) fun answer =>
      .done (answer.elim Color.white Value.asColor), fun _ => rfl⟩

theorem color {pin : UInt64} (declared : pin.toNat < width) :
    IsReading width fun inputs => inputs.color pin :=
  colorAt declared fun _ sample => sample

theorem uv {pin : UInt64} (declared : pin.toNat < width) :
    IsReading width fun inputs => inputs.uv pin := by
  have vec2 : IsReading width fun inputs => inputs.vec2 pin :=
    ⟨.sample fun sample => .value pin declared sample fun answer =>
      .done (answer.elim sample Value.asVec2), fun _ => rfl⟩
  refine vec2.bind fun point => ?_
  refine ⟨.connected pin declared fun connected => .sample fun sample =>
    .done (if point == ⟨0.0, 0.0⟩ && !connected then sample else point), fun inputs => ?_⟩
  simp only [Reading.run]
  split_ifs <;> rfl

end IsReading

namespace Operation

/-- Every built-in colour is a reading of the declared input pins. -/
theorem color_isReading (operation : Operation) (outputPin : UInt64) :
    IsReading operation.inputs.length fun inputs => operation.color inputs outputPin := by
  cases operation with
  | perlinNoise | voronoi =>
      refine .bind (.uv (by decide)) fun uv => ?_
      refine .bind (.float (by decide)) fun scale => ?_
      exact .bind (.float (by decide)) fun detail => .pure _
  | checkerboard =>
      refine .bind (.uv (by decide)) fun uv => ?_
      exact .bind (.float (by decide)) fun scale => .pure _
  | gradient =>
      refine .bind (.uv (by decide)) fun uv => ?_
      refine .bind (.color (by decide)) fun a => ?_
      exact .bind (.color (by decide)) fun b => .pure _
  | solidColor | textureOutput => exact .color (by decide)
  | textureSample => exact .pure _
  | add | multiply | power =>
      refine .bind (.float (by decide)) fun a => ?_
      exact .bind (.float (by decide)) fun b => .pure _
  | lerp | clamp =>
      refine .bind (.float (by decide)) fun a => ?_
      refine .bind (.float (by decide)) fun b => ?_
      exact .bind (.float (by decide)) fun t => .pure _
  | remap =>
      refine .bind (.float (by decide)) fun value => ?_
      refine .bind (.float (by decide)) fun low => ?_
      refine .bind (.float (by decide)) fun high => ?_
      refine .bind (.float (by decide)) fun targetLow => ?_
      exact .bind (.float (by decide)) fun targetHigh => .pure _
  | blur =>
      -- The nine samples depend on the resolution and the sample point alone, so they can be asked
      -- for before any colour is known.
      refine .bind (.float (by decide)) fun radius => .ite (.color (by decide)) ?_
      refine .bind (.foldlM (fun sum offset => ?_) _ _) fun sum => .pure _
      let point (resolution : UInt32) (sample : Vec2) : Vec2 :=
        let step := radius / (max 1 resolution).toFloat32
        ⟨sample.x + offset.1 * step, sample.y + offset.2 * step⟩
      exact .bind (.colorAt (by decide) point) fun color => .pure _
  | levels | hsvAdjust =>
      refine .bind (.color (by decide)) fun color => ?_
      refine .bind (.float (by decide)) fun first => ?_
      refine .bind (.float (by decide)) fun second => ?_
      exact .bind (.float (by decide)) fun third => .pure _
  | invert | channelSplit => exact .bind (.color (by decide)) fun color => .pure _
  | channelMerge =>
      refine .bind (.float (by decide)) fun red => ?_
      refine .bind (.float (by decide)) fun green => ?_
      refine .bind (.float (by decide)) fun blue => ?_
      exact .bind (.float (by decide)) fun alpha => .pure _
  | colorize =>
      refine .bind (.float (by decide)) fun value => ?_
      exact .bind (.color (by decide)) fun color => .pure _
  | blendMultiply | blendOverlay | blendScreen | blendAdd =>
      refine .bind (.color (by decide)) fun a => ?_
      exact .bind (.color (by decide)) fun b => .pure _

theorem formula_isReading (operation : Operation) (outputPin : UInt64) :
    IsReading operation.inputs.length fun inputs => operation.formula inputs outputPin :=
  (operation.color_isReading outputPin).map Value.color

/-- A built-in formula fails only with the failure of a declared input pin. -/
theorem exists_resolve_error {operation : Operation} {inputs : Inputs} {outputPin : UInt64}
    {error : EvaluationError} (failed : operation.formula inputs outputPin = .error error) :
    ∃ pin point, pin.toNat < operation.inputs.length ∧
      inputs.resolve pin point = .error error := by
  obtain ⟨reading, runs⟩ := operation.formula_isReading outputPin
  exact Reading.exists_resolve_error ((runs inputs).symm.trans failed)

end Operation
end TextureGraph
