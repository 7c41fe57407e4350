import TextureGraph.Proofs.Dataflow
import TextureGraph.Proofs.KnownType
import TextureGraph.Proofs.RoundedNoise

/-!
# How far noise can be scaled

Every layer of fractal noise doubles the coordinates of the one before.  As long as they stay
finite, each layer adds at most its weight and the sum stays in the unit interval.  The first layer
whose coordinates are not finite makes the sum something that is not a number, and later layers
leave it so.
-/

namespace TextureGraph
namespace Noise

open Single (Near near_half near_literal near_one near_zero value)

/-- The factor by which a layer scales the coordinates. -/
def frequency : (layer : Nat) → Float32
  | 0 => 1.0
  | layer + 1 => frequency layer * 2.0

/-- Whether both coordinates of a layer are finite. -/
def FiniteLayer (x y : Float32) (layer : Nat) : Prop :=
  (x * frequency layer).isFinite = true ∧ (y * frequency layer).isFinite = true

instance (x y : Float32) (layer : Nat) : Decidable (FiniteLayer x y layer) :=
  inferInstanceAs (Decidable (_ ∧ _))

/-! ## Weights -/

theorem short_weight {k : Nat} (small : k ≤ 149) : Single.Short (1 / 2 ^ k) :=
  ⟨1, k, by decide, small, by simp⟩

theorem short_remainder {k : Nat} (small : k ≤ 24) : Single.Short (1 - 1 / 2 ^ k) := by
  have power_le : 2 ^ k ≤ 2 ^ 24 := Nat.pow_le_pow_right two_pos small
  have power_pos : 0 < 2 ^ k := by positivity
  refine ⟨(2 ^ k : Nat) - 1, k, by omega, by omega, ?_⟩
  push_cast
  field_simp

theorem weight_mem {k : Nat} : (0 : ℚ) < 1 / 2 ^ k ∧ (1 / 2 ^ k : ℚ) ≤ 1 :=
  ⟨by positivity, div_le_one_of_le₀ (one_le_pow₀ one_le_two) (by positivity)⟩

section Weighted

variable {k : Nat} {weight : Float32} (finite : weight.isFinite = true)
  (weight_eq : value weight = 1 / 2 ^ k)
include finite weight_eq

/-- A weight brings noise down to at most itself. -/
theorem weighted_bounds (small : k ≤ 149) {noise : Float32} (inUnit : InUnit noise) :
    (weight * noise).isFinite = true ∧ 0 ≤ value (weight * noise) ∧
      value (weight * noise) ≤ 1 / 2 ^ k := by
  obtain ⟨noise_finite, noise_nonneg, noise_le_one⟩ := inUnit
  obtain ⟨weight_pos, weight_le⟩ := weight_mem (k := k)
  have rounds := Single.rounds_mul finite noise_finite
  rw [weight_eq] at rounds
  have nonneg : 0 ≤ 1 / 2 ^ k * value noise := mul_nonneg weight_pos.le noise_nonneg
  have le_weight : 1 / 2 ^ k * value noise ≤ 1 / 2 ^ k :=
    mul_le_of_le_one_right weight_pos.le noise_le_one
  exact ⟨(rounds.close (abs_le.mpr ⟨by linarith, by linarith⟩)).1,
    rounds.le_value Single.short_zero nonneg, rounds.value_le (short_weight small) le_weight⟩

/-- Halving a weight is exact. -/
theorem halved_weight (small : k + 1 ≤ 149) :
    (weight * 0.5).isFinite = true ∧ value (weight * 0.5) = 1 / 2 ^ (k + 1) := by
  have rounds := Single.rounds_mul finite near_half.finite
  have half_eq : value weight * value 0.5 = 1 / 2 ^ (k + 1) := by
    rw [weight_eq, near_half.value_eq, pow_succ]
    ring
  rw [half_eq] at rounds
  exact rounds.of_short (short_weight small)

end Weighted

/-- The sum and the next weight before a layer. -/
structure Partial (layer : Nat) (sum weight : Float32) : Prop where
  sum_finite : sum.isFinite = true
  nonneg : 0 ≤ value sum
  le_remainder : value sum ≤ 1 - 1 / 2 ^ layer
  weight_finite : weight.isFinite = true
  weight_eq : value weight = 1 / 2 ^ (layer + 1)

/-- A layer adds at most its weight, which leaves room for the weights of all later ones. -/
theorem Partial.next {layer : Nat} (small : layer + 2 ≤ 24) {sum weight noise : Float32}
    (current : Partial layer sum weight) (inUnit : InUnit noise) :
    Partial (layer + 1) (sum + weight * noise) (weight * 0.5) := by
  obtain ⟨sum_finite, nonneg, le_remainder, weight_finite, weight_eq⟩ := current
  obtain ⟨added_finite, added_nonneg, added_le⟩ :=
    weighted_bounds weight_finite weight_eq (by omega) inUnit
  obtain ⟨halved_finite, halved_eq⟩ := halved_weight weight_finite weight_eq (by omega)
  obtain ⟨weight_pos, -⟩ := weight_mem (k := layer + 1)
  have halves : (1 / 2 ^ layer : ℚ) = 2 * (1 / 2 ^ (layer + 1)) := by
    rw [pow_succ]
    field_simp
  have rounds := Single.rounds_add sum_finite added_finite
  have total_nonneg : 0 ≤ value sum + value (weight * noise) := add_nonneg nonneg added_nonneg
  have total_le : value sum + value (weight * noise) ≤ 1 - 1 / 2 ^ (layer + 1) := by linarith
  have finite := (rounds.close (abs_le.mpr ⟨by linarith, by linarith⟩)).1
  exact ⟨finite, rounds.le_value Single.short_zero total_nonneg,
    rounds.value_le (short_remainder (by omega)) total_le, halved_finite, halved_eq⟩

/-! ## Layers -/

/-- Layers with finite coordinates keep the sum in the unit interval. -/
theorem inUnit_layers {x y : Float32} {octaves layer : Nat} (small : layer + octaves ≤ 22)
    {sum weight : Float32} (current : Partial layer sum weight)
    (finite : ∀ later, layer ≤ later → later < layer + octaves → FiniteLayer x y later) :
    InUnit (layers x y octaves sum weight (frequency layer)) := by
  induction octaves generalizing layer sum weight with
  | zero =>
      refine ⟨current.sum_finite, current.nonneg, current.le_remainder.trans ?_⟩
      have remainder_pos : (0 : ℚ) < 1 / 2 ^ layer := by positivity
      linarith
  | succ octaves induction =>
      obtain ⟨x_finite, y_finite⟩ := finite layer le_rfl (by omega)
      have next := current.next (by omega) (inUnit_perlin x_finite y_finite)
      exact induction (by omega) next fun later from_next below =>
        finite later (by omega) (by omega)

theorem isNaN_layers_of_sum {x y sum : Float32} (unordered : sum.isNaN = true) (octaves : Nat)
    (weight frequency : Float32) : (layers x y octaves sum weight frequency).isNaN = true := by
  induction octaves generalizing sum weight frequency with
  | zero => exact unordered
  | succ octaves induction => exact induction (Single.isNaN_add (.inl unordered)) _ _

/-- One layer whose coordinates are not both finite spoils the sum. -/
theorem isNaN_layers {x y : Float32} {octaves layer later : Nat} (from_layer : layer ≤ later)
    (below : later < layer + octaves) (not_finite : ¬FiniteLayer x y later)
    (sum weight : Float32) :
    (layers x y octaves sum weight (frequency layer)).isNaN = true := by
  induction octaves generalizing layer sum weight with
  | zero => omega
  | succ octaves induction =>
      rcases from_layer.lt_or_eq with after | rfl
      · exact induction after (by omega) _ _
      · rw [FiniteLayer, not_and_or, Bool.not_eq_true, Bool.not_eq_true] at not_finite
        have noise := isNaN_perlin not_finite
        exact isNaN_layers_of_sum
          (Single.isNaN_add (.inr (Single.isNaN_mul (.inr noise)))) octaves _ _

theorem partial_zero : Partial 0 0.0 0.5 := by
  refine ⟨near_zero.finite, ?_, ?_, near_half.finite, ?_⟩
  · rw [near_zero.value_eq]
  · rw [near_zero.value_eq]
    norm_num
  · rw [near_half.value_eq]
    norm_num

theorem inUnit_fractal {x y : Float32} {octaves : Nat} (small : octaves ≤ 22)
    (finite : ∀ layer < octaves, FiniteLayer x y layer) : InUnit (fractal x y octaves) := by
  refine inUnit_layers ?_ partial_zero fun layer _ below => finite layer ?_ <;> omega

theorem isNaN_fractal {x y : Float32} {octaves layer : Nat} (below : layer < octaves)
    (not_finite : ¬FiniteLayer x y layer) : (fractal x y octaves).isNaN = true :=
  isNaN_layers (Nat.zero_le layer) (by omega) not_finite _ _

/-! ## Coordinates of moderate size -/

theorem value_frequency {layer : Nat} (small : layer ≤ 24) :
    (frequency layer).isFinite = true ∧ value (frequency layer) = 2 ^ layer := by
  induction layer with
  | zero => exact ⟨near_one.finite, near_one.value_eq.trans (pow_zero 2).symm⟩
  | succ layer induction =>
      obtain ⟨finite, value_eq⟩ := induction (by omega)
      have near_two : Near 0 2 (2.0 : Float32) :=
        near_literal (2 ^ 23) (-22) (by decide +kernel) (by norm_num)
      have doubled := Single.rounds_mul finite near_two.finite
      have power_le : 2 ^ (layer + 1) ≤ 2 ^ 24 := Nat.pow_le_pow_right two_pos small
      have whole : Single.Short (2 ^ (layer + 1)) := by
        have short := Single.short_intCast (n := (2 ^ (layer + 1) : Nat))
          ((Int.natAbs_natCast _).trans_le power_le)
        push_cast at short
        exact short
      rw [value_eq, near_two.value_eq, ← pow_succ] at doubled
      exact doubled.of_short whole

/-- Coordinates of size at most `2 ^ 120` stay finite through eight layers. -/
theorem isFinite_mul_frequency {x : Float32} (finite : x.isFinite = true)
    (moderate : |value x| ≤ 2 ^ 120) {layer : Nat} (small : layer < 8) :
    (x * frequency layer).isFinite = true := by
  obtain ⟨frequency_finite, frequency_eq⟩ := value_frequency (show layer ≤ 24 by omega)
  have rounds := Single.rounds_mul finite frequency_finite
  have bound_eq : Precision.single.value 0x7f000000 = (2 ^ 23 : Nat) * 2 ^ (104 : Int) :=
    Single.value_of_parts (by decide)
  refine (rounds.error 0x7f000000 (by decide) ?_).1
  calc
    |value x * value (frequency layer)| = |value x| * 2 ^ layer := by
      rw [abs_mul, frequency_eq, abs_of_pos (show (0 : ℚ) < 2 ^ layer by positivity)]
    _ ≤ 2 ^ 120 * 2 ^ 7 := by
      gcongr
      · exact one_le_two
      · omega
    _ = Precision.single.value 0x7f000000 := by
      rw [bound_eq]
      norm_num

end Noise

/-! ## The noise node -/

/-- The number that an input gives when no link feeds it. -/
def Node.floatDefault (node : Node) (pin : UInt64) : Float32 :=
  (node.input? pin).elim 0.0 fun pin => pin.default.asFloat

/-- A noise node whose inputs no link feeds and whose coordinate is left at the origin. -/
structure Graph.UnlinkedNoise (graph : Graph) (id : NodeId) (node : Node) : Prop where
  found : graph.node? id = some node
  typeName : node.typeName = Operation.perlinNoise.typeName
  unlinked : ∀ pin, graph.inputLink? id pin = none
  origin : ∀ pin, node.input? 0 = some pin → (pin.default.asVec2 == ⟨0.0, 0.0⟩) = true

/-- The point of the noise that a noise node reads for a sample point. -/
def Node.noisePoint (node : Node) (sample : Vec2) : Vec2 :=
  let scale := positiveOr (node.floatDefault 1) 4.0
  ⟨sample.x * scale, sample.y * scale⟩

/-- The number of layers of a noise node. -/
def Node.noiseLayers (node : Node) : Nat :=
  Operation.layerCount (node.floatDefault 2)

theorem Operation.layerCount_le (octaves : Float32) : layerCount octaves ≤ 8 := by
  rw [layerCount]
  split_ifs <;> omega

namespace Evaluator

section Unlinked

variable {graph : Graph} {node : Node} (unlinked : ∀ pin, graph.inputLink? node.id pin = none)
  (evaluator : Evaluator) (known : NodeId → Meaning) (sample : Vec2)
include unlinked

theorem resolve_of_unlinked (pin : UInt64) (point : Vec2) :
    (evaluator.inputsFrom graph known node sample).resolve pin point =
      .ok ((node.input? pin).map Pin.default) := by
  simp only [inputsFrom, unlinked]

theorem float_of_unlinked (pin : UInt64) :
    (evaluator.inputsFrom graph known node sample).float pin = .ok (node.floatDefault pin) := by
  rw [Inputs.float, resolve_of_unlinked unlinked, Node.floatDefault]
  cases node.input? pin <;> rfl

/-- A coordinate left at the origin is the sample point, and so is a missing one. -/
theorem uv_of_unlinked {pin : UInt64}
    (origin : ∀ input, node.input? pin = some input →
      (input.default.asVec2 == ⟨0.0, 0.0⟩) = true) :
    (evaluator.inputsFrom graph known node sample).uv pin = .ok sample := by
  have not_connected : (evaluator.inputsFrom graph known node sample).isConnected pin = false := by
    simp only [inputsFrom, unlinked, Option.isSome_none]
  have point : (evaluator.inputsFrom graph known node sample).vec2 pin =
      .ok (((node.input? pin).map Pin.default).elim sample Value.asVec2) := by
    rw [Inputs.vec2, resolve_of_unlinked unlinked]
    rfl
  rw [Inputs.uv, point, not_connected]
  cases given : node.input? pin with
  | none => exact ite_self _
  | some input =>
      have at_origin := origin input given
      exact if_pos (by rw [Option.map_some, Option.elim_some, at_origin]; rfl)

end Unlinked

theorem evaluate_unlinkedNoise {settings : Settings} {graph : Graph} {id : NodeId} {node : Node}
    (noise : graph.UnlinkedNoise id node) {outputPin : UInt64}
    (offered : outputPin.toNat < node.outputs.length) (sample : Vec2) :
    (builtin settings).evaluate graph id outputPin sample =
      .ok (.color (Color.gray (Noise.fractal (node.noisePoint sample).x (node.noisePoint sample).y
        node.noiseLayers))) := by
  obtain ⟨found, typeName, unlinked, origin⟩ := noise
  obtain rfl := Graph.id_of_node? found
  rw [evaluate, evaluateWithin_succ found, meaning, if_neg (by omega), typeName, formula?_builtin]
  change Value.color <$> (Inputs.uv _ 0 >>= fun uv => Inputs.float _ 1 >>= fun scale =>
    Inputs.float _ 2 >>= fun octaves => _) = _
  rw [uv_of_unlinked unlinked _ _ _ origin, float_of_unlinked unlinked, float_of_unlinked unlinked]
  rfl

/-- A noise node without links gives an opaque gray.  Its level is in the unit interval exactly if
both coordinates of every layer are finite, as they are when the scaled sample has finite
coordinates of size at most `2 ^ 120`; otherwise the level is not a number. -/
theorem unlinkedNoise_inUnit_iff {settings : Settings} {graph : Graph} {id : NodeId} {node : Node}
    (noise : graph.UnlinkedNoise id node) {outputPin : UInt64}
    (offered : outputPin.toNat < node.outputs.length) (sample : Vec2) :
    ∃ level : Float32,
      (builtin settings).evaluate graph id outputPin sample =
          .ok (.color ⟨level, level, level, 1.0⟩) ∧
        ((0.0 ≤ level ∧ level ≤ 1.0) ↔ ∀ layer < node.noiseLayers,
          Noise.FiniteLayer (node.noisePoint sample).x (node.noisePoint sample).y layer) ∧
        (level.isNaN = false ↔ ∀ layer < node.noiseLayers,
          Noise.FiniteLayer (node.noisePoint sample).x (node.noisePoint sample).y layer) ∧
        ((node.noisePoint sample).x.isFinite = true →
          |Single.value (node.noisePoint sample).x| ≤ 2 ^ 120 →
          (node.noisePoint sample).y.isFinite = true →
          |Single.value (node.noisePoint sample).y| ≤ 2 ^ 120 →
          0.0 ≤ level ∧ level ≤ 1.0) := by
  have layers_le : node.noiseLayers ≤ 8 := Operation.layerCount_le _
  refine ⟨_, evaluate_unlinkedNoise noise offered sample, ?_⟩
  generalize node.noisePoint sample = point
  set level := Noise.fractal point.x point.y node.noiseLayers
  have inUnit (finite : ∀ layer < node.noiseLayers, Noise.FiniteLayer point.x point.y layer) :
      Noise.InUnit level := Noise.inUnit_fractal (by omega) finite
  have finite (number : level.isNaN = false) :
      ∀ layer < node.noiseLayers, Noise.FiniteLayer point.x point.y layer := by
    intro layer below
    by_contra not_finite
    have spoiled := Noise.isNaN_fractal below not_finite
    exact Bool.false_ne_true (number.symm.trans spoiled)
  refine ⟨⟨fun bounds => ?_, fun layers => ?_⟩, ⟨finite, fun layers => ?_⟩, ?_⟩
  · exact finite (Single.number_of_le bounds.2).1
  · exact (inUnit layers).bounds
  · exact Single.isNaN_of_isFinite (inUnit layers).finite
  · intro x_finite x_moderate y_finite y_moderate
    refine (inUnit fun layer below => ?_).bounds
    exact ⟨Noise.isFinite_mul_frequency x_finite x_moderate (by omega),
      Noise.isFinite_mul_frequency y_finite y_moderate (by omega)⟩

/-- One noise node of a scale. -/
def scaledNoise (scale : Float32) : Graph :=
  Graph.empty.afterEdits .builtin
    [.addNode "Perlin Noise" ⟨0.0, 0.0⟩, .setInputDefault ⟨1⟩ 1 (.float scale)]

theorem unlinkedNoise_inUnit_iff_scaledNoise :
    ∃ node level, (scaledNoise 1e10).UnlinkedNoise ⟨1⟩ node ∧ node.noiseLayers = 4 ∧
      (builtin ⟨256, 256⟩).evaluate (scaledNoise 1e10) ⟨1⟩ 0 ⟨0.5, 0.5⟩ =
        .ok (.color ⟨level, level, level, 1.0⟩) ∧
      0.0 ≤ level ∧ level ≤ 1.0 := by
  let node : Node :=
    ⟨⟨1⟩, "Perlin Noise", ⟨0.0, 0.0⟩,
      [.input "UV" .vec2, { Pin.input "Scale" .float with default := .float 1e10 },
        .input "Octaves" .float], [.output "Value" .float]⟩
  have links : (scaledNoise 1e10).links = [] := by decide +kernel
  have noise : (scaledNoise 1e10).UnlinkedNoise ⟨1⟩ node := by
    refine ⟨by decide +kernel, rfl, fun pin => ?_, fun pin given => ?_⟩
    · rw [Graph.inputLink?, links, List.find?_nil]
    · obtain rfl := Option.some.inj given
      decide +kernel
  have offered : (0 : UInt64).toNat < node.outputs.length := by decide
  obtain ⟨level, evaluated, inUnit_iff, -⟩ :=
    @unlinkedNoise_inUnit_iff ⟨256, 256⟩ _ _ _ noise 0 offered ⟨0.5, 0.5⟩
  exact ⟨node, level, noise, by decide +kernel, evaluated, inUnit_iff.mpr (by decide +kernel)⟩

/-- The scale is finite, and so is the sample, but the coordinates of the third layer are not. -/
theorem scaledNoise_notANumber :
    (3e38 : Float32).isFinite = true ∧ (0.5 : Float32).isFinite = true ∧
      (builtin ⟨256, 256⟩).evaluate (scaledNoise 3e38) ⟨1⟩ 0 ⟨0.5, 0.5⟩ =
        .ok (.color ⟨Single.nan, Single.nan, Single.nan, 1.0⟩) ∧
      Single.nan.isNaN = true := by
  decide +kernel

end Evaluator
end TextureGraph
