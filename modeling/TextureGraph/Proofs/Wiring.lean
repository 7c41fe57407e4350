import TextureGraph.Proofs.Session
import TextureGraph.Proofs.Upstream

/-!
# Checked wiring

Pins are checked when a link is connected and never again.  Nodes keep the directions and types of
their pins as long as they exist, and a node takes its links with it when it goes, so in a session
that connects all of its links each of them fits at any later time.
-/

namespace TextureGraph

theorem exists_pin_of_same_kinds {pins others : List Pin}
    (same : others.map Pin.kind = pins.map Pin.kind) {place : Nat} {pin : Pin}
    (found : pins[place]? = some pin) :
    ∃ other, others[place]? = some other ∧ other.kind = pin.kind := by
  have kind_at : (others.map Pin.kind)[place]? = some pin.kind := by
    rw [same, List.getElem?_map, found]
    rfl
  rw [List.getElem?_map] at kind_at
  exact Option.map_eq_some_iff.mp kind_at

/-- Whether an edit checks the pins of the link that it adds, if it adds one. -/
def Edit.ChecksPins : Edit → Prop
  | addLink _ => False
  | _ => True

instance (edit : Edit) : Decidable edit.ChecksPins :=
  match edit with
  | .addLink _ => .isFalse id
  | .addNode .. | .removeNode _ | .connect _ | .removeLink _ | .clear | .setInputDefault ..
  | .setOutputDefault .. | .setPosition .. => .isTrue trivial

namespace Graph

/-- Every link joins pins that exist and fit. -/
def LinksFit (graph : Graph) : Prop :=
  ∀ link ∈ graph.links, graph.PinsFit link.toConnection

/-- The node of a number, where there is one, still exists and has the same pins. -/
def KeepsPins (graph after : Graph) (id : NodeId) : Prop :=
  ∀ node, graph.node? id = some node → ∃ kept, after.node? id = some kept ∧ node.SamePins kept

theorem keepsPins_of_node?_eq {graph after : Graph} {id : NodeId}
    (same : after.node? id = graph.node? id) : graph.KeepsPins after id :=
  fun node found => ⟨node, same.trans found, .refl node⟩

theorem keepsPins_withNode (graph : Graph) (node : Node) (id : NodeId) :
    graph.KeepsPins (graph.withNode node) id := by
  intro old found
  rw [node?] at found
  exact ⟨old, by simp [withNode, node?, found], .refl old⟩

theorem keepsPins_withoutNode {graph : Graph} {removed id : NodeId} (different : id ≠ removed) :
    graph.KeepsPins (graph.withoutNode removed) id := by
  apply keepsPins_of_node?_eq
  apply find?_filter_of_kept
  intro node found
  exact decide_eq_true (id_of_node? found ▸ different)

theorem keepsPins_replaceNode {graph : Graph} {place : NodeId} {node revised : Node}
    (found : graph.node? place = some node) (same_id : revised.id = node.id)
    (same_pins : node.SamePins revised) (id : NodeId) :
    graph.KeepsPins (graph.replaceNode revised) id := by
  intro old found_old
  have keeps_id (old : Node) : (if old.id = revised.id then revised else old).id = old.id := by
    split_ifs with same
    · exact same.symm
    · rfl
  have now : (graph.replaceNode revised).node? id =
      some (if old.id = revised.id then revised else old) := by
    rw [replaceNode, node?_map keeps_id, found_old]
    rfl
  refine ⟨_, now, ?_⟩
  split_ifs with same
  · have same_place : place = id := by
      rw [← id_of_node? found, ← id_of_node? found_old, same, same_id]
    obtain rfl := same_place
    cases found.symm.trans found_old
    exact same_pins
  · exact .refl old

theorem PinsFit.of_keepsPins {graph after : Graph} {connection : Connection}
    (fit : graph.PinsFit connection)
    (kept : ∀ id, connection.involves id = true → graph.KeepsPins after id) :
    after.PinsFit connection := by
  obtain ⟨source, target, sourcePin, targetPin, source_found, target_found, sourcePin_found,
    targetPin_found, gives, takes, types⟩ := fit
  obtain ⟨source', source_now, source_pins⟩ :=
    kept connection.source (by simp [Connection.involves]) source source_found
  obtain ⟨target', target_now, target_pins⟩ :=
    kept connection.target (by simp [Connection.involves]) target target_found
  obtain ⟨sourcePin', sourcePin_now, sourcePin_kind⟩ :=
    exists_pin_of_same_kinds source_pins.outputs sourcePin_found
  obtain ⟨targetPin', targetPin_now, targetPin_kind⟩ :=
    exists_pin_of_same_kinds target_pins.inputs targetPin_found
  simp only [Pin.kind, Prod.mk.injEq] at sourcePin_kind targetPin_kind
  refine ⟨source', target', sourcePin', targetPin', source_now, target_now, sourcePin_now,
    targetPin_now, ?_, ?_, ?_⟩
  · rw [sourcePin_kind.1, gives]
  · rw [targetPin_kind.1, takes]
  · rw [sourcePin_kind.2, targetPin_kind.2, types]

theorem LinksFit.of_keepsPins {graph after : Graph} (fit : graph.LinksFit)
    (subset : after.links ⊆ graph.links)
    (kept : ∀ link ∈ after.links, ∀ id, link.involves id = true → graph.KeepsPins after id) :
    after.LinksFit :=
  fun link member => (fit link (subset member)).of_keepsPins (kept link member)

theorem LinksFit.withLink {graph : Graph} (fit : graph.LinksFit) {connection : Connection}
    (checked : graph.PinsFit connection) : (graph.withLink connection).LinksFit := by
  intro link member
  have kept (id : NodeId) : graph.KeepsPins (graph.withLink connection) id :=
    keepsPins_of_node?_eq rfl
  rcases List.mem_append.mp member with old | new
  · exact (fit link old).of_keepsPins fun id _ => kept id
  · obtain rfl := List.mem_singleton.mp new
    exact checked.of_keepsPins fun id _ => kept id

theorem LinksFit.withoutNode {graph : Graph} (fit : graph.LinksFit) (removed : NodeId) :
    (graph.withoutNode removed).LinksFit := by
  refine fit.of_keepsPins List.filter_sublist.subset fun link member id involved => ?_
  -- The node takes its links with it, so those that are left end elsewhere.
  have apart := (List.mem_filter.mp member).2
  apply keepsPins_withoutNode
  rintro rfl
  simp [involved] at apart

/-- Every edit that checks pins keeps all links fitting. -/
theorem LinksFit.of_effect {graph after : Graph} {edit : Edit} (fit : graph.LinksFit)
    (checks : edit.ChecksPins) (effect : graph.Effect edit after) : after.LinksFit := by
  cases effect with
  | unchanged => exact fit
  | addsNode _ _ =>
      exact fit.of_keepsPins (List.Subset.refl _) fun _ _ id _ => keepsPins_withNode graph _ id
  | removesNode id => exact fit.withoutNode id
  | addsLink _ _ => exact checks.elim
  | connectsLink _ _ checked => exact fit.withLink checked
  | removesLink id =>
      exact fit.of_keepsPins List.filter_sublist.subset fun _ _ _ _ => keepsPins_of_node?_eq rfl
  | clears => exact fun _ member => nomatch member
  | revisesNode _ found same_id same_pins =>
      exact fit.of_keepsPins (List.Subset.refl _) fun _ _ id _ =>
        keepsPins_replaceNode found same_id same_pins id

theorem Session.linksFit {graph : Graph} (session : graph.Session Edit.ChecksPins) :
    graph.LinksFit :=
  session.invariant (fun _ member => nomatch member)
    fun _ _ _ _ checks effect fit => fit.of_effect checks effect

/-! ## Evaluation -/

theorem PinsFit.hasOutput {graph : Graph} {connection : Connection}
    (fit : graph.PinsFit connection) : graph.HasOutput connection.source connection.sourcePin := by
  obtain ⟨source, _, _, _, found, _, pin_found, _⟩ := fit
  exact ⟨source, found, (List.getElem?_eq_some_iff.mp pin_found).1⟩

/-- Every output pin that evaluation of an existing one may ask for exists. -/
theorem LinksFit.hasOutput_of_needs {graph : Graph} (fit : graph.LinksFit) {id node : NodeId}
    {outputPin pin : UInt64} (output : graph.HasOutput id outputPin)
    (needs : graph.Needs id outputPin node pin) : graph.HasOutput node pin := by
  cases needs with
  | requested => exact output
  | source _ feeds => exact (fit _ (mem_of_inputLink? feeds)).hasOutput

end Graph

namespace Evaluator

/-- In a session that adds links only by connecting checked pins, every link joins two pins that
exist, the first an output, the second an input, of types that go together.  Hence built-in formulas
never miss a node or a pin when an existing output pin is evaluated. -/
theorem session_well_typed {graph : Graph} (session : graph.Session Edit.ChecksPins) :
    (∀ link ∈ graph.links, ∃ source target sourcePin targetPin,
      graph.node? link.source = some source ∧
        graph.node? link.target = some target ∧
        source.outputs[link.sourcePin.toNat]? = some sourcePin ∧
        target.inputs[link.targetPin.toNat]? = some targetPin ∧
        sourcePin.direction = .output ∧
        targetPin.direction = .input ∧
        sourcePin.type.feeds targetPin.type = true) ∧
      ∀ evaluator : Evaluator, evaluator.OfOperations → ∀ id outputPin sample,
        graph.HasOutput id outputPin →
          (∀ node, evaluator.evaluate graph id outputPin sample ≠ .error (.nodeNotFound node)) ∧
          ∀ node pin,
            evaluator.evaluate graph id outputPin sample ≠ .error (.pinOutOfRange node pin) := by
  have fit := session.linksFit
  refine ⟨fit, fun evaluator ofOperations id outputPin sample output => ?_⟩
  have stored := session.reachable.intact.toEndsStored
  constructor
  · intro node failed
    obtain ⟨_, absent⟩ := founded_of_evaluateWithin ofOperations stored failed
    exact absent output.mem
  · intro node pin failed
    obtain ⟨⟨holder, found, beyond⟩, needs⟩ := founded_of_evaluateWithin ofOperations stored failed
    have present := fit.hasOutput_of_needs output needs
    exact absurd (present.lt found) (Nat.not_lt.mpr beyond)

/-- Noise into an addition and a blur; a link from a missing pin and one from a colour to a number
are refused. -/
def noiseSum : Graph :=
  Graph.empty.afterEdits .builtin
    [.addNode "Perlin Noise" ⟨0.0, 0.0⟩, .addNode "Add" ⟨0.0, 0.0⟩, .addNode "Blur" ⟨0.0, 0.0⟩,
      .connect ⟨⟨1⟩, 0, ⟨2⟩, 0⟩, .connect ⟨⟨1⟩, 0, ⟨3⟩, 0⟩, .connect ⟨⟨1⟩, 7, ⟨2⟩, 1⟩,
      .connect ⟨⟨3⟩, 0, ⟨2⟩, 1⟩, .setInputDefault ⟨2⟩ 1 (.string "noise")]

/-- The same after its snapshot was rebuilt and the blur went with its link. -/
def prunedSum : Graph :=
  noiseSum.afterEdits .empty [.removeNode ⟨3⟩, .setPosition ⟨1⟩ ⟨64.0, 32.0⟩]

/-- All links of the sum fit, and its evaluation never misses a node or a pin; a link that is added
without a check makes it do so. -/
theorem session_well_typed_prunedSum :
    prunedSum.Session Edit.ChecksPins ∧
      prunedSum.links = [⟨⟨⟨1⟩, 0, ⟨2⟩, 0⟩, ⟨1⟩⟩] ∧
      (∃ source sourcePin, prunedSum.node? ⟨1⟩ = some source ∧
        source.outputs[0]? = some sourcePin ∧ sourcePin.direction = .output) ∧
      (∀ settings sample node pin,
        (withOperations settings Operation.all).evaluate prunedSum ⟨2⟩ 0 sample ≠
          .error (.pinOutOfRange node pin)) ∧
      (builtin ⟨256, 3⟩).evaluate (prunedSum.addLink ⟨⟨1⟩, 7, ⟨2⟩, 1⟩).graph ⟨2⟩ 0 ⟨0.5, 0.5⟩ =
        .error (.pinOutOfRange ⟨1⟩ 7) := by
  have session : noiseSum.Session Edit.ChecksPins :=
    Graph.Session.empty.afterEdits .builtin (by decide)
  have restored : noiseSum.Session Edit.ChecksPins :=
    session.rebuilt (Document.rebuild_ofGraph session.reachable .empty)
  have session : prunedSum.Session Edit.ChecksPins := restored.afterEdits .empty (by decide)
  have links : prunedSum.links = [⟨⟨⟨1⟩, 0, ⟨2⟩, 0⟩, ⟨1⟩⟩] := by decide +kernel
  obtain ⟨fit, never⟩ := session_well_typed session
  obtain ⟨source, _, sourcePin, _, found, _, pin_found, _, gives, _⟩ :=
    fit ⟨⟨⟨1⟩, 0, ⟨2⟩, 0⟩, ⟨1⟩⟩ (by simp [links])
  refine ⟨session, links, ⟨source, sourcePin, found, pin_found, gives⟩, ?_, by decide +kernel⟩
  intro settings sample
  have operations := ofOperations_withOperations settings Operation.all
  exact (never _ operations ⟨2⟩ 0 sample (by decide +kernel)).2

end Evaluator
end TextureGraph
