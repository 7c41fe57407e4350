import TextureGraph.Proofs.Reachable

/-!
# Which links are admitted

A link is admitted exactly if its ends differ and exist and no path leads from its target back to
its source, which is to say if the dependency order survives it.  Connecting two pins adds to this
exactly the conditions on the pins, and a refusal of either kind leaves the graph as it was.
-/

namespace TextureGraph
namespace Graph

/-! ## Checks -/

/-- The check of the ends names the first condition that fails. -/
theorem checkEnds_eq (graph : Graph) (source target : NodeId) :
    graph.checkEnds source target =
      if source = target then .error (.selfLoop source)
      else if source ∉ graph.nodeIds then .error (.nodeNotFound source)
      else if target ∉ graph.nodeIds then .error (.nodeNotFound target)
      else if LinkPath graph.links target source then .error (.wouldCreateCycle source target)
      else .ok () := by
  have missing_iff (id : NodeId) : (!graph.hasNode id) = true ↔ id ∉ graph.nodeIds := by
    rw [Bool.not_eq_true', ← Bool.not_eq_true, hasNode_iff]
  by_cases same : source = target
  · rw [checkEnds, if_pos same, if_pos same]
  · have downstream_iff :
        graph.isDownstream target source = true ↔ LinkPath graph.links target source := by
      rw [isDownstream_iff, leads_iff_linkPath_of_ne (Ne.symm same)]
    simp only [checkEnds, missing_iff, downstream_iff]

/-- Both pins of a connection exist, the first gives values, the second takes them, and their
types go together. -/
def PinsFit (graph : Graph) (connection : Connection) : Prop :=
  ∃ source target sourcePin targetPin,
    graph.node? connection.source = some source ∧
    graph.node? connection.target = some target ∧
    source.output? connection.sourcePin = some sourcePin ∧
    target.input? connection.targetPin = some targetPin ∧
    sourcePin.direction = .output ∧
    targetPin.direction = .input ∧
    sourcePin.type.feeds targetPin.type = true

theorem checkPins_eq_ok_iff {graph : Graph} {connection : Connection} :
    graph.checkPins connection = .ok () ↔ graph.PinsFit connection := by
  unfold checkPins PinsFit
  cases graph.node? connection.source with
  | none => simp [bind, Except.bind]
  | some source =>
      cases graph.node? connection.target with
      | none => simp [bind, Except.bind]
      | some target =>
          cases sourcePin_at : source.output? connection.sourcePin with
          | none => simp [sourcePin_at, bind, Except.bind]
          | some sourcePin =>
              cases targetPin_at : target.input? connection.targetPin with
              | none => simp [sourcePin_at, targetPin_at, bind, Except.bind]
              | some targetPin =>
                  simp [sourcePin_at, targetPin_at, bind, Except.bind, Pin.canFeed, and_assoc]

theorem canConnect_eq_ok_iff {graph : Graph} {connection : Connection} :
    graph.canConnect connection = .ok () ↔
      graph.checkEnds connection.source connection.target = .ok () ∧
        graph.PinsFit connection := by
  rw [← checkPins_eq_ok_iff]
  unfold canConnect
  cases graph.checkEnds connection.source connection.target with
  | error error => simp [bind, Except.bind]
  | ok => simp [bind, Except.bind]

/-! ## Adding links -/

theorem addLink_result_eq (graph : Graph) (connection : Connection) :
    (graph.addLink connection).result =
      if connection.source = connection.target then .error (.selfLoop connection.source)
      else if connection.source ∉ graph.nodeIds then .error (.nodeNotFound connection.source)
      else if connection.target ∉ graph.nodeIds then .error (.nodeNotFound connection.target)
      else if LinkPath graph.links connection.target connection.source then
        .error (.wouldCreateCycle connection.source connection.target)
      else if graph.nextLinkId = lastId then .error .idsExhausted
      else .ok ⟨graph.nextLinkId⟩ := by
  unfold addLink
  rw [checkEnds_eq]
  split_ifs with same source_missing target_missing cycle last
  any_goals rfl
  · rw [nextId?_eq_none_iff.mpr last]
  · rw [nextId?_eq_some_iff.mpr ⟨last, rfl⟩]

theorem addLink_graph_eq (graph : Graph) (connection : Connection) :
    (graph.addLink connection).graph =
      match (graph.addLink connection).result with
      | .error _ => graph
      | .ok id =>
          { graph with
            links := graph.links ++ [{ connection with id }]
            nextLinkId := graph.nextLinkId + 1 } := by
  unfold addLink
  cases graph.checkEnds connection.source connection.target with
  | error error => rfl
  | ok =>
      dsimp only
      cases counted : nextId? graph.nextLinkId with
      | none => rfl
      | some next =>
          obtain ⟨_, rfl⟩ := nextId?_eq_some_iff.mp counted
          rfl

/-- A further link spoils the dependency order exactly if a path leads from its target back to its
source. -/
theorem order_append_fails_iff {graph : Graph} (wellFormed : graph.WellFormed) {link : Link}
    (different : link.source ≠ link.target) (source_mem : link.source ∈ graph.nodeIds)
    (target_mem : link.target ∈ graph.nodeIds) :
    (∃ error, ({ graph with links := graph.links ++ [link] } : Graph).order = .error error) ↔
      LinkPath graph.links link.target link.source := by
  have stored : EndsStored { graph with links := graph.links ++ [link] } :=
    wellFormed.toEndsStored.appendLink source_mem target_mem
  rw [exists_order_error_iff_not_acyclic stored, acyclic_append_singleton,
    leads_iff_linkPath_of_ne different.symm]
  simp [wellFormed.acyclic]

theorem checkEnds_eq_ok_of_addLink {graph : Graph} {connection : Connection} {id : LinkId}
    (added : (graph.addLink connection).result = .ok id) :
    graph.checkEnds connection.source connection.target = .ok () := by
  unfold addLink at added
  cases checked : graph.checkEnds connection.source connection.target with
  | error error =>
      rw [checked] at added
      cases added
  | ok => rfl

/-! ## Connecting pins -/

theorem connect_eq_addLink {graph : Graph} {connection : Connection}
    (allowed : graph.canConnect connection = .ok ()) :
    graph.connect connection = graph.addLink connection := by
  rw [connect, allowed]

theorem canConnect_eq_ok_of_connect {graph : Graph} {connection : Connection} {id : LinkId}
    (connected : (graph.connect connection).result = .ok id) :
    graph.canConnect connection = .ok () := by
  unfold connect at connected
  cases allowed : graph.canConnect connection with
  | error error =>
      rw [allowed] at connected
      cases connected
  | ok => rfl

theorem connect_succeeds_iff (graph : Graph) (connection : Connection) :
    (∃ id, (graph.connect connection).result = .ok id) ↔
      (∃ id, (graph.addLink connection).result = .ok id) ∧ graph.PinsFit connection := by
  constructor
  · rintro ⟨id, connected⟩
    have allowed := canConnect_eq_ok_of_connect connected
    rw [connect_eq_addLink allowed] at connected
    exact ⟨⟨id, connected⟩, (canConnect_eq_ok_iff.mp allowed).2⟩
  · rintro ⟨⟨id, added⟩, fit⟩
    have allowed := canConnect_eq_ok_iff.mpr ⟨checkEnds_eq_ok_of_addLink added, fit⟩
    exact ⟨id, by rw [connect_eq_addLink allowed, added]⟩

theorem connect_graph_of_error {graph : Graph} {connection : Connection} {error : GraphError}
    (refused : (graph.connect connection).result = .error error) :
    (graph.connect connection).graph = graph := by
  cases allowed : graph.canConnect connection with
  | error _ => rw [connect, allowed]
  | ok =>
      rw [connect_eq_addLink allowed] at refused ⊢
      rw [addLink_graph_eq, refused]

/-! ## Exactly the links that keep the graph free of cycles -/

/-- In a reachable graph, adding a link ends as the first of these conditions says: the ends are
equal, the source is missing, the target is missing, a path leads back from the target to the source
(so that the dependency order would fail), no number is left; otherwise the link is appended under
the next number.  Connecting succeeds exactly if adding does and the pins fit, and then does the
same.  Whatever is refused changes nothing. -/
theorem addLink_connect_outcome {graph : Graph} (reachable : graph.Reachable)
    (connection : Connection) :
    (graph.addLink connection).result =
        (if connection.source = connection.target then .error (.selfLoop connection.source)
        else if connection.source ∉ graph.nodeIds then .error (.nodeNotFound connection.source)
        else if connection.target ∉ graph.nodeIds then .error (.nodeNotFound connection.target)
        else if LinkPath graph.links connection.target connection.source then
          .error (.wouldCreateCycle connection.source connection.target)
        else if graph.nextLinkId = lastId then .error .idsExhausted
        else .ok ⟨graph.nextLinkId⟩) ∧
      (graph.addLink connection).graph =
        (match (graph.addLink connection).result with
        | .error _ => graph
        | .ok id =>
            { graph with
              links := graph.links ++ [{ connection with id }]
              nextLinkId := graph.nextLinkId + 1 }) ∧
      (connection.source ≠ connection.target → connection.source ∈ graph.nodeIds →
        connection.target ∈ graph.nodeIds → ∀ id,
          (LinkPath graph.links connection.target connection.source ↔
            ∃ error,
              ({ graph with links := graph.links ++ [{ connection with id }] } : Graph).order =
                .error error)) ∧
      ((∃ id, (graph.connect connection).result = .ok id) ↔
        (∃ id, (graph.addLink connection).result = .ok id) ∧ graph.PinsFit connection) ∧
      (∀ id, (graph.connect connection).result = .ok id →
        graph.connect connection = graph.addLink connection) ∧
      ∀ error, (graph.connect connection).result = .error error →
        (graph.connect connection).graph = graph := by
  refine ⟨graph.addLink_result_eq connection, graph.addLink_graph_eq connection, ?_,
    graph.connect_succeeds_iff connection, ?_, fun _ refused => connect_graph_of_error refused⟩
  · intro different source_mem target_mem id
    let link : Link := { connection with id }
    have different : link.source ≠ link.target := different
    exact (order_append_fails_iff reachable.intact.toWellFormed different source_mem
      target_mem).symm
  · intro id connected
    exact connect_eq_addLink (canConnect_eq_ok_of_connect connected)

theorem addLink_connect_outcome_prunedChain :
    prunedChain.Reachable ∧ LinkPath prunedChain.links ⟨1⟩ ⟨3⟩ ∧
      (prunedChain.connect ⟨⟨3⟩, 0, ⟨1⟩, 0⟩).result = .error (.wouldCreateCycle ⟨3⟩ ⟨1⟩) ∧
      (prunedChain.connect ⟨⟨3⟩, 0, ⟨1⟩, 0⟩).graph = prunedChain ∧
      ∀ id, ∃ error,
        ({ prunedChain with
          links := prunedChain.links ++ [⟨⟨⟨3⟩, 0, ⟨1⟩, 0⟩, id⟩] } : Graph).order =
            .error error := by
  have reachable : prunedChain.Reachable := Reachable.empty.afterEdits _ _
  have path : LinkPath prunedChain.links ⟨1⟩ ⟨3⟩ :=
    .single ⟨⟨⟨⟨1⟩, 0, ⟨3⟩, 1⟩, ⟨3⟩⟩, by decide +kernel, rfl, rfl⟩
  have refused :
      (prunedChain.connect ⟨⟨3⟩, 0, ⟨1⟩, 0⟩).result = .error (.wouldCreateCycle ⟨3⟩ ⟨1⟩) := by
    decide +kernel
  obtain ⟨_, _, fails_iff, _, _, unchanged⟩ := addLink_connect_outcome reachable ⟨⟨3⟩, 0, ⟨1⟩, 0⟩
  refine ⟨reachable, path, refused, unchanged _ refused, fun id => ?_⟩
  exact (fails_iff (by decide) (by decide +kernel) (by decide +kernel) id).mp path

end Graph
end TextureGraph
