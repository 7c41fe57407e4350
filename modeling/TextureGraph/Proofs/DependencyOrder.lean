import Mathlib.Data.List.Perm.Subperm
import TextureGraph.Graph.Order
import TextureGraph.Proofs.WellFormed

/-!
# Correctness of the dependency order

Completing a node leads either to a longer dependency order that contains the node or to a node on
a cycle.  On a sound graph the order therefore exists exactly if the links form no cycle, and then
it lists the nodes of the graph with every link leading forward.
-/

namespace TextureGraph
namespace Graph

/-! ## Dependency orders -/

/-- Nodes listed so that each comes once and after all nodes that it reads from. -/
inductive Ordered (graph : Graph) : List NodeId → Prop
  | nil : Ordered graph []
  | snoc {earlier : List NodeId} {node : NodeId} :
      Ordered graph earlier →
      node ∉ earlier →
      (∀ source, Linked graph.links source node → source ∈ earlier) →
      Ordered graph (earlier ++ [node])

theorem Ordered.nodup {graph : Graph} {order : List NodeId} (ordered : graph.Ordered order) :
    order.Nodup := by
  induction ordered with
  | nil => exact List.nodup_nil
  | snoc _ fresh _ induction =>
      rw [← List.concat_eq_append]
      exact induction.concat fresh

theorem Ordered.idxOf_lt_of_linked {graph : Graph} {order : List NodeId}
    (ordered : graph.Ordered order) {source target : NodeId}
    (linked : Linked graph.links source target) (listed : target ∈ order) :
    source ∈ order ∧ order.idxOf source < order.idxOf target := by
  induction ordered with
  | nil => simp at listed
  | @snoc earlier node _ fresh sources induction =>
      rcases List.mem_append.mp listed with before | last
      · obtain ⟨source_mem, lower⟩ := induction before
        refine ⟨List.mem_append_left _ source_mem, ?_⟩
        rwa [List.idxOf_append_of_mem source_mem, List.idxOf_append_of_mem before]
      · obtain rfl := List.mem_singleton.mp last
        have source_mem : source ∈ earlier := sources source linked
        refine ⟨List.mem_append_left _ source_mem, ?_⟩
        rw [List.idxOf_append_of_mem source_mem, List.idxOf_append_of_notMem fresh]
        exact Nat.lt_add_right _ (List.idxOf_lt_length_of_mem source_mem)

theorem Ordered.idxOf_lt_of_path {graph : Graph} {order : List NodeId}
    (ordered : graph.Ordered order) {start goal : NodeId}
    (path : LinkPath graph.links start goal) (listed : goal ∈ order) :
    order.idxOf start < order.idxOf goal := by
  induction path with
  | single linked => exact (ordered.idxOf_lt_of_linked linked listed).2
  | tail _ linked induction =>
      obtain ⟨middle_mem, lower⟩ := ordered.idxOf_lt_of_linked linked listed
      exact Nat.lt_trans (induction middle_mem) lower

theorem Ordered.idxOf_add_le_of_chain {graph : Graph} {order : List NodeId}
    (ordered : graph.Ordered order) {length : Nat} {start goal : NodeId}
    (chain : LinkChain graph.links length start goal) (listed : goal ∈ order) :
    order.idxOf start + length ≤ order.idxOf goal := by
  induction chain with
  | nil node => exact Nat.le_refl _
  | snoc _ linked induction =>
      obtain ⟨middle_mem, lower⟩ := ordered.idxOf_lt_of_linked linked listed
      have := induction middle_mem
      omega

/-! ## Completing nodes -/

/-- The state of a search that has completed some nodes while others wait on the path. -/
structure Progress (graph : Graph) (path completed : List NodeId) : Prop where
  ordered : graph.Ordered completed
  waiting : ∀ node ∈ path, node ∉ completed
  stored : completed ⊆ graph.nodeIds

theorem Progress.push {graph : Graph} {path completed : List NodeId} {node : NodeId}
    (progress : graph.Progress path completed) (fresh : node ∉ completed) :
    graph.Progress (node :: path) completed where
  ordered := progress.ordered
  waiting := List.forall_mem_cons.mpr ⟨fresh, progress.waiting⟩
  stored := progress.stored

theorem Progress.pop {graph : Graph} {path completed : List NodeId} {node : NodeId}
    (progress : graph.Progress (node :: path) completed) (node_mem : node ∈ graph.nodeIds)
    (elsewhere : node ∉ path)
    (sources : ∀ source, Linked graph.links source node → source ∈ completed) :
    graph.Progress path (completed ++ [node]) where
  ordered := .snoc progress.ordered (progress.waiting node List.mem_cons_self) sources
  waiting := by
    intro other member listed
    rcases List.mem_append.mp listed with before | last
    · exact progress.waiting other (List.mem_cons_of_mem node member) before
    · exact elsewhere (List.mem_singleton.mp last ▸ member)
  stored := List.append_subset.mpr ⟨progress.stored, by simpa using node_mem⟩

/-- How a search that was asked for some nodes may end: they have joined the completed ones, or a
node on a cycle has been found. -/
def Completes (graph : Graph) (path completed nodes : List NodeId) :
    Except CycleError (List NodeId) → Prop
  | .ok result => graph.Progress path result ∧ completed ⊆ result ∧ nodes ⊆ result
  | .error error => LinkPath graph.links error.node error.node

theorem Completes.cons {graph : Graph} {path completed between nodes : List NodeId}
    {node : NodeId} {outcome : Except CycleError (List NodeId)}
    (completes : graph.Completes path between nodes outcome) (grown : completed ⊆ between)
    (node_mem : node ∈ between) : graph.Completes path completed (node :: nodes) outcome := by
  cases outcome with
  | error error => exact completes
  | ok result =>
      obtain ⟨progress, kept, nodes_subset⟩ := completes
      exact ⟨progress, List.Subset.trans grown kept,
        List.cons_subset.mpr ⟨kept node_mem, nodes_subset⟩⟩

/-- A search that goes on after another one needs to look only at what that one completed. -/
theorem Completes.bind {graph : Graph} {path completed nodes path' completed' nodes' : List NodeId}
    {outcome : Except CycleError (List NodeId)}
    {next : List NodeId → Except CycleError (List NodeId)}
    (completes : graph.Completes path completed nodes outcome)
    (completes_next : ∀ between, graph.Progress path between → completed ⊆ between →
      nodes ⊆ between → graph.Completes path' completed' nodes' (next between)) :
    graph.Completes path' completed' nodes' (outcome >>= next) := by
  cases outcome with
  | error error => exact completes
  | ok between =>
      obtain ⟨progress, grown, nodes_subset⟩ := completes
      exact completes_next between progress grown nodes_subset

/-- If every single step completes its node, a sequence of steps completes all of them. -/
theorem completes_foldlM {graph : Graph} {path : List NodeId}
    {step : List NodeId → NodeId → Except CycleError (List NodeId)} (nodes : List NodeId)
    (completes_step : ∀ completed, graph.Progress path completed → ∀ node ∈ nodes,
      graph.Completes path completed [node] (step completed node))
    {completed : List NodeId} (progress : graph.Progress path completed) :
    graph.Completes path completed nodes (nodes.foldlM step completed) := by
  induction nodes generalizing completed with
  | nil => exact ⟨progress, List.Subset.refl _, List.nil_subset _⟩
  | cons node nodes induction =>
      have completes_node := completes_step completed progress node List.mem_cons_self
      rw [List.foldlM_cons]
      refine completes_node.bind fun between progress_between grown node_mem => ?_
      have completes_rest := induction
        (fun completed progress other member =>
          completes_step completed progress other (List.mem_cons_of_mem node member))
        progress_between
      exact completes_rest.cons grown (node_mem List.mem_cons_self)

/-- The nodes that wait for the completion of a node: distinct, of the graph and downstream. -/
structure Waits (graph : Graph) (path : List NodeId) (node : NodeId) : Prop where
  nodup : path.Nodup
  stored : path ⊆ graph.nodeIds
  downstream : ∀ later ∈ path, LinkPath graph.links node later

theorem Waits.push {graph : Graph} {path : List NodeId} {node source : NodeId}
    (waits : graph.Waits path node) (node_mem : node ∈ graph.nodeIds) (elsewhere : node ∉ path)
    (linked : Linked graph.links source node) : graph.Waits (node :: path) source where
  nodup := List.nodup_cons.mpr ⟨elsewhere, waits.nodup⟩
  stored := List.cons_subset.mpr ⟨node_mem, waits.stored⟩
  downstream := by
    intro later member
    rcases List.mem_cons.mp member with rfl | member
    · exact .single linked
    · exact .head linked (waits.downstream later member)

theorem Waits.length_lt {graph : Graph} {path : List NodeId} {node : NodeId}
    (waits : graph.Waits path node) (node_mem : node ∈ graph.nodeIds) (elsewhere : node ∉ path) :
    path.length < graph.nodes.length := by
  have nodup : (node :: path).Nodup := List.nodup_cons.mpr ⟨elsewhere, waits.nodup⟩
  have subset : node :: path ⊆ graph.nodeIds := List.cons_subset.mpr ⟨node_mem, waits.stored⟩
  have bound : (node :: path).length ≤ graph.nodeIds.length := (nodup.subperm subset).length_le
  rw [List.length_cons, nodeIds, List.length_map] at bound
  exact bound

/-- Completing a node succeeds or finds a cycle; the room never runs out. -/
theorem completes_complete {graph : Graph} (stored : graph.EndsStored) (room : Nat)
    {path completed : List NodeId} {node : NodeId} (node_mem : node ∈ graph.nodeIds)
    (waits : graph.Waits path node) (fits : graph.nodes.length ≤ room + path.length)
    (progress : graph.Progress path completed) :
    graph.Completes path completed [node] (graph.complete room path completed node) := by
  -- Room and path together always cover the graph, so the room ends only where the path already
  -- holds every node, and then the next node is met on it.
  induction room generalizing path completed node with
  | zero =>
      rw [complete]
      split_ifs with done elsewhere
      · exact ⟨progress, List.Subset.refl _, by simpa using done⟩
      · exact waits.downstream node elsewhere
      · have := waits.length_lt node_mem elsewhere
        omega
  | succ room induction =>
      rw [complete]
      split_ifs with done elsewhere
      · exact ⟨progress, List.Subset.refl _, by simpa using done⟩
      · exact waits.downstream node elsewhere
      · have sources : graph.Completes (node :: path) completed (graph.sourcesOf node)
            ((graph.sourcesOf node).foldlM (graph.complete room (node :: path)) completed) := by
          apply completes_foldlM _ _ (progress.push done)
          intro between progress_between source member
          have linked := mem_sourcesOf.mp member
          apply induction (stored.source_mem_of_linked linked)
            (waits.push node_mem elsewhere linked) _ progress_between
          simp only [List.length_cons]
          omega
        refine sources.bind fun earlier progress_earlier grown sources_subset => ?_
        refine ⟨progress_earlier.pop node_mem elsewhere fun source linked => ?_, ?_, ?_⟩
        · exact sources_subset (mem_sourcesOf.mpr linked)
        · exact List.Subset.trans grown (List.subset_append_left _ _)
        · exact List.subset_append_right _ _

theorem completes_order {graph : Graph} (stored : graph.EndsStored) :
    graph.Completes [] [] graph.nodeIds graph.order := by
  apply completes_foldlM _ _ ⟨.nil, by simp, by simp⟩
  intro completed progress node node_mem
  exact completes_complete stored _ node_mem ⟨by simp, by simp, by simp⟩ (by simp) progress

/-! ## The order of a sound graph -/

theorem ordered_of_order_eq_ok {graph : Graph} (stored : graph.EndsStored) {order : List NodeId}
    (found : graph.order = .ok order) : graph.Ordered order := by
  have completes := completes_order stored
  rw [found] at completes
  exact completes.1.ordered

theorem mem_order_iff {graph : Graph} (stored : graph.EndsStored) {order : List NodeId}
    (found : graph.order = .ok order) {id : NodeId} : id ∈ order ↔ id ∈ graph.nodeIds := by
  have completes := completes_order stored
  rw [found] at completes
  exact ⟨fun member => completes.1.stored member, fun member => completes.2.2 member⟩

theorem cycle_of_order_eq_error {graph : Graph} (stored : graph.EndsStored) {error : CycleError}
    (failed : graph.order = .error error) : LinkPath graph.links error.node error.node := by
  have completes := completes_order stored
  rw [failed] at completes
  exact completes

theorem acyclic_of_order_eq_ok {graph : Graph} (stored : graph.EndsStored) {order : List NodeId}
    (found : graph.order = .ok order) : Acyclic graph.links := by
  intro node path
  have listed : node ∈ order := (mem_order_iff stored found).mpr (stored.target_mem_of_path path)
  exact Nat.lt_irrefl _ ((ordered_of_order_eq_ok stored found).idxOf_lt_of_path path listed)

/-- An order exists exactly if the links form no cycle. -/
theorem exists_order_iff_acyclic {graph : Graph} (stored : graph.EndsStored) :
    (∃ order, graph.order = .ok order) ↔ Acyclic graph.links := by
  constructor
  · rintro ⟨order, found⟩
    exact acyclic_of_order_eq_ok stored found
  · intro acyclic
    cases outcome : graph.order with
    | ok order => exact ⟨order, rfl⟩
    | error error => exact absurd (cycle_of_order_eq_error stored outcome) (acyclic error.node)

theorem WellFormed.length_lt_of_chain {graph : Graph} (wellFormed : graph.WellFormed) {length : Nat}
    {start goal : NodeId} (chain : LinkChain graph.links length start goal)
    (goal_mem : goal ∈ graph.nodeIds) : length < graph.nodes.length := by
  have stored := wellFormed.toEndsStored
  obtain ⟨order, found⟩ := (exists_order_iff_acyclic stored).mpr wellFormed.acyclic
  have ordered := ordered_of_order_eq_ok stored found
  have listed : goal ∈ order := (mem_order_iff stored found).mpr goal_mem
  have forward := ordered.idxOf_add_le_of_chain chain listed
  have place := List.idxOf_lt_length_of_mem listed
  have subset : order ⊆ graph.nodeIds := fun id => (mem_order_iff stored found).mp
  have short : order.length ≤ graph.nodeIds.length := (ordered.nodup.subperm subset).length_le
  rw [nodeIds, List.length_map] at short
  omega

theorem exists_order_error_iff_not_acyclic {graph : Graph} (stored : graph.EndsStored) :
    (∃ error, graph.order = .error error) ↔ ¬Acyclic graph.links := by
  rw [← exists_order_iff_acyclic stored]
  cases graph.order <;> simp

theorem hasCycle_eq_false_iff {graph : Graph} :
    graph.hasCycle = false ↔ ∃ order, graph.order = .ok order := by
  unfold hasCycle
  cases graph.order <;> simp

/-- The order of a sound graph exists exactly if no links form a cycle.  It then lists every node
once, nothing else, and the source of each link before its target; otherwise the node that is named
lies on a cycle. -/
theorem order_correct {graph : Graph} (sound : graph.Sound) :
    ((∃ order, graph.order = .ok order) ↔ Acyclic graph.links) ∧
      (∀ order, graph.order = .ok order →
        order.Nodup ∧ (∀ id, id ∈ order ↔ id ∈ graph.nodeIds) ∧
          ∀ link ∈ graph.links, order.idxOf link.source < order.idxOf link.target) ∧
      ∀ error, graph.order = .error error → LinkPath graph.links error.node error.node := by
  have stored := sound.toEndsStored
  refine ⟨exists_order_iff_acyclic stored, fun order found => ?_,
    fun error failed => cycle_of_order_eq_error stored failed⟩
  have ordered := ordered_of_order_eq_ok stored found
  refine ⟨ordered.nodup, fun id => mem_order_iff stored found, fun link member => ?_⟩
  have listed := (mem_order_iff stored found).mpr (sound.target_mem link member)
  exact (ordered.idxOf_lt_of_linked ⟨link, member, rfl, rfl⟩ listed).2

/-- Four nodes, the last first, joined as a diamond one side of which is doubled. -/
def diamond : Graph where
  nodes := [4, 1, 2, 3].map fun id => ⟨⟨id⟩, "Add", ⟨0.0, 0.0⟩, [], []⟩
  links :=
    [⟨⟨⟨2⟩, 0, ⟨4⟩, 0⟩, ⟨1⟩⟩, ⟨⟨⟨1⟩, 0, ⟨2⟩, 0⟩, ⟨2⟩⟩, ⟨⟨⟨1⟩, 0, ⟨3⟩, 0⟩, ⟨3⟩⟩,
      ⟨⟨⟨3⟩, 0, ⟨4⟩, 1⟩, ⟨4⟩⟩, ⟨⟨⟨3⟩, 0, ⟨4⟩, 1⟩, ⟨5⟩⟩]
  nextNodeId := 5
  nextLinkId := 6

/-- The diamond with a link from its middle back to its beginning. -/
def loopedDiamond : Graph :=
  { diamond with links := diamond.links ++ [⟨⟨⟨3⟩, 0, ⟨1⟩, 0⟩, ⟨6⟩⟩] }

theorem diamond_sound : diamond.Sound where
  source_mem := by decide
  target_mem := by decide
  nodeIds_nodup := by decide
  linkIds_nodup := by decide

theorem loopedDiamond_sound : loopedDiamond.Sound where
  source_mem := by decide
  target_mem := by decide
  nodeIds_nodup := by decide
  linkIds_nodup := by decide

/-- The diamond has an order; the looped one has none, and the node on a cycle is not the one where
the search begins. -/
theorem order_correct_diamond :
    diamond.Sound ∧ diamond.order = .ok [⟨1⟩, ⟨2⟩, ⟨3⟩, ⟨4⟩] ∧ Acyclic diamond.links ∧
      loopedDiamond.Sound ∧ loopedDiamond.order = .error ⟨⟨1⟩⟩ ∧
      LinkPath loopedDiamond.links ⟨1⟩ ⟨1⟩ :=
  ⟨diamond_sound, rfl, (order_correct diamond_sound).1.mp ⟨_, rfl⟩,
    loopedDiamond_sound, rfl, (order_correct loopedDiamond_sound).2.2 ⟨⟨1⟩⟩ rfl⟩

end Graph
end TextureGraph
