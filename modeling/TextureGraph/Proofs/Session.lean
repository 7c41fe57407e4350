import TextureGraph.Proofs.Effect
import TextureGraph.Proofs.Snapshot

/-!
# Editing sessions

A session begins with the empty graph, edits it, and now and then replaces it by what its own
snapshot is rebuilt to.  A rebuilt snapshot is the graph it was taken of, so whatever every
permitted edit keeps holds throughout a session.
-/

namespace TextureGraph
namespace Graph

/-- Permitted edits, granted or refused, and rebuilt snapshots lead from the empty graph to the
graph. -/
inductive Session (permitted : Edit → Prop) : Graph → Prop
  | empty : Session permitted empty
  | edited {graph : Graph} (catalogue : Catalogue) {edit : Edit} :
      Session permitted graph → permitted edit → Session permitted (edit.apply catalogue graph)
  | rebuilt {graph restored : Graph} {catalogue : Catalogue} :
      Session permitted graph →
      ((Document.ofGraph graph).rebuild catalogue).result = .ok restored →
      Session permitted restored

namespace Session

variable {permitted : Edit → Prop} {graph : Graph}

theorem reachable (session : Session permitted graph) : graph.Reachable := by
  induction session with
  | empty => exact .empty
  | edited catalogue _ _ induction => exact induction.edited catalogue _
  | rebuilt _ restored _ => exact .rebuilt restored

theorem eq_of_rebuilt (session : Session permitted graph) {restored : Graph}
    {catalogue : Catalogue}
    (rebuilt : ((Document.ofGraph graph).rebuild catalogue).result = .ok restored) :
    restored = graph := by
  rw [Document.rebuild_ofGraph session.reachable] at rebuilt
  cases rebuilt
  rfl

/-- What holds of the empty graph and survives the effects of every permitted edit holds throughout
a session. -/
theorem invariant {holds : Graph → Prop} (start : holds Graph.empty)
    (step : ∀ (before : Graph) (edit : Edit) (after : Graph), before.Intact → permitted edit →
      before.Effect edit after → holds before → holds after)
    (session : Session permitted graph) : holds graph := by
  induction session with
  | empty => exact start
  | @edited before catalogue edit session allowed induction =>
      have effect := before.effect_apply catalogue edit
      exact step before edit _ session.reachable.intact allowed effect induction
  | rebuilt session rebuilt induction =>
      rw [session.eq_of_rebuilt rebuilt]
      exact induction

theorem afterEdits (session : Session permitted graph) (catalogue : Catalogue) {edits : List Edit}
    (allowed : ∀ edit ∈ edits, permitted edit) :
    Session permitted (graph.afterEdits catalogue edits) := by
  induction edits generalizing graph with
  | nil => exact session
  | cons edit edits induction =>
      obtain ⟨first, later⟩ := List.forall_mem_cons.mp allowed
      exact induction (session.edited catalogue first) later

end Session
end Graph
end TextureGraph
