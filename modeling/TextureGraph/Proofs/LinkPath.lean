import Mathlib.Logic.Relation
import TextureGraph.Graph.Reach

/-!
# Paths of links

Some links form a path if each begins where the one before it ends.  The search `leadsTo` finds a
path exactly if there is one, and a further link keeps links free of cycles exactly if no path leads
from its target back to its source.
-/

namespace TextureGraph

open Relation

/-- Some link leads straight from the first node to the second. -/
def Linked (links : List Link) (source target : NodeId) : Prop :=
  ∃ link ∈ links, link.source = source ∧ link.target = target

/-- The links lead from the first node to the second in one step or more. -/
abbrev LinkPath (links : List Link) : NodeId → NodeId → Prop :=
  TransGen (Linked links)

/-- The links lead from the first node to the second, or the two are the same node. -/
abbrev Leads (links : List Link) : NodeId → NodeId → Prop :=
  ReflTransGen (Linked links)

/-- The links lead from the first node to the second in exactly the given number of steps. -/
inductive LinkChain (links : List Link) : Nat → NodeId → NodeId → Prop
  | nil (node : NodeId) : LinkChain links 0 node node
  | snoc {length : Nat} {start middle goal : NodeId} :
      LinkChain links length start middle → Linked links middle goal →
      LinkChain links (length + 1) start goal

/-- No path of links returns to the node where it began. -/
def Acyclic (links : List Link) : Prop :=
  ∀ node, ¬LinkPath links node node

theorem leads_iff_linkPath_of_ne {links : List Link} {start goal : NodeId}
    (different : start ≠ goal) : Leads links start goal ↔ LinkPath links start goal := by
  constructor
  · intro leads
    rcases reflTransGen_iff_eq_or_transGen.mp leads with same | path
    · exact absurd same.symm different
    · exact path
  · exact TransGen.to_reflTransGen

/-! ## Fewer and more links -/

theorem linked_mono {fewer more : List Link} (subset : fewer ⊆ more) :
    Linked fewer ≤ Linked more := by
  rintro source target ⟨link, member, ends⟩
  exact ⟨link, subset member, ends⟩

theorem LinkPath.mono {fewer more : List Link} (subset : fewer ⊆ more) {start goal : NodeId}
    (path : LinkPath fewer start goal) : LinkPath more start goal :=
  TransGen.mono (linked_mono subset) _ _ path

theorem Leads.mono {fewer more : List Link} (subset : fewer ⊆ more) {start goal : NodeId}
    (leads : Leads fewer start goal) : Leads more start goal :=
  ReflTransGen.mono (linked_mono subset) _ _ leads

theorem Acyclic.anti {fewer more : List Link} (subset : fewer ⊆ more) (acyclic : Acyclic more) :
    Acyclic fewer :=
  fun node path => acyclic node (path.mono subset)

theorem Acyclic.source_ne_target {links : List Link} (acyclic : Acyclic links) {link : Link}
    (member : link ∈ links) : link.source ≠ link.target := by
  intro same
  exact acyclic link.source (.single ⟨link, member, rfl, same.symm⟩)

theorem linked_append_singleton (links : List Link) (link : Link) (source target : NodeId) :
    Linked (links ++ [link]) source target ↔
      Linked links source target ∨ link.source = source ∧ link.target = target := by
  simp [Linked, or_and_right, exists_or]

/-- A path through one more link either does without it or is split by it. -/
theorem LinkPath.split_append {links : List Link} {link : Link} {start goal : NodeId}
    (path : LinkPath (links ++ [link]) start goal) :
    LinkPath links start goal ∨
      Leads links start link.source ∧ Leads links link.target goal := by
  induction path with
  | single linked =>
      rcases (linked_append_singleton ..).mp linked with old | ⟨rfl, rfl⟩
      · exact .inl (.single old)
      · exact .inr ⟨.refl, .refl⟩
  | tail _ linked induction =>
      rcases (linked_append_singleton ..).mp linked with old | ⟨rfl, rfl⟩
      · rcases induction with earlier | ⟨before, behind⟩
        · exact .inl (earlier.tail old)
        · exact .inr ⟨before, behind.tail old⟩
      · rcases induction with earlier | ⟨before, _⟩
        · exact .inr ⟨earlier.to_reflTransGen, .refl⟩
        · exact .inr ⟨before, .refl⟩

/-- One more link closes a cycle exactly if its source lies downstream of its target. -/
theorem acyclic_append_singleton (links : List Link) (link : Link) :
    Acyclic (links ++ [link]) ↔ Acyclic links ∧ ¬Leads links link.target link.source := by
  have subset : links ⊆ links ++ [link] := List.subset_append_left links [link]
  have added : Linked (links ++ [link]) link.source link.target :=
    ⟨link, by simp, rfl, rfl⟩
  constructor
  · intro acyclic
    refine ⟨acyclic.anti subset, fun back => ?_⟩
    have around : LinkPath (links ++ [link]) link.source link.source :=
      .head' added (back.mono subset)
    exact acyclic link.source around
  · rintro ⟨acyclic, no_return⟩ node path
    rcases path.split_append with old | ⟨before, behind⟩
    · exact acyclic node old
    · exact no_return (behind.trans before)

/-! ## The search for a path -/

theorem mem_map_target_linksFrom {links : List Link} {source target : NodeId} :
    target ∈ (linksFrom links source).map (fun link => link.target) ↔
      Linked links source target := by
  simp [linksFrom, Linked, and_assoc]

theorem linked_linksNotFrom {links : List Link} {node source target : NodeId} :
    Linked (linksNotFrom links node) source target ↔
      source ≠ node ∧ Linked links source target := by
  constructor
  · rintro ⟨link, member, rfl, rfl⟩
    obtain ⟨member, elsewhere⟩ := List.mem_filter.mp member
    exact ⟨of_decide_eq_true elsewhere, link, member, rfl, rfl⟩
  · rintro ⟨elsewhere, link, member, rfl, rfl⟩
    exact ⟨link, List.mem_filter.mpr ⟨member, decide_eq_true elsewhere⟩, rfl, rfl⟩

theorem Leads.of_linksNotFrom {links : List Link} {node start goal : NodeId}
    (leads : Leads (linksNotFrom links node) start goal) : Leads links start goal :=
  leads.mono List.filter_sublist.subset

/-- A path may be cut after its last visit to a node. -/
theorem Leads.avoid {links : List Link} (node : NodeId) {start goal : NodeId}
    (leads : Leads links start goal) :
    Leads (linksNotFrom links node) start goal ∨
      ∃ next, Linked links node next ∧ Leads (linksNotFrom links node) next goal := by
  induction leads using ReflTransGen.head_induction_on with
  | refl => exact .inl .refl
  | @head start next linked _ induction =>
      rcases induction with avoiding | passing
      · by_cases here : start = node
        · subst here
          exact .inr ⟨next, linked, avoiding⟩
        · exact .inl (.head (linked_linksNotFrom.mpr ⟨here, linked⟩) avoiding)
      · exact .inr passing

/-- Without the links that begin at a node, nothing else lies downstream of it. -/
theorem Leads.eq_of_linksNotFrom {links : List Link} {node goal : NodeId}
    (leads : Leads (linksNotFrom links node) node goal) : goal = node := by
  rcases leads.cases_head with same | ⟨_, linked, _⟩
  · exact same.symm
  · exact absurd rfl (linked_linksNotFrom.mp linked).1

/-- The search finds the goal exactly if it lies downstream of a pending node. -/
theorem leadsTo_iff (links : List Link) (pending : List NodeId) (goal : NodeId) :
    leadsTo links pending goal = true ↔ ∃ start ∈ pending, Leads links start goal := by
  induction links, pending using leadsTo.induct goal with
  | case1 links => simp [leadsTo]
  | case2 links later =>
      simp only [leadsTo, if_true, true_iff]
      exact ⟨goal, List.mem_cons_self, .refl⟩
  | case3 links node later elsewhere induction =>
      rw [leadsTo, if_neg elsewhere, induction]
      constructor
      · rintro ⟨start, member, leads⟩
        rcases List.mem_append.mp member with next | waiting
        · exact ⟨node, List.mem_cons_self,
            .head (mem_map_target_linksFrom.mp next) leads.of_linksNotFrom⟩
        · exact ⟨start, List.mem_cons_of_mem node waiting, leads.of_linksNotFrom⟩
      · rintro ⟨start, member, leads⟩
        -- The links that begin at the node are gone from now on; what follows the last visit to the
        -- node does not need them.
        rcases leads.avoid node with avoiding | ⟨next, linked, beyond⟩
        · rcases List.mem_cons.mp member with rfl | waiting
          · exact absurd avoiding.eq_of_linksNotFrom.symm elsewhere
          · exact ⟨start, List.mem_append_right _ waiting, avoiding⟩
        · exact ⟨next, List.mem_append_left _ (mem_map_target_linksFrom.mpr linked), beyond⟩

theorem linkPath_iff_leadsTo {links : List Link} {start goal : NodeId} :
    LinkPath links start goal ↔
      leadsTo links ((linksFrom links start).map fun link => link.target) goal = true := by
  simp only [leadsTo_iff, mem_map_target_linksFrom]
  exact TransGen.head'_iff

instance (links : List Link) (start goal : NodeId) : Decidable (LinkPath links start goal) :=
  decidable_of_iff _ linkPath_iff_leadsTo.symm

namespace Graph

theorem isDownstream_iff (graph : Graph) (start goal : NodeId) :
    graph.isDownstream start goal = true ↔ Leads graph.links start goal := by
  simp [isDownstream, leadsTo_iff]

end Graph
end TextureGraph
