import TextureGraph.Graph.Basic

/-!
# What lies downstream

`leadsTo` decides whether some links lead from one of several nodes to another node.  Each node's
outgoing links are used once and then set aside, so the search ends.
-/

namespace TextureGraph

/-- The links that begin at a node. -/
def linksFrom (links : List Link) (node : NodeId) : List Link :=
  links.filter fun link => link.source = node

/-- The links that begin elsewhere. -/
def linksNotFrom (links : List Link) (node : NodeId) : List Link :=
  links.filter fun link => link.source ≠ node

theorem length_linksFrom_add_length_linksNotFrom (links : List Link) (node : NodeId) :
    (linksFrom links node).length + (linksNotFrom links node).length = links.length := by
  induction links with
  | nil => rfl
  | cons link links ih =>
      simp only [linksFrom, linksNotFrom, ne_eq, decide_not] at ih ⊢
      by_cases h : link.source = node <;> simp [h] <;> omega

/-- Whether the links lead, in any number of steps, from a node of the list to `goal`. -/
def leadsTo (links : List Link) (pending : List NodeId) (goal : NodeId) : Bool :=
  match pending with
  | [] => false
  | node :: later =>
      if node = goal then true
      else
        leadsTo (linksNotFrom links node)
          ((linksFrom links node).map (fun link => link.target) ++ later) goal
termination_by links.length + pending.length
decreasing_by
  have total := length_linksFrom_add_length_linksNotFrom links node
  simp only [List.length_append, List.length_map, List.length_cons]
  omega

namespace Graph

/-- Whether the links of a graph lead from one node to another; every node leads to itself. -/
def isDownstream (graph : Graph) (start goal : NodeId) : Bool :=
  leadsTo graph.links [start] goal

end Graph
end TextureGraph
