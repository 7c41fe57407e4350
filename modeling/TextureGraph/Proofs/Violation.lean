import TextureGraph.Operation.Catalogue
import TextureGraph.Proofs.Rebuild

/-!
# What is wrong with a document

A document that is no graph is refused for the first thing that is wrong with it: its version, a
node number that repeats, a link that is unsound after sound ones, or at last a cycle.  Exactly the
consistent documents are admitted, whatever the order of their nodes and links.
-/

namespace TextureGraph
namespace Document

/-! ## Consistency and its violations -/

/-- What a document must satisfy to describe a graph. -/
structure Consistent (document : Document) : Prop where
  version : document.version = currentVersion
  nodeIds_nodup : (document.nodes.map Node.id).Nodup
  linkIds_nodup : (document.links.map fun link => link.id).Nodup
  ends_differ : ∀ link ∈ document.links, link.source ≠ link.target
  ends_stored : ∀ link ∈ document.links,
    link.source ∈ document.nodes.map Node.id ∧ link.target ∈ document.nodes.map Node.id
  acyclic : Acyclic document.links

/-- Links with distinct numbers, each of which joins two different nodes of a list. -/
structure SoundLinks (nodes : List NodeId) (links : List Link) : Prop where
  ids_nodup : (links.map fun link => link.id).Nodup
  ends : ∀ link ∈ links, link.source ≠ link.target ∧ link.source ∈ nodes ∧ link.target ∈ nodes

/-- The first of the things that can be wrong with a link that comes after other links. -/
inductive LinkDefect (nodes : List NodeId) (earlier : List Link) (link : Link) :
    DocumentError → Prop
  | repeated :
      link.id ∈ earlier.map (fun link => link.id) →
      LinkDefect nodes earlier link (.duplicateLinkId link.id)
  | selfLoop :
      link.id ∉ earlier.map (fun link => link.id) →
      link.source = link.target →
      LinkDefect nodes earlier link (.selfLoop link.source)
  | source :
      link.id ∉ earlier.map (fun link => link.id) →
      link.source ≠ link.target →
      link.source ∉ nodes →
      LinkDefect nodes earlier link (.danglingLink link.id link.source)
  | target :
      link.id ∉ earlier.map (fun link => link.id) →
      link.source ≠ link.target →
      link.source ∈ nodes →
      link.target ∉ nodes →
      LinkDefect nodes earlier link (.danglingLink link.id link.target)

/-- The first thing that is wrong with a document: the version, else the first repetition of a node
number, else the defect of the first link that has one, else a node on a cycle. -/
inductive FirstViolation (document : Document) : DocumentError → Prop
  | version :
      document.version ≠ currentVersion →
      FirstViolation document (.unsupportedVersion document.version)
  | node {before after : List Node} {node : Node} :
      document.version = currentVersion →
      document.nodes = before ++ node :: after →
      (before.map Node.id).Nodup →
      node.id ∈ before.map Node.id →
      FirstViolation document (.duplicateNodeId node.id)
  | link {before after : List Link} {link : Link} {error : DocumentError} :
      document.version = currentVersion →
      (document.nodes.map Node.id).Nodup →
      document.links = before ++ link :: after →
      SoundLinks (document.nodes.map Node.id) before →
      LinkDefect (document.nodes.map Node.id) before link error →
      FirstViolation document error
  | cycle {node : NodeId} :
      document.version = currentVersion →
      (document.nodes.map Node.id).Nodup →
      SoundLinks (document.nodes.map Node.id) document.links →
      LinkPath document.links node node →
      FirstViolation document (.cycle node)

/-! ## Checks in stored order -/

/-- A scan that checks one item after the other and remembers the keys of those before fails at the
first item that it refuses. -/
theorem scan_eq_error_iff {α κ ε : Type} (scan : List κ → List α → Except ε Unit) (key : α → κ)
    (scan_nil : ∀ seen, scan seen [] = .ok ())
    (scan_cons : ∀ seen item items,
      scan seen (item :: items) = scan seen [item] >>= fun _ => scan (key item :: seen) items)
    (seen : List κ) (items : List α) (error : ε) :
    scan seen items = .error error ↔
      ∃ before item after, items = before ++ item :: after ∧ scan seen before = .ok () ∧
        scan ((before.map key).reverse ++ seen) [item] = .error error := by
  -- The refused item is the first one, or the first one passes and the refused item comes later
  -- with one more key remembered; the same two cases split the list before it.
  induction items generalizing seen with
  | nil => simp [scan_nil]
  | cons item items induction =>
      rw [scan_cons]
      cases checked : scan seen [item] with
      | error other =>
          constructor
          · intro failed
            cases failed
            exact ⟨[], item, items, rfl, scan_nil seen, checked⟩
          · rintro ⟨before, refused, after, split, passed, failed⟩
            cases before with
            | nil =>
                cases split
                exact checked.symm.trans failed
            | cons first before =>
                cases split
                rw [scan_cons, checked] at passed
                cases passed
      | ok =>
          have continues : (Except.ok () >>= fun _ => scan (key item :: seen) items) =
              scan (key item :: seen) items := rfl
          rw [continues, induction]
          constructor
          · rintro ⟨before, refused, after, rfl, passed, failed⟩
            refine ⟨item :: before, refused, after, rfl, ?_, by simpa using failed⟩
            rw [scan_cons, checked]
            exact passed
          · rintro ⟨before, refused, after, split, passed, failed⟩
            cases before with
            | nil =>
                cases split
                cases checked.symm.trans failed
            | cons first before =>
                cases split
                rw [scan_cons, checked] at passed
                exact ⟨before, refused, after, rfl, passed, by simpa using failed⟩

theorem checkNodes_result_cons (catalogue : Catalogue) (seen : List NodeId) (node : Node)
    (nodes : List Node) :
    (checkNodes catalogue seen (node :: nodes)).result =
      (checkNodes catalogue seen [node]).result >>= fun _ =>
        (checkNodes catalogue (node.id :: seen) nodes).result := by
  rw [checkNodes, checkNodes]
  split_ifs <;> rfl

theorem checkLinks_cons (nodes : List NodeId) (seen : List LinkId) (link : Link)
    (links : List Link) :
    checkLinks nodes seen (link :: links) =
      checkLinks nodes seen [link] >>= fun _ => checkLinks nodes (link.id :: seen) links := by
  rw [checkLinks, checkLinks]
  split_ifs <;> rfl

theorem checkNodes_result_eq_error_iff (catalogue : Catalogue) (nodes : List Node)
    (error : DocumentError) :
    (checkNodes catalogue [] nodes).result = .error error ↔
      ∃ before node after, nodes = before ++ node :: after ∧ (before.map Node.id).Nodup ∧
        node.id ∈ before.map Node.id ∧ .duplicateNodeId node.id = error := by
  have refused (seen : List NodeId) (node : Node) :
      (checkNodes catalogue seen [node]).result = .error error ↔
        node.id ∈ seen ∧ .duplicateNodeId node.id = error := by
    rw [checkNodes]
    split_ifs with repeated <;> simp [repeated, checkNodes]
  rw [scan_eq_error_iff (fun seen nodes => (checkNodes catalogue seen nodes).result) Node.id
    (fun _ => rfl) (checkNodes_result_cons catalogue)]
  simp only [refused, checkNodes_result_eq_ok_iff, List.append_nil, List.mem_reverse,
    List.disjoint_nil_right, and_true]

theorem checkLinks_eq_ok_iff_sound (nodes : List NodeId) (links : List Link) :
    checkLinks nodes [] links = .ok () ↔ SoundLinks nodes links := by
  rw [checkLinks_eq_ok_iff]
  constructor
  · rintro ⟨⟨ids_nodup, _⟩, ends⟩
    exact ⟨ids_nodup, ends⟩
  · intro sound
    exact ⟨⟨sound.ids_nodup, List.disjoint_nil_right _⟩, sound.ends⟩

theorem checkLinks_singleton_eq_error_iff (nodes : List NodeId) (earlier : List Link) (link : Link)
    (error : DocumentError) :
    checkLinks nodes (earlier.map fun link => link.id).reverse [link] = .error error ↔
      LinkDefect nodes earlier link error := by
  rw [checkLinks]
  simp only [List.mem_reverse]
  constructor
  · intro failed
    split_ifs at failed with repeated loop source_mem target_mem
    · cases failed
      exact .repeated repeated
    · cases failed
      exact .selfLoop repeated loop
    · cases failed
    · cases failed
      exact .target repeated loop source_mem target_mem
    · cases failed
      exact .source repeated loop source_mem
  · intro defect
    cases defect with
    | repeated repeated => rw [if_pos repeated]
    | selfLoop fresh loop => rw [if_neg fresh, if_pos loop]
    | source fresh different source_missing =>
        rw [if_neg fresh, if_neg different, if_pos source_missing]
    | target fresh different source_mem target_missing =>
        rw [if_neg fresh, if_neg different, if_neg (not_not.mpr source_mem), if_pos target_missing]

/-- The check of the links names the first defect of the first link that has one. -/
theorem checkLinks_eq_error_iff (nodes : List NodeId) (links : List Link) (error : DocumentError) :
    checkLinks nodes [] links = .error error ↔
      ∃ before link after, links = before ++ link :: after ∧ SoundLinks nodes before ∧
        LinkDefect nodes before link error := by
  rw [scan_eq_error_iff (checkLinks nodes) (fun link => link.id) (fun _ => rfl)
    (checkLinks_cons nodes)]
  simp only [List.append_nil, checkLinks_eq_ok_iff_sound, checkLinks_singleton_eq_error_iff]

/-! ## Outcome of a rebuild -/

theorem consistent_iff {document : Document} :
    document.Consistent ↔ document.version = currentVersion ∧ document.toGraph.WellFormed := by
  constructor
  · intro consistent
    exact ⟨consistent.version, ⟨⟨fun link member => (consistent.ends_stored link member).1,
      fun link member => (consistent.ends_stored link member).2⟩, consistent.nodeIds_nodup,
      consistent.linkIds_nodup⟩, consistent.acyclic⟩
  · rintro ⟨version, wellFormed⟩
    exact ⟨version, wellFormed.nodeIds_nodup, wellFormed.linkIds_nodup,
      fun link member => wellFormed.acyclic.source_ne_target member,
      fun link member => ⟨wellFormed.source_mem link member, wellFormed.target_mem link member⟩,
      wellFormed.acyclic⟩

theorem exists_rebuild_iff_consistent (catalogue : Catalogue) (document : Document) :
    (∃ graph, (document.rebuild catalogue).result = .ok graph) ↔ document.Consistent := by
  simp [rebuild_result_eq_ok_iff, consistent_iff]

theorem Consistent.perm {document other : Document} (consistent : document.Consistent)
    (version : other.version = document.version) (nodes : document.nodes.Perm other.nodes)
    (links : document.links.Perm other.links) : other.Consistent where
  version := version.trans consistent.version
  nodeIds_nodup := (nodes.map Node.id).nodup_iff.mp consistent.nodeIds_nodup
  linkIds_nodup := (links.map _).nodup_iff.mp consistent.linkIds_nodup
  ends_differ link member := consistent.ends_differ link (links.mem_iff.mpr member)
  ends_stored link member := by
    have ends := consistent.ends_stored link (links.mem_iff.mpr member)
    rwa [(nodes.map Node.id).mem_iff, (nodes.map Node.id).mem_iff] at ends
  acyclic := consistent.acyclic.anti links.symm.subset

theorem firstViolation_of_checkedGraph {document : Document} {error : DocumentError}
    (version : document.version = currentVersion)
    (nodeIds_nodup : (document.nodes.map Node.id).Nodup)
    (refused : document.checkedGraph = .error error) : document.FirstViolation error := by
  unfold checkedGraph at refused
  cases checked : checkLinks (document.nodes.map Node.id) [] document.links with
  | error other =>
      rw [checked] at refused
      cases refused
      obtain ⟨before, link, after, split, sound, defect⟩ :=
        (checkLinks_eq_error_iff _ _ _).mp checked
      exact .link version nodeIds_nodup split sound defect
  | ok =>
      have sound := (checkLinks_eq_ok_iff_sound _ _).mp checked
      rw [checked] at refused
      cases ordered : document.toGraph.order with
      | ok order =>
          rw [ordered] at refused
          cases refused
      | error cycle =>
          rw [ordered] at refused
          cases refused
          have stored := (sound_of_checkLinks nodeIds_nodup checked).toEndsStored
          exact .cycle version nodeIds_nodup sound (Graph.cycle_of_order_eq_error stored ordered)

theorem rebuild_result_eq_checkedGraph {document : Document}
    (version : document.version = currentVersion)
    (nodeIds_nodup : (document.nodes.map Node.id).Nodup) (catalogue : Catalogue) :
    (document.rebuild catalogue).result = document.checkedGraph := by
  have checked : (checkNodes catalogue [] document.nodes).result = .ok () :=
    (checkNodes_result_eq_ok_iff _ _ _).mpr ⟨nodeIds_nodup, List.disjoint_nil_right _⟩
  rw [rebuild, if_neg (not_not.mpr version)]
  dsimp only
  rw [checked]
  dsimp only
  cases document.checkedGraph <;> rfl

theorem rebuild_result_of_repeated_node {document : Document}
    (version : document.version = currentVersion)
    {catalogue : Catalogue} {error : DocumentError}
    (refused : (checkNodes catalogue [] document.nodes).result = .error error) :
    (document.rebuild catalogue).result = .error error := by
  rw [rebuild, if_neg (not_not.mpr version)]
  dsimp only
  rw [refused]

/-- A document is refused only for the first thing that is wrong with it. -/
theorem firstViolation_of_rebuild {catalogue : Catalogue} {document : Document}
    {error : DocumentError} (refused : (document.rebuild catalogue).result = .error error) :
    document.FirstViolation error := by
  by_cases version : document.version = currentVersion
  · cases checked : (checkNodes catalogue [] document.nodes).result with
    | error other =>
        rw [rebuild_result_of_repeated_node version checked] at refused
        cases refused
        obtain ⟨before, node, after, split, nodup, repeated, rfl⟩ :=
          (checkNodes_result_eq_error_iff _ _ _).mp checked
        exact .node version split nodup repeated
    | ok =>
        have nodeIds_nodup := ((checkNodes_result_eq_ok_iff _ _ _).mp checked).1
        rw [rebuild_result_eq_checkedGraph version nodeIds_nodup] at refused
        exact firstViolation_of_checkedGraph version nodeIds_nodup refused
  · rw [rebuild, if_pos version] at refused
    cases refused
    exact .version version

/-- A document with something wrong is refused for the first such thing; of several nodes on cycles
it may name any. -/
theorem FirstViolation.refused {document : Document} {error : DocumentError}
    (violation : document.FirstViolation error) (catalogue : Catalogue) :
    (document.rebuild catalogue).result = .error error ∨
      ∃ node named, error = .cycle node ∧
        (document.rebuild catalogue).result = .error (.cycle named) := by
  cases violation with
  | version unsupported =>
      left
      rw [rebuild, if_pos unsupported]
  | node version split nodup repeated =>
      left
      apply rebuild_result_of_repeated_node version
      exact (checkNodes_result_eq_error_iff _ _ _).mpr ⟨_, _, _, split, nodup, repeated, rfl⟩
  | link version nodeIds_nodup split sound defect =>
      left
      rw [rebuild_result_eq_checkedGraph version nodeIds_nodup, checkedGraph,
        (checkLinks_eq_error_iff _ _ _).mpr ⟨_, _, _, split, sound, defect⟩]
      rfl
  | @cycle node version nodeIds_nodup sound path =>
      right
      have checked := (checkLinks_eq_ok_iff_sound _ _).mpr sound
      have stored := (sound_of_checkLinks nodeIds_nodup checked).toEndsStored
      have cyclic : ¬Acyclic document.toGraph.links := fun acyclic => acyclic node path
      obtain ⟨cycle, ordered⟩ := (Graph.exists_order_error_iff_not_acyclic stored).mpr cyclic
      refine ⟨node, cycle.node, rfl, ?_⟩
      rw [rebuild_result_eq_checkedGraph version nodeIds_nodup, checkedGraph, checked, ordered]
      rfl

/-- A document is admitted exactly if it is consistent; the graph then has its nodes and links in
stored order and the repaired counters.  Otherwise the first violation is reported, for which of
several nodes on cycles any may stand.  Neither the order of nodes and links nor the known types
decide on admission. -/
theorem rebuild_outcome (catalogue : Catalogue) (document : Document) :
    ((∃ graph, (document.rebuild catalogue).result = .ok graph) ↔ document.Consistent) ∧
      (∀ graph, (document.rebuild catalogue).result = .ok graph →
        graph.nodes = document.nodes ∧ graph.links = document.links ∧
          graph.nextNodeId.toNat =
            repairedCounter document.nextNodeId (document.nodes.map fun node => node.id.val) ∧
          graph.nextLinkId.toNat =
            repairedCounter document.nextLinkId (document.links.map fun link => link.id.val)) ∧
      (∀ error, (document.rebuild catalogue).result = .error error →
        document.FirstViolation error) ∧
      (∀ error, document.FirstViolation error →
        (document.rebuild catalogue).result = .error error ∨
          ∃ node named, error = .cycle node ∧
            (document.rebuild catalogue).result = .error (.cycle named)) ∧
      ∀ (others : Catalogue) (other : Document), other.version = document.version →
        document.nodes.Perm other.nodes → document.links.Perm other.links →
        ((∃ graph, (document.rebuild catalogue).result = .ok graph) ↔
          ∃ graph, (other.rebuild others).result = .ok graph) := by
  refine ⟨exists_rebuild_iff_consistent catalogue document, fun graph rebuilt => ?_,
    fun _ refused => firstViolation_of_rebuild refused,
    fun _ violation => violation.refused catalogue, fun others other version nodes links => ?_⟩
  · obtain ⟨_, _, rfl⟩ := rebuild_result_eq_ok_iff.mp rebuilt
    exact ⟨rfl, rfl, toNat_raisedPast _ _, toNat_raisedPast _ _⟩
  · rw [exists_rebuild_iff_consistent, exists_rebuild_iff_consistent]
    constructor
    · intro consistent
      exact consistent.perm version nodes links
    · intro consistent
      exact consistent.perm version.symm nodes.symm links.symm

/-- A chain of three nodes, stored with outdated counters. -/
def storedChain : Document where
  version := 1
  nodes := [9, 4, 6].map fun id => ⟨⟨id⟩, "Add", ⟨0.0, 0.0⟩, [], []⟩
  links := [⟨⟨⟨4⟩, 0, ⟨6⟩, 0⟩, ⟨4294967295⟩⟩, ⟨⟨⟨6⟩, 0, ⟨9⟩, 0⟩, ⟨2⟩⟩]
  nextNodeId := 5
  nextLinkId := 0

/-- The chain with its links turned round, followed by a link that repeats a number and leads to a
missing node, and by a self-loop. -/
def brokenChain : Document :=
  { storedChain with
    links := storedChain.links.reverse ++ [⟨⟨⟨9⟩, 0, ⟨3⟩, 0⟩, ⟨2⟩⟩, ⟨⟨⟨4⟩, 0, ⟨4⟩, 0⟩, ⟨7⟩⟩] }

/-- The chain is admitted in any order and its counters are repaired; of the three defects of the
broken chain the repeated number comes first. -/
theorem rebuild_outcome_storedChain :
    storedChain.Consistent ∧
      (storedChain.rebuild .empty).result = .ok storedChain.toGraph ∧
      storedChain.toGraph.nextNodeId = 10 ∧ storedChain.toGraph.nextLinkId = 4294967295 ∧
      (∃ graph,
        ({ storedChain with nodes := storedChain.nodes.reverse }.rebuild .builtin).result =
          .ok graph) ∧
      (brokenChain.rebuild .empty).result = .error (.duplicateLinkId ⟨2⟩) ∧
      brokenChain.FirstViolation (.duplicateLinkId ⟨2⟩) := by
  have rebuilt : (storedChain.rebuild .empty).result = .ok storedChain.toGraph := by
    decide +kernel
  have refused : (brokenChain.rebuild .empty).result = .error (.duplicateLinkId ⟨2⟩) := by
    decide +kernel
  obtain ⟨admitted_iff, _, _, _, any_order⟩ := rebuild_outcome .empty storedChain
  obtain ⟨_, _, first, _⟩ := rebuild_outcome .empty brokenChain
  have reversed := any_order .builtin { storedChain with nodes := storedChain.nodes.reverse } rfl
    (List.reverse_perm _).symm (List.Perm.refl _)
  exact ⟨admitted_iff.mp ⟨_, rebuilt⟩, rebuilt, by decide +kernel, by decide +kernel,
    reversed.mp ⟨_, rebuilt⟩, refused, first _ refused⟩

end Document
end TextureGraph
