import TextureGraph.Proofs.Failure

/-!
# Known types

The catalogue knows a type by its name and by its full name, the evaluator by its name alone.  A
stored node keeps the name it is stored with.  A document that loads without a warning therefore
contains an unknown type exactly if one of its nodes bears the full name of a built-in type.
-/

namespace TextureGraph

/-! ## What the catalogue knows -/

namespace Catalogue

theorem contains_iff {catalogue : Catalogue} {name : String} :
    catalogue.contains name = true ↔
      ∃ type ∈ catalogue.types, type.name = name ∨ type.fullName = name := by
  rw [contains, get?]
  cases found : catalogue.named? name with
  | some type =>
      have member := List.mem_of_find?_eq_some found
      have named : type.name = name := by simpa using List.find?_some found
      simpa using ⟨type, member, .inl named⟩
  | none =>
      have unnamed : ∀ type ∈ catalogue.types, type.name ≠ name := by
        simpa [named?] using found
      simp only [List.find?_isSome, decide_eq_true_eq]
      refine exists_congr fun type => and_congr_right fun member => ?_
      simp [unnamed type member]

theorem insert_of_fresh {catalogue : Catalogue} {type : NodeType}
    (fresh : type.name ∉ catalogue.types.map fun type => type.name) :
    catalogue.insert type = ⟨catalogue.types ++ [type]⟩ := by
  have unnamed : catalogue.named? type.name = none := by
    simp only [named?, List.find?_eq_none, decide_eq_true_eq]
    exact fun old member same => fresh (same ▸ List.mem_map_of_mem member)
  simp [insert, unnamed]

/-- Types of distinct names are listed in the order of their registration. -/
theorem insertAll_of_nodup {catalogue : Catalogue} {types : List NodeType}
    (distinct : ((catalogue.types ++ types).map fun type => type.name).Nodup) :
    catalogue.insertAll types = ⟨catalogue.types ++ types⟩ := by
  induction types generalizing catalogue with
  | nil => simp [insertAll]
  | cons type types induction =>
      have fresh : type.name ∉ catalogue.types.map fun type => type.name := by
        rw [List.map_append, List.nodup_append'] at distinct
        exact fun listed => distinct.2.2 listed (by simp)
      have inserted := insert_of_fresh fresh
      have rest : (catalogue.insert type).insertAll types =
          ⟨(catalogue.insert type).types ++ types⟩ :=
        induction (by simpa [inserted] using distinct)
      simpa [insertAll, inserted] using rest

theorem types_builtin : builtin.types = Operation.all.map Operation.nodeType := by
  have distinct : ((empty.types ++ Operation.all.map Operation.nodeType).map
      fun type => type.name).Nodup := by
    decide +kernel
  rw [builtin, insertAll_of_nodup distinct]
  rfl

end Catalogue

namespace Operation

theorem mem_all (operation : Operation) : operation ∈ all := by
  cases operation <;> decide

theorem typeName_ne_fullName (operation other : Operation) :
    operation.typeName ≠ other.nodeType.fullName := by
  have apart : ∀ operation ∈ all, ∀ other ∈ all,
      operation.typeName ≠ other.nodeType.fullName := by
    decide +kernel
  exact apart operation operation.mem_all other other.mem_all

theorem fullName_nodeType (operation : Operation) :
    operation.nodeType.fullName = operation.category ++ "/" ++ operation.typeName := by
  have named : operation.category.isEmpty = false := by
    cases operation <;> decide
  simp [Template.fullName, nodeType, named]

end Operation

theorem Catalogue.contains_builtin_iff {name : String} :
    Catalogue.builtin.contains name = true ↔
      ∃ operation : Operation,
        operation.typeName = name ∨ operation.nodeType.fullName = name := by
  simp only [contains_iff, types_builtin, List.mem_map, exists_exists_and_eq_and]
  exact ⟨fun ⟨operation, _, known⟩ => ⟨operation, known⟩,
    fun ⟨operation, known⟩ => ⟨operation, operation.mem_all, known⟩⟩

/-- The name of an operation's type leads back to the operation. -/
theorem Operation.ofTypeName?_typeName (operation : Operation) :
    ofTypeName? operation.typeName = some operation := by
  have found : ∀ operation ∈ all, ofTypeName? operation.typeName = some operation := by
    decide +kernel
  exact found operation operation.mem_all

theorem Catalogue.get?_builtin_typeName (operation : Operation) :
    builtin.get? operation.typeName = some operation.nodeType := by
  have named : builtin.named? operation.typeName = some operation.nodeType := by
    rw [named?, types_builtin, List.find?_map]
    exact congrArg (Option.map Operation.nodeType) operation.ofTypeName?_typeName
  rw [get?, named]

/-! ## What the evaluator knows -/

namespace Evaluator

/-- Built-in operations are known by the names of their types. -/
theorem exists_operation_of_formula? {settings : Settings} {operations : List Operation}
    {name : String} {formula : Formula}
    (known : (withOperations settings operations).formula? name = some formula) :
    ∃ operation : Operation, operation.typeName = name ∧ operation.formula = formula := by
  have named : ∀ entry ∈ (withOperations settings operations).formulas,
      ∃ operation : Operation, operation.typeName = entry.1 ∧ operation.formula = entry.2 := by
    refine withOperations_induction (motive := fun evaluator => ∀ entry ∈ evaluator.formulas,
      ∃ operation : Operation, operation.typeName = entry.1 ∧ operation.formula = entry.2)
      (fun _ listed => nomatch listed) ?_ operations
    intro evaluator operation named entry listed
    rcases List.mem_cons.mp listed with rfl | earlier
    · exact ⟨operation, rfl, rfl⟩
    · exact named entry (List.mem_of_mem_filter earlier)
  exact named (name, formula) (mem_of_formula? known)

theorem lookup_filter_ne {name typeName : String} (different : name ≠ typeName)
    (entries : List (String × Formula)) :
    (entries.filter fun entry => entry.1 ≠ typeName).lookup name = entries.lookup name := by
  induction entries with
  | nil => rfl
  | cons entry entries induction =>
      by_cases dropped : entry.1 = typeName
      · have unlike : (name == entry.1) = false := beq_false_of_ne (dropped ▸ different)
        rw [List.filter_cons_of_neg (by simpa using dropped), List.lookup_cons, unlike]
        exact induction
      · rw [List.filter_cons_of_pos (by simpa using dropped), List.lookup_cons, List.lookup_cons,
          induction]

theorem formula?_register (evaluator : Evaluator) (typeName name : String) (formula : Formula) :
    (evaluator.register typeName formula).formula? name =
      if name = typeName then some formula else evaluator.formula? name := by
  by_cases same : name = typeName
  · simp [formula?, register, same]
  · have unlike : (name == typeName) = false := beq_false_of_ne same
    rw [if_neg same, formula?, formula?, register, List.lookup_cons, unlike]
    exact lookup_filter_ne same evaluator.formulas

theorem hasFormula_withOperations_iff (settings : Settings) (operations : List Operation)
    (name : String) :
    (withOperations settings operations).hasFormula name = true ↔
      ∃ operation ∈ operations, operation.typeName = name := by
  have run (evaluator : Evaluator) :
      (operations.foldl
        (fun evaluator operation => evaluator.register operation.typeName operation.formula)
        evaluator).hasFormula name = true ↔
        evaluator.hasFormula name = true ∨ ∃ operation ∈ operations, operation.typeName = name := by
    induction operations generalizing evaluator with
    | nil => simp
    | cons operation operations induction =>
        rw [List.foldl_cons, induction, hasFormula, formula?_register]
        by_cases same : name = operation.typeName
        · simp [same]
        · simp [same, Ne.symm same, hasFormula]
  rw [withOperations, run]
  simp [hasFormula, formula?, empty]

theorem hasFormula_builtin_iff {settings : Settings} {name : String} :
    (builtin settings).hasFormula name = true ↔
      ∃ operation : Operation, operation.typeName = name := by
  have known := hasFormula_withOperations_iff settings Operation.all name
  rw [show builtin settings = withOperations settings Operation.all from rfl, known]
  exact ⟨fun ⟨operation, _, named⟩ => ⟨operation, named⟩,
    fun ⟨operation, named⟩ => ⟨operation, operation.mem_all, named⟩⟩

/-- The formula of a built-in type is that of its operation. -/
theorem formula?_builtin (settings : Settings) (operation : Operation) :
    (builtin settings).formula? operation.typeName = some operation.formula := by
  have known : (builtin settings).hasFormula operation.typeName = true :=
    hasFormula_builtin_iff.mpr ⟨operation, rfl⟩
  obtain ⟨formula, formula_eq⟩ := Option.isSome_iff_exists.mp known
  obtain ⟨other, named, rfl⟩ := exists_operation_of_formula?
    (show (withOperations settings Operation.all).formula? _ = some formula from formula_eq)
  have same := other.ofTypeName?_typeName
  rw [named, operation.ofTypeName?_typeName] at same
  obtain rfl := Option.some.inj same
  exact formula_eq

/-- The types that the catalogue knows and the evaluator does not are those of full names. -/
theorem exists_fullName_iff {settings : Settings} {name : String} :
    (Catalogue.builtin.contains name = true ∧ (builtin settings).hasFormula name = false) ↔
      ∃ operation : Operation, operation.nodeType.fullName = name := by
  rw [← Bool.not_eq_true, hasFormula_builtin_iff, Catalogue.contains_builtin_iff]
  constructor
  · rintro ⟨⟨operation, short | full⟩, unknown⟩
    · exact absurd ⟨operation, short⟩ unknown
    · exact ⟨operation, full⟩
  · rintro ⟨operation, full⟩
    refine ⟨⟨operation, .inr full⟩, ?_⟩
    rintro ⟨other, short⟩
    exact other.typeName_ne_fullName operation (short.trans full.symm)

end Evaluator

/-! ## Documents that load without a warning -/

namespace Document

theorem typeUnregistered_mem_checkNodes {catalogue : Catalogue} {seen : List NodeId}
    {nodes : List Node} (passed : (checkNodes catalogue seen nodes).result = .ok ())
    {node : Node} (member : node ∈ nodes) (unknown : catalogue.contains node.typeName = false) :
    .typeUnregistered node.id node.typeName ∈ (checkNodes catalogue seen nodes).events := by
  induction nodes generalizing seen with
  | nil => cases member
  | cons first nodes induction =>
      rw [checkNodes] at passed ⊢
      by_cases repeated : first.id ∈ seen
      · simp [repeated] at passed
      · rw [if_neg repeated] at passed ⊢
        rcases List.mem_cons.mp member with rfl | later
        · exact List.mem_append_left _ (by simp [unknown])
        · exact List.mem_append_right _ (induction passed later)

/-- No warning about a type means that the catalogue knows the types of all nodes. -/
theorem contains_of_silent {catalogue : Catalogue} {document : Document} {graph : Graph}
    (rebuilt : (document.rebuild catalogue).result = .ok graph)
    (silent : ∀ id name, .typeUnregistered id name ∉ (document.rebuild catalogue).events)
    {node : Node} (member : node ∈ document.nodes) :
    catalogue.contains node.typeName = true := by
  obtain ⟨version, wellFormed, rfl⟩ := rebuild_result_eq_ok_iff.mp rebuilt
  have passed : (checkNodes catalogue [] document.nodes).result = .ok () :=
    (checkNodes_result_eq_ok_iff catalogue [] document.nodes).mpr
      ⟨wellFormed.nodeIds_nodup, List.disjoint_nil_right _⟩
  have checked : document.checkedGraph = .ok document.toGraph :=
    (checkedGraph_eq_ok_iff _ wellFormed.nodeIds_nodup).mpr ⟨wellFormed, rfl⟩
  have events : (document.rebuild catalogue).events =
      (checkNodes catalogue [] document.nodes).events ++
        [.graphLoaded document.toGraph.nodes.length document.toGraph.links.length] := by
    simp [rebuild, version, passed, checked]
  by_contra unknown
  have warned := typeUnregistered_mem_checkNodes passed member (Bool.eq_false_iff.mpr unknown)
  exact silent node.id node.typeName (events ▸ List.mem_append_left _ warned)

/-- An unknown type is met at a stored node that has outputs. -/
theorem exists_node_of_unknownNodeType {evaluator : Evaluator}
    (ofOperations : evaluator.OfOperations) {graph : Graph} {levels : Nat} {id : NodeId}
    {outputPin : UInt64} {sample : Vec2} {name : String}
    (failed : evaluator.evaluateWithin graph levels id outputPin sample =
      .error (.unknownNodeType name)) :
    evaluator.hasFormula name = false ∧
      ∃ node ∈ graph.nodes, node.typeName = name ∧ node.outputs ≠ [] := by
  induction levels generalizing id outputPin sample with
  | zero => cases failed
  | succ levels induction =>
      cases found : graph.node? id with
      | none =>
          rw [Evaluator.evaluateWithin_of_absent found] at failed
          cases failed
      | some node =>
          rw [Evaluator.evaluateWithin_succ found, Evaluator.meaning] at failed
          split_ifs at failed with beyond
          · cases failed
          · cases known : evaluator.formula? node.typeName with
            | none =>
                rw [known] at failed
                cases failed
                have member := Graph.mem_of_node? found
                refine ⟨by simp [Evaluator.hasFormula, known], node, member, rfl, ?_⟩
                intro no_outputs
                simp [no_outputs] at beyond
            | some formula =>
                obtain ⟨operation, rfl⟩ := ofOperations.exists_operation known
                rw [known] at failed
                obtain ⟨pin, point, _, unresolved⟩ := operation.exists_resolve_error failed
                obtain ⟨link, _, failed_source⟩ := Evaluator.exists_source_error unresolved
                exact induction failed_source

theorem evaluate_eq_unknownNodeType {evaluator : Evaluator} {graph : Graph} {node : Node}
    (found : graph.node? node.id = some node) (outputs : node.outputs ≠ [])
    (unknown : evaluator.hasFormula node.typeName = false) (sample : Vec2) :
    evaluator.evaluate graph node.id 0 sample = .error (.unknownNodeType node.typeName) := by
  have no_formula : evaluator.formula? node.typeName = none := by
    simpa [Evaluator.hasFormula] using unknown
  have within : ¬node.outputs.length ≤ (0 : UInt64).toNat := by
    simpa using outputs
  rw [Evaluator.evaluate, Evaluator.evaluateWithin_succ found, Evaluator.meaning, if_neg within,
    no_formula]

/-- In a document that loads without a warning about types, evaluation meets an unknown type only
under the full name of a built-in type; and it meets one at all exactly if a stored node that has
outputs bears such a name. -/
theorem unknownNodeType_iff_fullName {document : Document} {graph : Graph}
    (rebuilt : (document.rebuild .builtin).result = .ok graph)
    (silent : ∀ id name, .typeUnregistered id name ∉ (document.rebuild .builtin).events)
    (settings : Settings) :
    (∀ id outputPin sample name,
      (Evaluator.builtin settings).evaluate graph id outputPin sample =
          .error (.unknownNodeType name) →
        ∃ operation : Operation, name = operation.category ++ "/" ++ operation.typeName) ∧
      ((∃ id outputPin sample name,
        (Evaluator.builtin settings).evaluate graph id outputPin sample =
          .error (.unknownNodeType name)) ↔
        ∃ node ∈ document.nodes, node.outputs ≠ [] ∧
          ∃ operation : Operation,
            node.typeName = operation.category ++ "/" ++ operation.typeName) := by
  have known {node : Node} (member : node ∈ document.nodes) :
      Catalogue.builtin.contains node.typeName = true := contains_of_silent rebuilt silent member
  obtain ⟨_, wellFormed, rfl⟩ := rebuild_result_eq_ok_iff.mp rebuilt
  have ofOperations := Evaluator.ofOperations_withOperations settings Operation.all
  have qualified {id : NodeId} {outputPin : UInt64} {sample : Vec2} {name : String}
      (failed : (Evaluator.builtin settings).evaluate document.toGraph id outputPin sample =
        .error (.unknownNodeType name)) :
      ∃ node ∈ document.nodes, node.typeName = name ∧ node.outputs ≠ [] ∧
        ∃ operation : Operation, operation.nodeType.fullName = name := by
    obtain ⟨unknown, node, member, rfl, outputs⟩ :=
      exists_node_of_unknownNodeType ofOperations failed
    exact ⟨node, member, rfl, outputs, Evaluator.exists_fullName_iff.mp ⟨known member, unknown⟩⟩
  simp only [← Operation.fullName_nodeType]
  refine ⟨fun _ _ _ _ failed => ?_, ?_, ?_⟩
  · obtain ⟨_, _, _, _, operation, full⟩ := qualified failed
    exact ⟨operation, full.symm⟩
  · rintro ⟨_, _, _, _, failed⟩
    obtain ⟨node, member, rfl, outputs, operation, full⟩ := qualified failed
    exact ⟨node, member, outputs, operation, full.symm⟩
  · rintro ⟨node, member, outputs, operation, full⟩
    have found : document.toGraph.node? node.id = some node :=
      (Graph.node?_eq_some_iff wellFormed.nodeIds_nodup).mpr ⟨member, rfl⟩
    obtain ⟨_, unknown⟩ : Catalogue.builtin.contains node.typeName = true ∧
        (Evaluator.builtin settings).hasFormula node.typeName = false :=
      Evaluator.exists_fullName_iff.mpr ⟨operation, full.symm⟩
    exact ⟨_, _, ⟨0.0, 0.0⟩, _, evaluate_eq_unknownNodeType found outputs unknown _⟩

/-- A document whose only node bears a full name. -/
def qualifiedSample : Document :=
  ⟨1, [⟨⟨1⟩, "Generators/Texture Sample", ⟨0.0, 0.0⟩, [], [.output "Color" .color]⟩], [], 2, 1⟩

theorem unknownNodeType_iff_fullName_qualifiedSample :
    (∀ id name, .typeUnregistered id name ∉ (qualifiedSample.rebuild .builtin).events) ∧
      ∃ id outputPin sample name,
        (Evaluator.builtin ⟨256, 256⟩).evaluate qualifiedSample.toGraph id outputPin sample =
          .error (.unknownNodeType name) := by
  have rebuilt : (qualifiedSample.rebuild .builtin).result = .ok qualifiedSample.toGraph := by
    decide +kernel
  have events : (qualifiedSample.rebuild .builtin).events = [.graphLoaded 1 0] := by
    decide +kernel
  have silent : ∀ id name,
      .typeUnregistered id name ∉ (qualifiedSample.rebuild .builtin).events := by
    simp [events]
  refine ⟨silent, (unknownNodeType_iff_fullName rebuilt silent ⟨256, 256⟩).2.mpr ?_⟩
  exact ⟨_, List.mem_singleton_self _, by decide, .textureSample, by decide⟩

/-- A silent load does not mean that all types have formulas. -/
theorem exists_silent_unknownNodeType :
    (qualifiedSample.rebuild .builtin).result = .ok qualifiedSample.toGraph ∧
      (qualifiedSample.rebuild .builtin).events = [.graphLoaded 1 0] ∧
      (Evaluator.builtin ⟨256, 256⟩).evaluate qualifiedSample.toGraph ⟨1⟩ 0 ⟨0.5, 0.5⟩ =
        .error (.unknownNodeType "Generators/Texture Sample") := by
  decide +kernel

end Document
end TextureGraph
