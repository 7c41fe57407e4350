import TextureGraph.Document.Ron
import TextureGraph.Proofs.Ron.Record

/-!
# Documents read back from RON

A document in which no number is "not a number" reads back from its RON text unchanged.
-/

namespace TextureGraph

open Ron (Extensions Takes FieldTakes write)

/-! ## Values -/

section Values

variable {level : Nat}

theorem Ron.readName_takes {α : Type} {ofName? : String → Option α} {name : String} {a : α}
    (plain : isPlainName name.toList = true) (a_eq : ofName? name = some a) :
    Takes (readName ofName?) (write level (.ofName name)) a := by
  have named : (fun found => ofName? (String.ofList found)) name.toList = some a := by
    dsimp only
    rw [String.ofList_toList, a_eq]
  rw [ofName, write]
  exact (identifier_takes plain).lift named

theorem ValueType.takes (type : ValueType) :
    Takes (Ron.readName ofName?) (write level (.ofName type.name)) type := by
  cases type <;> exact Ron.readName_takes (by decide) rfl

theorem Direction.takes (direction : Direction) :
    Takes (Ron.readName ofName?) (write level (.ofName direction.name)) direction := by
  cases direction <;> exact Ron.readName_takes (by decide) rfl

theorem Vec2.takes {v : Vec2} (numeric : ∀ x ∈ v.floats, Single.Numeric x) :
    Takes ronReader (write level v.toRon) v :=
  Ron.singles_takes numeric rfl

theorem Value.contentRonReader_run {value : Value} (numeric : ∀ x ∈ value.floats, Single.Numeric x)
    (rest : List Char) :
    contentRonReader Extensions.none value.type
        (write level value.contentToRon ++ ')' :: rest) = some (value, rest) := by
  cases value with
  | float v =>
      have numeric_v := numeric v (List.mem_singleton_self v)
      exact Reader.map_of_run ((Ron.single_takes numeric_v).onlyItem_run rest)
  | int v => exact Reader.map_of_run ((Ron.int32_takes v).onlyItem_run rest)
  | bool v => exact Reader.map_of_run ((Ron.readBool_takes v).onlyItem_run rest)
  | vec2 v =>
      have parts_eq : Vec2.ofList? v.floats = some v := rfl
      exact Reader.map_of_run (Ron.singlesContent_run numeric parts_eq rest)
  | vec3 v =>
      have parts_eq : Vec3.ofList? v.floats = some v := rfl
      exact Reader.map_of_run (Ron.singlesContent_run numeric parts_eq rest)
  | vec4 v =>
      have parts_eq : Color.ofList? (Color.floats v) = some v := rfl
      exact Reader.map_of_run (Ron.singlesContent_run numeric parts_eq rest)
  | color v =>
      have parts_eq : Color.ofList? v.floats = some v := rfl
      exact Reader.map_of_run (Ron.singlesContent_run numeric parts_eq rest)
  | string v => exact Reader.map_of_run ((Ron.readString_takes v).onlyItem_run rest)

theorem Value.takes {value : Value} (numeric : ∀ x ∈ value.floats, Single.Numeric x) :
    Takes (ronReader Extensions.none) (write level value.toRon) value := by
  have name_takes : Takes (Ron.readName ValueType.ofName?) value.type.name.toList value.type := by
    have takes := @ValueType.takes level value.type
    rwa [Ron.ofName, write] at takes
  refine ⟨fun rest _ => ?_, ?_⟩
  · have name_run := name_takes.reads ('(' :: (write level value.contentToRon ++ ')' :: rest))
      (Reader.ended_cons (by decide) _)
    simp only [toRon, write, List.append_assoc, List.cons_append, List.nil_append]
    rw [ronReader, Reader.bind_of_run name_run, Reader.bind_of_run (Ron.blank_parenthesis _),
      Reader.bind_of_run (Reader.expect_cons_self '(' _)]
    exact contentRonReader_run numeric rest
  · obtain ⟨c, later, name_eq, opens⟩ := name_takes.begins
    exact ⟨c, _, by rw [toRon, write, name_eq]; rfl, opens⟩

/-! ## Records -/

theorem Pin.takes {pin : Pin} (numeric : ∀ x ∈ pin.default.floats, Single.Numeric x) (depth : Nat) :
    Takes (ronReader Extensions.none depth) (write level pin.toRon) pin := by
  have parts_take : List.Forall₂ (FieldTakes (partRonReader? Extensions.none) (level + 1))
      [("name", .ofString pin.name), ("pin_type", .ofName pin.type.name),
        ("direction", .ofName pin.direction.name), ("default_value", pin.default.toRon)]
      [Part.name pin.name, Part.type pin.type, Part.direction pin.direction,
        Part.default pin.default] := by
    refine .cons (.known rfl ?_) (.cons (.known rfl ?_) (.cons (.known rfl ?_)
      (.cons (.known rfl ?_) .nil)))
    · exact (Ron.readString_takes pin.name).map _
    · exact pin.type.takes.map _
    · exact pin.direction.takes.map _
    · exact (Value.takes numeric).map _
  have plain : ["name", "pin_type", "direction", "default_value"].all
      (Ron.isPlainName ·.toList) = true := by
    decide
  exact (Ron.record_takes parts_take plain depth "Pin").lift rfl

theorem NodeId.takes (id : NodeId) :
    Takes (ronReader Extensions.none) (write level id.toRon) id :=
  (Ron.wrapped_takes (Ron.uint32_takes id.val) "NodeId").map NodeId.mk

theorem Node.takes {node : Node} (numeric : ∀ x ∈ node.floats, Single.Numeric x) (depth : Nat) :
    Takes (ronReader Extensions.none depth) (write level node.toRon) node := by
  rw [floats, List.forall_mem_append, List.forall_mem_append, List.forall_mem_flatMap,
    List.forall_mem_flatMap] at numeric
  obtain ⟨⟨position_numeric, inputs_numeric⟩, outputs_numeric⟩ := numeric
  have parts_take : List.Forall₂
      (FieldTakes (partRonReader? Extensions.none (depth - 2)) (level + 1))
      [("id", node.id.toRon), ("type_name", .ofString node.typeName),
        ("position", node.position.toRon), ("inputs", .list (node.inputs.map Pin.toRon)),
        ("outputs", .list (node.outputs.map Pin.toRon))]
      [Part.id node.id, Part.typeName node.typeName, Part.position node.position,
        Part.inputs node.inputs, Part.outputs node.outputs] := by
    refine .cons (.known rfl ?_) (.cons (.known rfl ?_) (.cons (.known rfl ?_)
      (.cons (.known rfl ?_) (.cons (.known rfl ?_) .nil))))
    · exact node.id.takes.map _
    · exact (Ron.readString_takes node.typeName).map _
    · exact (Vec2.takes position_numeric).map _
    · exact (Ron.list_takes fun pin member => Pin.takes (inputs_numeric pin member) _).map _
    · exact (Ron.list_takes fun pin member => Pin.takes (outputs_numeric pin member) _).map _
  have plain : ["id", "type_name", "position", "inputs", "outputs"].all
      (Ron.isPlainName ·.toList) = true := by
    decide
  exact (Ron.record_takes parts_take plain depth "Node").lift rfl

theorem Link.takes (link : Link) (depth : Nat) :
    Takes (ronReader Extensions.none depth) (write level link.toRon) link := by
  have parts_take : List.Forall₂ (FieldTakes (partRonReader? Extensions.none) (level + 1))
      [("id", .tuple [.ofNat link.id.val.toNat]), ("from_node", link.source.toRon),
        ("from_pin", .ofNat link.sourcePin.toNat), ("to_node", link.target.toRon),
        ("to_pin", .ofNat link.targetPin.toNat)]
      [Part.id link.id, Part.source link.source, Part.sourcePin link.sourcePin,
        Part.target link.target, Part.targetPin link.targetPin] := by
    refine .cons (.known rfl ?_) (.cons (.known rfl ?_) (.cons (.known rfl ?_)
      (.cons (.known rfl ?_) (.cons (.known rfl ?_) .nil))))
    · exact (Ron.wrapped_takes (Ron.uint32_takes link.id.val) "LinkId").map (Part.id ∘ LinkId.mk)
    · exact link.source.takes.map _
    · exact (Ron.uint64_takes link.sourcePin).map _
    · exact link.target.takes.map _
    · exact (Ron.uint64_takes link.targetPin).map _
  have plain : ["id", "from_node", "from_pin", "to_node", "to_pin"].all
      (Ron.isPlainName ·.toList) = true := by
    decide
  exact (Ron.record_takes parts_take plain depth "Link").lift rfl

end Values

namespace Document

variable {document : Document}

theorem takes (numeric : ∀ x ∈ document.floats, Single.Numeric x) :
    Takes (ronReader Extensions.none) (write 0 document.toRon) document := by
  rw [floats, List.forall_mem_flatMap] at numeric
  have parts_take : List.Forall₂
      (FieldTakes (partRonReader? Extensions.none (Ron.depthLimit - 2)) (0 + 1))
      [("version", .ofNat document.version.toNat), ("nodes", .list (document.nodes.map Node.toRon)),
        ("links", .list (document.links.map Link.toRon)),
        ("next_node_id", .ofNat document.nextNodeId.toNat),
        ("next_link_id", .ofNat document.nextLinkId.toNat)]
      [Part.version document.version, Part.nodes document.nodes, Part.links document.links,
        Part.nextNodeId document.nextNodeId, Part.nextLinkId document.nextLinkId] := by
    refine .cons (.known rfl ?_) (.cons (.known rfl ?_) (.cons (.known rfl ?_)
      (.cons (.known rfl ?_) (.cons (.known rfl ?_) .nil))))
    · exact (Ron.uint32_takes document.version).map _
    · exact (Ron.list_takes fun node member => Node.takes (numeric node member) _).map _
    · exact (Ron.list_takes fun link _ => link.takes _).map _
    · exact (Ron.uint32_takes document.nextNodeId).map _
    · exact (Ron.uint32_takes document.nextLinkId).map _
  have plain : ["version", "nodes", "links", "next_node_id", "next_link_id"].all
      (Ron.isPlainName ·.toList) = true := by
    decide
  exact (Ron.record_takes parts_take plain Ron.depthLimit "GraphDocument").lift rfl

/-- A document without "not a number" is read back from its RON text bit for bit. -/
theorem ofRonText?_toRonText (numeric : ∀ x ∈ document.floats, Single.Numeric x) :
    ofRonText? document.toRonText = some document := by
  have takes := takes numeric
  have extensions_run : Extensions.reader (write 0 document.toRon) =
      some (Extensions.none, write 0 document.toRon) :=
    Ron.extensions_record _
  have value_run := takes.reads [] Reader.ended_nil
  rw [List.append_nil] at value_run
  have blank_run : Ron.blank [] = some ((), []) := rfl
  rw [ofRonText?, toRonText, String.toList_ofList, Ron.toText, Ron.readAll?, Reader.runAll,
    Reader.bind_of_run extensions_run, Reader.bind_of_run value_run, Reader.bind_of_run blank_run,
    Reader.pure_run]

/-- A document of values at the ends of their ranges: both infinities, a negative zero, the least
positive number, the extreme integers, and names with quotes, a backslash and hidden characters. -/
def extremes : Document where
  version := 0xffffffff
  nodes := [
    { id := ⟨0⟩
      typeName := "a \"quoted\" \\ 'name'"
      position := ⟨Float32.ofBits 0x7f800000, Float32.ofBits 0x80000000⟩
      inputs := [
        ⟨"\x00\x07\n", .float, .input, .float (Float32.ofBits 0x00000001)⟩,
        ⟨"\u200b\u0301", .int, .output, .int (-2147483648)⟩,
        ⟨"", .color, .input, .vec3 ⟨Float32.ofBits 0xff800000, Float32.ofBits 0x7f7fffff, 0.1⟩⟩]
      outputs := [⟨"#", .string, .output, .string "r#\"\"#"⟩] }]
  links := [⟨⟨⟨0xffffffff⟩, 0xffffffffffffffff, ⟨0⟩, 0⟩, ⟨7⟩⟩]
  nextNodeId := 0
  nextLinkId := 1

theorem ofRonText?_toRonText_extremes :
    (∀ x ∈ extremes.floats, Single.Numeric x) ∧
      ofRonText? extremes.toRonText = some extremes := by
  have numeric : ∀ x ∈ extremes.floats, Single.Numeric x := by decide +kernel
  exact ⟨numeric, ofRonText?_toRonText numeric⟩

end Document
end TextureGraph
