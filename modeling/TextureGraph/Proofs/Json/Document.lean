import TextureGraph.Document.Json
import TextureGraph.Proofs.DocumentFloats
import TextureGraph.Proofs.Json.Value

/-!
# Documents read back from JSON

A document whose numbers are finite reads back from its JSON text unchanged.  If some number is not
finite, its place in the text holds no number and the text is refused, so that no text of a document
is ever read as another document.
-/

namespace TextureGraph

/-! ## Numbers that must be finite -/

namespace Json

/-- What is read of a part whose text depends on some numbers: the part itself, if they are
finite. -/
def restored {α : Type} (floats : List Float32) (a : α) : Option α :=
  if ∀ x ∈ floats, Single.Finite x then some a else none

section Restored

variable {α β : Type}

theorem restored_nil (a : α) : restored [] a = some a :=
  if_pos nofun

theorem restored_bind {floats more : List Float32} {a : α} {b : β} {next : α → Option β}
    (next_eq : next a = restored more b) :
    (restored floats a).bind next = restored (floats ++ more) b := by
  by_cases finite : ∀ x ∈ floats, Single.Finite x
  · have all_iff : (∀ x ∈ floats ++ more, Single.Finite x) ↔ ∀ x ∈ more, Single.Finite x := by
      rw [List.forall_mem_append]
      exact and_iff_right finite
    rw [restored, if_pos finite, Option.bind_some, next_eq, restored, restored]
    simp only [all_iff]
  · rw [restored, if_neg finite, Option.bind_none, restored, if_neg]
    exact fun all => finite fun x member => all x (List.mem_append_left _ member)

theorem restored_bind_some {floats : List Float32} {a : α} {b : β} {next : α → Option β}
    (next_eq : next a = some b) : (restored floats a).bind next = restored floats b := by
  rw [← restored_nil] at next_eq
  rw [restored_bind next_eq, List.append_nil]

theorem restored_map {floats : List Float32} {a : α} (f : α → β) :
    f <$> restored floats a = restored floats (f a) := by
  rw [restored, restored]
  split_ifs <;> rfl

/-- The items of a list are restored together. -/
theorem mapM_restored {write : α → Json} {read : Json → Option α} {floats : α → List Float32}
    (read_write : ∀ a, read (write a) = restored (floats a) a) (items : List α) :
    (array (items.map write)).toList? read = restored (items.flatMap floats) items := by
  rw [toList?]
  induction items with
  | nil => exact (restored_nil []).symm
  | cons item items induction =>
      rw [List.map_cons, List.mapM_cons, read_write, List.flatMap_cons]
      refine restored_bind ?_
      rw [induction, bind_pure_comp]
      exact restored_map (item :: ·)

end Restored

/-! ## Records -/

theorem field?_ofFields {fields : List (String × Json)} (distinct : (fields.map Prod.fst).Nodup)
    {field : String × Json} (member : field ∈ fields) :
    field? (fields.map fun field => (field.1.toList, field.2)) field.1 = some field.2 := by
  have only : fields.filter (fun other => other.1 = field.1) = [field] := by
    induction fields with
    | nil => nomatch member
    | cons first fields induction =>
        rw [List.map_cons, List.nodup_cons] at distinct
        rcases List.mem_cons.mp member with rfl | later
        · have none_later : fields.filter (fun other => other.1 = field.1) = [] := by
            rw [List.filter_eq_nil_iff]
            intro other other_mem same
            exact distinct.1 (List.mem_map.mpr ⟨other, other_mem, of_decide_eq_true same⟩)
          simp [none_later]
        · have different : first.1 ≠ field.1 := by
            intro same
            exact distinct.1 (List.mem_map.mpr ⟨field, later, same.symm⟩)
          simp [different, induction distinct.2 later]
  rw [field?, List.filter_map]
  simp only [Function.comp_def, String.toList_inj]
  rw [only]
  rfl

/-- The fields of a record with distinct names are found in the order in which they are asked
for. -/
theorem record?_ofFields (fields : List (String × Json)) (distinct : (fields.map Prod.fst).Nodup) :
    (ofFields fields).record? (fields.map Prod.fst) = some (fields.map Prod.snd) := by
  rw [ofFields, record?]
  have found : ∀ part ⊆ fields, (part.map Prod.fst).mapM
      (field? (fields.map fun field => (field.1.toList, field.2))) = some (part.map Prod.snd) := by
    intro part within
    induction part with
    | nil => rfl
    | cons field part induction =>
        rw [List.cons_subset] at within
        rw [List.map_cons, List.mapM_cons, field?_ofFields distinct within.1, induction within.2]
        rfl
  exact found fields (List.Subset.refl fields)

end Json

/-! ## Readable parts -/

namespace Json

theorem readable_ofInt (n : Int) : (ofInt n).Readable := by
  rw [ofInt, ← Numeral.text_ofInt]
  exact .number (Spelling.sound_ofInt n)

theorem readable_ofNat (n : Nat) : (ofNat n).Readable := by
  rw [ofNat_eq_ofInt]
  exact readable_ofInt n

theorem readable_ofSingle (x : Float32) : (ofSingle x).Readable := by
  rw [ofSingle]
  by_cases finite : Single.Finite x
  · obtain ⟨spelling, sound, written, -⟩ := Numeral.exists_write? finite
    rw [written]
    exact .number sound
  · rw [Numeral.write?_eq_none finite]
    exact .null

theorem readable_ofFields {fields : List (String × Json)}
    (all : ∀ field ∈ fields, field.2.Readable) : (ofFields fields).Readable := by
  refine .object fun field member => ?_
  obtain ⟨source, source_mem, rfl⟩ := List.mem_map.mp member
  exact all source source_mem

theorem readable_map {α : Type} {write : α → Json} (readable : ∀ a, (write a).Readable)
    (items : List α) : (array (items.map write)).Readable := by
  refine .array fun item member => ?_
  obtain ⟨a, -, rfl⟩ := List.mem_map.mp member
  exact readable a

end Json

/-! ## Parts of documents -/

section Parts

open Json (restored restored_bind restored_bind_some restored_map restored_nil record?_ofFields)

/-- A finite number is restored. -/
theorem Json.toSingle?_restored (x : Float32) : (ofSingle x).toSingle? = restored [x] x := by
  rw [toSingle?_ofSingle, restored]
  simp only [List.mem_singleton, forall_eq]
  rfl

theorem Json.toList?_ofSingle (numbers : List Float32) :
    (array (numbers.map ofSingle)).toList? toSingle? = restored numbers numbers := by
  rw [mapM_restored toSingle?_restored, List.flatMap_singleton']

theorem Vec2.ofJson?_toJson (v : Vec2) : Vec2.ofJson? v.toJson = restored v.floats v :=
  (congrArg (Option.bind · _) (Json.toList?_ofSingle v.floats)).trans (restored_bind_some rfl)

theorem Vec3.ofJson?_toJson (v : Vec3) : Vec3.ofJson? v.toJson = restored v.floats v :=
  (congrArg (Option.bind · _) (Json.toList?_ofSingle v.floats)).trans (restored_bind_some rfl)

theorem Color.ofJson?_toJson (c : Color) : Color.ofJson? c.toJson = restored c.floats c :=
  (congrArg (Option.bind · _) (Json.toList?_ofSingle c.floats)).trans (restored_bind_some rfl)

theorem Json.toString?_ofString (text : String) : (ofString text).toString? = some text := by
  rw [ofString, toString?, String.ofList_toList]

theorem ValueType.ofName?_name (type : ValueType) : ofName? type.name = some type := by
  cases type <;> rfl

theorem Direction.ofName?_name (direction : Direction) :
    ofName? direction.name = some direction := by
  cases direction <;> rfl

theorem ValueType.ofJson?_toJson (type : ValueType) : ofJson? type.toJson = some type := by
  rw [ofJson?, toJson, Json.ofString, Json.alternative?, String.ofList_toList, Option.bind_some,
    ofName?_name]

theorem Direction.ofJson?_toJson (direction : Direction) :
    ofJson? direction.toJson = some direction := by
  rw [ofJson?, toJson, Json.ofString, Json.alternative?, String.ofList_toList, Option.bind_some,
    ofName?_name]

theorem Value.ofContentJson?_contentToJson (value : Value) :
    ofContentJson? value.contentToJson value.type = restored value.floats value := by
  cases value with
  | float v =>
      rw [type, contentToJson, ofContentJson?, Json.toSingle?_restored, restored_map]
      rfl
  | int v =>
      simp only [type, contentToJson, ofContentJson?, Json.toInt?_ofInt, Option.bind_some,
        Word.int32?_toInt, floats, restored_nil]
      rfl
  | bool v => rfl
  | vec2 v =>
      rw [type, contentToJson, ofContentJson?, Vec2.ofJson?_toJson, restored_map]
      rfl
  | vec3 v =>
      rw [type, contentToJson, ofContentJson?, Vec3.ofJson?_toJson, restored_map]
      rfl
  | vec4 v =>
      rw [type, contentToJson, ofContentJson?, Color.ofJson?_toJson, restored_map]
      rfl
  | color v =>
      rw [type, contentToJson, ofContentJson?, Color.ofJson?_toJson, restored_map]
      rfl
  | string v =>
      simp only [type, contentToJson, ofContentJson?, Json.toString?_ofString, floats, restored_nil]
      rfl

theorem Value.ofJson?_toJson (value : Value) :
    ofJson? value.toJson = restored value.floats value := by
  have content_eq : value.toJson.content? = some (value.type.name, value.contentToJson) := by
    rw [toJson, Json.ofFields, List.map_cons, List.map_nil, Json.content?, String.ofList_toList]
  rw [ofJson?, content_eq, ← ofContentJson?_contentToJson]
  simp [ValueType.ofName?_name]

theorem Pin.ofJson?_toJson (pin : Pin) : ofJson? pin.toJson = restored pin.default.floats pin := by
  have fields_eq : pin.toJson.record? ["name", "pin_type", "direction", "default_value"] =
      some [.ofString pin.name, pin.type.toJson, pin.direction.toJson, pin.default.toJson] :=
    record?_ofFields [("name", .ofString pin.name), ("pin_type", pin.type.toJson),
      ("direction", pin.direction.toJson), ("default_value", pin.default.toJson)] (by simp)
  simp only [ofJson?, fields_eq, Json.toString?_ofString, ValueType.ofJson?_toJson,
    Direction.ofJson?_toJson, Value.ofJson?_toJson, Option.bind_eq_bind, Option.bind_some]
  exact restored_bind_some rfl

theorem Json.uint32?_ofNat (n : UInt32) : (ofNat n.toNat).toInt?.bind Word.uint32? = some n := by
  rw [toInt?_ofNat, Option.bind_some, Word.uint32?_toNat]

theorem Json.uint64?_ofNat (n : UInt64) : (ofNat n.toNat).toInt?.bind Word.uint64? = some n := by
  rw [toInt?_ofNat, Option.bind_some, Word.uint64?_toNat]

theorem NodeId.ofJson?_toJson (id : NodeId) : ofJson? id.toJson = some id := by
  rw [ofJson?, toJson, Json.uint32?_ofNat]
  rfl

theorem Node.ofJson?_toJson (node : Node) : ofJson? node.toJson = restored node.floats node := by
  have fields_eq : node.toJson.record? ["id", "type_name", "position", "inputs", "outputs"] =
      some [node.id.toJson, .ofString node.typeName, node.position.toJson,
        .array (node.inputs.map Pin.toJson), .array (node.outputs.map Pin.toJson)] :=
    record?_ofFields [("id", node.id.toJson), ("type_name", .ofString node.typeName),
      ("position", node.position.toJson), ("inputs", .array (node.inputs.map Pin.toJson)),
      ("outputs", .array (node.outputs.map Pin.toJson))] (by simp)
  simp only [ofJson?, fields_eq, NodeId.ofJson?_toJson, Json.toString?_ofString,
    Vec2.ofJson?_toJson, Json.mapM_restored Pin.ofJson?_toJson, Option.bind_eq_bind,
    Option.bind_some]
  rw [floats, List.append_assoc]
  exact restored_bind (restored_bind (restored_bind_some rfl))

theorem Link.ofJson?_toJson (link : Link) : ofJson? link.toJson = some link := by
  have fields_eq : link.toJson.record? ["id", "from_node", "from_pin", "to_node", "to_pin"] =
      some [.ofNat link.id.val.toNat, link.source.toJson, .ofNat link.sourcePin.toNat,
        link.target.toJson, .ofNat link.targetPin.toNat] :=
    record?_ofFields [("id", .ofNat link.id.val.toNat), ("from_node", link.source.toJson),
      ("from_pin", .ofNat link.sourcePin.toNat), ("to_node", link.target.toJson),
      ("to_pin", .ofNat link.targetPin.toNat)] (by simp)
  simp only [ofJson?, fields_eq, NodeId.ofJson?_toJson, Json.uint32?_ofNat, Json.uint64?_ofNat,
    Option.bind_eq_bind, Option.bind_some]

/-! ## Texts -/

open Json (readable_ofNat readable_ofInt readable_ofSingle readable_ofFields readable_map)

theorem Value.readable_toJson (value : Value) : value.toJson.Readable := by
  refine readable_ofFields ?_
  rw [List.forall_mem_singleton]
  cases value with
  | float v => exact readable_ofSingle v
  | int v => exact readable_ofInt v.toInt
  | bool v => exact .bool v
  | vec2 v => exact readable_map readable_ofSingle v.floats
  | vec3 v => exact readable_map readable_ofSingle v.floats
  | vec4 v => exact readable_map readable_ofSingle (Color.floats v)
  | color v => exact readable_map readable_ofSingle v.floats
  | string v => exact .string v.toList

theorem Pin.readable_toJson (pin : Pin) : pin.toJson.Readable := by
  refine readable_ofFields ?_
  simp only [List.forall_mem_cons]
  exact ⟨.string _, .string _, .string _, pin.default.readable_toJson, nofun⟩

theorem Node.readable_toJson (node : Node) : node.toJson.Readable := by
  refine readable_ofFields ?_
  simp only [List.forall_mem_cons]
  exact ⟨readable_ofNat _, .string _, readable_map readable_ofSingle node.position.floats,
    readable_map Pin.readable_toJson _, readable_map Pin.readable_toJson _, nofun⟩

theorem Link.readable_toJson (link : Link) : link.toJson.Readable := by
  refine readable_ofFields ?_
  simp only [List.forall_mem_cons]
  exact ⟨readable_ofNat _, readable_ofNat _, readable_ofNat _, readable_ofNat _, readable_ofNat _,
    nofun⟩

end Parts

namespace Document

open Json (restored restored_bind_some restored_nil record?_ofFields)

theorem ofJson?_toJson (document : Document) :
    ofJson? document.toJson = restored document.floats document := by
  have fields_eq : document.toJson.record?
        ["version", "nodes", "links", "next_node_id", "next_link_id"] =
      some [.ofNat document.version.toNat, .array (document.nodes.map Node.toJson),
        .array (document.links.map Link.toJson), .ofNat document.nextNodeId.toNat,
        .ofNat document.nextLinkId.toNat] :=
    record?_ofFields [("version", .ofNat document.version.toNat),
      ("nodes", .array (document.nodes.map Node.toJson)),
      ("links", .array (document.links.map Link.toJson)),
      ("next_node_id", .ofNat document.nextNodeId.toNat),
      ("next_link_id", .ofNat document.nextLinkId.toNat)] (by simp)
  have links_eq : (Json.array (document.links.map Link.toJson)).toList? Link.ofJson? =
      some document.links := by
    have read_write (link : Link) : Link.ofJson? link.toJson = restored [] link := by
      rw [Link.ofJson?_toJson, restored_nil]
    have no_floats : document.links.flatMap (fun _ => ([] : List Float32)) = [] := by simp
    rw [Json.mapM_restored read_write, no_floats, restored_nil]
  simp only [ofJson?, fields_eq, links_eq, Json.uint32?_ofNat,
    Json.mapM_restored Node.ofJson?_toJson, Option.bind_eq_bind, Option.bind_some]
  exact restored_bind_some rfl

theorem readable_toJson (document : Document) : document.toJson.Readable := by
  refine Json.readable_ofFields ?_
  simp only [List.forall_mem_cons]
  exact ⟨Json.readable_ofNat _, Json.readable_map Node.readable_toJson _,
    Json.readable_map Link.readable_toJson _, Json.readable_ofNat _, Json.readable_ofNat _, nofun⟩

/-- A document is read back from its JSON text bit for bit if all its numbers are finite, and is
refused otherwise. -/
theorem ofJsonText?_toJsonText (document : Document) :
    ofJsonText? document.toJsonText =
      if ∀ x ∈ document.floats, Single.Finite x then some document else none := by
  rw [ofJsonText?, toJsonText, String.toList_ofList, Json.ofText?_toText document.readable_toJson,
    Option.bind_some, ofJson?_toJson]
  rfl

end Document
end TextureGraph
