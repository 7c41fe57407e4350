import TextureGraph.Document.Basic
import TextureGraph.Json.Fields
import TextureGraph.Json.Printer
import TextureGraph.Json.Reader

/-!
# Documents as JSON

Every part of a document as a JSON value and back.  `Document.toJsonText` writes a document and
`Document.ofJsonText?` reads one.
-/

namespace TextureGraph

/-- Two numbers. -/
def Vec2.toJson (v : Vec2) : Json :=
  .array [.ofSingle v.x, .ofSingle v.y]

/-- Reads two numbers. -/
def Vec2.ofJson? (json : Json) : Option Vec2 := do
  match ← json.toList? Json.toSingle? with
  | [x, y] => some ⟨x, y⟩
  | _ => none

/-- Three numbers. -/
def Vec3.toJson (v : Vec3) : Json :=
  .array [.ofSingle v.x, .ofSingle v.y, .ofSingle v.z]

/-- Reads three numbers. -/
def Vec3.ofJson? (json : Json) : Option Vec3 := do
  match ← json.toList? Json.toSingle? with
  | [x, y, z] => some ⟨x, y, z⟩
  | _ => none

/-- Four numbers. -/
def Color.toJson (c : Color) : Json :=
  .array [.ofSingle c.red, .ofSingle c.green, .ofSingle c.blue, .ofSingle c.alpha]

/-- Reads four numbers. -/
def Color.ofJson? (json : Json) : Option Color := do
  match ← json.toList? Json.toSingle? with
  | [red, green, blue, alpha] => some ⟨red, green, blue, alpha⟩
  | _ => none

/-- The name of a type. -/
def ValueType.toJson (type : ValueType) : Json :=
  .ofString type.name

/-- Reads a type. -/
def ValueType.ofJson? (json : Json) : Option ValueType :=
  json.alternative?.bind ValueType.ofName?

/-- The name of a direction. -/
def Direction.toJson (direction : Direction) : Json :=
  .ofString direction.name

/-- Reads a direction. -/
def Direction.ofJson? (json : Json) : Option Direction :=
  json.alternative?.bind Direction.ofName?

/-- What a value holds. -/
def Value.contentToJson : Value → Json
  | float v => .ofSingle v
  | int v => .ofInt v.toInt
  | bool v => .bool v
  | vec2 v => v.toJson
  | vec3 v => v.toJson
  | vec4 v => Color.toJson v
  | color v => v.toJson
  | string v => .ofString v

/-- The content of a value under the name of its type. -/
def Value.toJson (value : Value) : Json :=
  .ofFields [(value.type.name, value.contentToJson)]

/-- Reads what a value of a type holds. -/
def Value.ofContentJson? (json : Json) : ValueType → Option Value
  | .float => float <$> json.toSingle?
  | .int => int <$> json.toInt?.bind Word.int32?
  | .bool => bool <$> json.toBool?
  | .vec2 => vec2 <$> Vec2.ofJson? json
  | .vec3 => vec3 <$> Vec3.ofJson? json
  | .vec4 => vec4 <$> Color.ofJson? json
  | .color => color <$> Color.ofJson? json
  | .string => string <$> json.toString?

/-- Reads a value. -/
def Value.ofJson? (json : Json) : Option Value := do
  let (name, content) ← json.content?
  let type ← ValueType.ofName? name
  Value.ofContentJson? content type

/-- A pin as a record. -/
def Pin.toJson (pin : Pin) : Json :=
  .ofFields
    [("name", .ofString pin.name), ("pin_type", pin.type.toJson),
      ("direction", pin.direction.toJson), ("default_value", pin.default.toJson)]

/-- Reads a pin. -/
def Pin.ofJson? (json : Json) : Option Pin := do
  match ← json.record? ["name", "pin_type", "direction", "default_value"] with
  | [name, type, direction, default] =>
      some
        { name := ← name.toString?
          type := ← ValueType.ofJson? type
          direction := ← Direction.ofJson? direction
          default := ← Value.ofJson? default }
  | _ => none

/-- The number of a node. -/
def NodeId.toJson (id : NodeId) : Json :=
  .ofNat id.val.toNat

/-- Reads the number of a node. -/
def NodeId.ofJson? (json : Json) : Option NodeId :=
  NodeId.mk <$> json.toInt?.bind Word.uint32?

/-- A node as a record. -/
def Node.toJson (node : Node) : Json :=
  .ofFields
    [("id", node.id.toJson), ("type_name", .ofString node.typeName),
      ("position", node.position.toJson), ("inputs", .array (node.inputs.map Pin.toJson)),
      ("outputs", .array (node.outputs.map Pin.toJson))]

/-- Reads a node. -/
def Node.ofJson? (json : Json) : Option Node := do
  match ← json.record? ["id", "type_name", "position", "inputs", "outputs"] with
  | [id, typeName, position, inputs, outputs] =>
      some
        { id := ← NodeId.ofJson? id
          typeName := ← typeName.toString?
          position := ← Vec2.ofJson? position
          inputs := ← inputs.toList? Pin.ofJson?
          outputs := ← outputs.toList? Pin.ofJson? }
  | _ => none

/-- A link as a record. -/
def Link.toJson (link : Link) : Json :=
  .ofFields
    [("id", .ofNat link.id.val.toNat), ("from_node", link.source.toJson),
      ("from_pin", .ofNat link.sourcePin.toNat), ("to_node", link.target.toJson),
      ("to_pin", .ofNat link.targetPin.toNat)]

/-- Reads a link. -/
def Link.ofJson? (json : Json) : Option Link := do
  match ← json.record? ["id", "from_node", "from_pin", "to_node", "to_pin"] with
  | [id, source, sourcePin, target, targetPin] =>
      some
        { id := ⟨← id.toInt?.bind Word.uint32?⟩
          source := ← NodeId.ofJson? source
          sourcePin := ← sourcePin.toInt?.bind Word.uint64?
          target := ← NodeId.ofJson? target
          targetPin := ← targetPin.toInt?.bind Word.uint64? }
  | _ => none

namespace Document

/-- A document as a record. -/
def toJson (document : Document) : Json :=
  .ofFields
    [("version", .ofNat document.version.toNat),
      ("nodes", .array (document.nodes.map Node.toJson)),
      ("links", .array (document.links.map Link.toJson)),
      ("next_node_id", .ofNat document.nextNodeId.toNat),
      ("next_link_id", .ofNat document.nextLinkId.toNat)]

/-- Reads a document. -/
def ofJson? (json : Json) : Option Document := do
  match ← json.record? ["version", "nodes", "links", "next_node_id", "next_link_id"] with
  | [version, nodes, links, nextNodeId, nextLinkId] =>
      some
        { version := ← version.toInt?.bind Word.uint32?
          nodes := ← nodes.toList? Node.ofJson?
          links := ← links.toList? Link.ofJson?
          nextNodeId := ← nextNodeId.toInt?.bind Word.uint32?
          nextLinkId := ← nextLinkId.toInt?.bind Word.uint32? }
  | _ => none

/-- The JSON text of a document. -/
def toJsonText (document : Document) : String :=
  String.ofList document.toJson.toText

/-- The document that a JSON text holds. -/
def ofJsonText? (text : String) : Option Document :=
  (Json.ofText? text.toList).bind ofJson?

end Document
end TextureGraph
