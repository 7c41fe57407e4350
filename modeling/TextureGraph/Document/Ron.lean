import TextureGraph.Document.Basic
import TextureGraph.Ron.Basic
import TextureGraph.Ron.Record

/-!
# Documents as RON

Every part of a document as a RON value, and a reader for each.  A record is read as the list of
its known parts in written order and is sound if every part is there once.  `Document.toRonText`
writes a document and `Document.ofRonText?` reads one.
-/

namespace TextureGraph

open Ron (Extensions only?)

/-! ## Values -/

/-- Two numbers. -/
def Vec2.toRon (v : Vec2) : Ron :=
  .tuple [.ofSingle v.x, .ofSingle v.y]

/-- The point of two numbers. -/
def Vec2.ofList? : List Float32 → Option Vec2
  | [x, y] => some ⟨x, y⟩
  | _ => none

/-- Reads two numbers. -/
def Vec2.ronReader : Reader Vec2 := do
  Reader.expect '('
  Ron.readSingles ofList?

/-- Three numbers. -/
def Vec3.toRon (v : Vec3) : Ron :=
  .tuple [.ofSingle v.x, .ofSingle v.y, .ofSingle v.z]

/-- The vector of three numbers. -/
def Vec3.ofList? : List Float32 → Option Vec3
  | [x, y, z] => some ⟨x, y, z⟩
  | _ => none

/-- Four numbers. -/
def Color.toRon (c : Color) : Ron :=
  .tuple [.ofSingle c.red, .ofSingle c.green, .ofSingle c.blue, .ofSingle c.alpha]

/-- The colour of four numbers. -/
def Color.ofList? : List Float32 → Option Color
  | [red, green, blue, alpha] => some ⟨red, green, blue, alpha⟩
  | _ => none

/-- What a value holds. -/
def Value.contentToRon : Value → Ron
  | float v => .ofSingle v
  | int v => .ofInt v.toInt
  | bool v => .ofBool v
  | vec2 v => v.toRon
  | vec3 v => v.toRon
  | vec4 v => Color.toRon v
  | color v => v.toRon
  | string v => .ofString v

/-- A value marked with its type. -/
def Value.toRon (value : Value) : Ron :=
  .tagged value.type.name value.contentToRon

/-- Reads what a value of a type holds, after the opening parenthesis. -/
def Value.contentRonReader (extensions : Extensions) : ValueType → Reader Value
  | .float => float <$> Ron.onlyItem ')' Ron.single
  | .int => int <$> Ron.onlyItem ')' Ron.int32
  | .bool => bool <$> Ron.onlyItem ')' Ron.readBool
  | .vec2 => vec2 <$> Ron.readSinglesContent extensions Vec2.ofList?
  | .vec3 => vec3 <$> Ron.readSinglesContent extensions Vec3.ofList?
  | .vec4 => vec4 <$> Ron.readSinglesContent extensions Color.ofList?
  | .color => color <$> Ron.readSinglesContent extensions Color.ofList?
  | .string => string <$> Ron.onlyItem ')' Ron.readString

/-- Reads a value. -/
def Value.ronReader (extensions : Extensions) : Reader Value := do
  let type ← Ron.readName ValueType.ofName?
  Ron.blank
  Reader.expect '('
  Value.contentRonReader extensions type

/-! ## Pins -/

/-- A pin as a record. -/
def Pin.toRon (pin : Pin) : Ron :=
  .record
    [("name", .ofString pin.name), ("pin_type", .ofName pin.type.name),
      ("direction", .ofName pin.direction.name), ("default_value", pin.default.toRon)]

/-- A part of a stored pin. -/
inductive Pin.Part where
  /-- Its name. -/
  | name (value : String)
  /-- Its type. -/
  | type (value : ValueType)
  /-- Its direction. -/
  | direction (value : Direction)
  /-- Its default value. -/
  | default (value : Value)

/-- The pin of the parts that were read. -/
def Pin.ofParts? (parts : List Pin.Part) : Option Pin := do
  some
    { name := ← only? (parts.filterMap fun | .name value => some value | _ => none)
      type := ← only? (parts.filterMap fun | .type value => some value | _ => none)
      direction := ← only? (parts.filterMap fun | .direction value => some value | _ => none)
      default := ← only? (parts.filterMap fun | .default value => some value | _ => none) }

/-- Reads the part of a pin that has a name. -/
def Pin.partRonReader? (extensions : Extensions) : String → Option (Reader Pin.Part)
  | "name" => some (.name <$> Ron.readString)
  | "pin_type" => some (.type <$> Ron.readName ValueType.ofName?)
  | "direction" => some (.direction <$> Ron.readName Direction.ofName?)
  | "default_value" => some (.default <$> Value.ronReader extensions)
  | _ => none

/-- Reads a pin. -/
def Pin.ronReader (extensions : Extensions) (depth : Nat) : Reader Pin := do
  let parts ← Ron.readRecord extensions depth "Pin" (Pin.partRonReader? extensions)
  Reader.lift (Pin.ofParts? parts)

/-! ## Nodes -/

/-- The number of a node. -/
def NodeId.toRon (id : NodeId) : Ron :=
  .tuple [.ofNat id.val.toNat]

/-- Reads the number of a node. -/
def NodeId.ronReader (extensions : Extensions) : Reader NodeId :=
  NodeId.mk <$> Ron.readWrapped extensions "NodeId" Ron.uint32

/-- A node as a record. -/
def Node.toRon (node : Node) : Ron :=
  .record
    [("id", node.id.toRon), ("type_name", .ofString node.typeName),
      ("position", node.position.toRon), ("inputs", .list (node.inputs.map Pin.toRon)),
      ("outputs", .list (node.outputs.map Pin.toRon))]

/-- A part of a stored node. -/
inductive Node.Part where
  /-- Its number. -/
  | id (value : NodeId)
  /-- The name of its type. -/
  | typeName (value : String)
  /-- Its place on the canvas. -/
  | position (value : Vec2)
  /-- Its input pins. -/
  | inputs (value : List Pin)
  /-- Its output pins. -/
  | outputs (value : List Pin)

/-- The node of the parts that were read. -/
def Node.ofParts? (parts : List Node.Part) : Option Node := do
  some
    { id := ← only? (parts.filterMap fun | .id value => some value | _ => none)
      typeName := ← only? (parts.filterMap fun | .typeName value => some value | _ => none)
      position := ← only? (parts.filterMap fun | .position value => some value | _ => none)
      inputs := ← only? (parts.filterMap fun | .inputs value => some value | _ => none)
      outputs := ← only? (parts.filterMap fun | .outputs value => some value | _ => none) }

/-- Reads the part of a node that has a name. -/
def Node.partRonReader? (extensions : Extensions) (depth : Nat) :
    String → Option (Reader Node.Part)
  | "id" => some (.id <$> NodeId.ronReader extensions)
  | "type_name" => some (.typeName <$> Ron.readString)
  | "position" => some (.position <$> Vec2.ronReader)
  | "inputs" => some (.inputs <$> Ron.readList (Pin.ronReader extensions (depth - 2)))
  | "outputs" => some (.outputs <$> Ron.readList (Pin.ronReader extensions (depth - 2)))
  | _ => none

/-- Reads a node. -/
def Node.ronReader (extensions : Extensions) (depth : Nat) : Reader Node := do
  let parts ←
    Ron.readRecord extensions depth "Node" (Node.partRonReader? extensions (depth - 2))
  Reader.lift (Node.ofParts? parts)

/-! ## Links -/

/-- A link as a record. -/
def Link.toRon (link : Link) : Ron :=
  .record
    [("id", .tuple [.ofNat link.id.val.toNat]), ("from_node", link.source.toRon),
      ("from_pin", .ofNat link.sourcePin.toNat), ("to_node", link.target.toRon),
      ("to_pin", .ofNat link.targetPin.toNat)]

/-- A part of a stored link. -/
inductive Link.Part where
  /-- Its number. -/
  | id (value : LinkId)
  /-- The node at its beginning. -/
  | source (value : NodeId)
  /-- The pin at its beginning. -/
  | sourcePin (value : UInt64)
  /-- The node at its end. -/
  | target (value : NodeId)
  /-- The pin at its end. -/
  | targetPin (value : UInt64)

/-- The link of the parts that were read. -/
def Link.ofParts? (parts : List Link.Part) : Option Link := do
  some
    { id := ← only? (parts.filterMap fun | .id value => some value | _ => none)
      source := ← only? (parts.filterMap fun | .source value => some value | _ => none)
      sourcePin := ← only? (parts.filterMap fun | .sourcePin value => some value | _ => none)
      target := ← only? (parts.filterMap fun | .target value => some value | _ => none)
      targetPin := ← only? (parts.filterMap fun | .targetPin value => some value | _ => none) }

/-- Reads the part of a link that has a name. -/
def Link.partRonReader? (extensions : Extensions) : String → Option (Reader Link.Part)
  | "id" => some ((.id ∘ LinkId.mk) <$> Ron.readWrapped extensions "LinkId" Ron.uint32)
  | "from_node" => some (.source <$> NodeId.ronReader extensions)
  | "from_pin" => some (.sourcePin <$> Ron.uint64)
  | "to_node" => some (.target <$> NodeId.ronReader extensions)
  | "to_pin" => some (.targetPin <$> Ron.uint64)
  | _ => none

/-- Reads a link. -/
def Link.ronReader (extensions : Extensions) (depth : Nat) : Reader Link := do
  let parts ← Ron.readRecord extensions depth "Link" (Link.partRonReader? extensions)
  Reader.lift (Link.ofParts? parts)

/-! ## Documents -/

namespace Document

/-- A document as a record. -/
def toRon (document : Document) : Ron :=
  .record
    [("version", .ofNat document.version.toNat),
      ("nodes", .list (document.nodes.map Node.toRon)),
      ("links", .list (document.links.map Link.toRon)),
      ("next_node_id", .ofNat document.nextNodeId.toNat),
      ("next_link_id", .ofNat document.nextLinkId.toNat)]

/-- A part of a document. -/
inductive Part where
  /-- Its version. -/
  | version (value : UInt32)
  /-- Its nodes. -/
  | nodes (value : List Node)
  /-- Its links. -/
  | links (value : List Link)
  /-- The number of the next node. -/
  | nextNodeId (value : UInt32)
  /-- The number of the next link. -/
  | nextLinkId (value : UInt32)

/-- The document of the parts that were read. -/
def ofParts? (parts : List Part) : Option Document := do
  some
    { version := ← only? (parts.filterMap fun | .version value => some value | _ => none)
      nodes := ← only? (parts.filterMap fun | .nodes value => some value | _ => none)
      links := ← only? (parts.filterMap fun | .links value => some value | _ => none)
      nextNodeId := ← only? (parts.filterMap fun | .nextNodeId value => some value | _ => none)
      nextLinkId := ← only? (parts.filterMap fun | .nextLinkId value => some value | _ => none) }

/-- Reads the part of a document that has a name. -/
def partRonReader? (extensions : Extensions) (depth : Nat) : String → Option (Reader Part)
  | "version" => some (.version <$> Ron.uint32)
  | "nodes" => some (.nodes <$> Ron.readList (Node.ronReader extensions (depth - 2)))
  | "links" => some (.links <$> Ron.readList (Link.ronReader extensions (depth - 2)))
  | "next_node_id" => some (.nextNodeId <$> Ron.uint32)
  | "next_link_id" => some (.nextLinkId <$> Ron.uint32)
  | _ => none

/-- Reads a document. -/
def ronReader (extensions : Extensions) : Reader Document := do
  let parts ←
    Ron.readRecord extensions Ron.depthLimit "GraphDocument"
      (partRonReader? extensions (Ron.depthLimit - 2))
  Reader.lift (ofParts? parts)

/-- The RON text of a document. -/
def toRonText (document : Document) : String :=
  String.ofList document.toRon.toText

/-- The document that a RON text holds. -/
def ofRonText? (text : String) : Option Document :=
  Ron.readAll? ronReader text.toList

end Document
end TextureGraph
