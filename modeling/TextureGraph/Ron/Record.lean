import TextureGraph.Ron.Skip

/-!
# Reading values of known types in RON

What a RON text means depends on the type of value that is wanted: the same parentheses may hold a
record, a tuple or a number with a name of its own.  The readers here are put together along the
types of the values.  Each takes the depth that is left for nesting; the parts of a list or record
are two levels deeper than the whole.
-/

namespace TextureGraph
namespace Ron

/-- How deep a text may be nested. -/
def depthLimit : Nat := 128

/-- Reads a truth value. -/
def readBool : Reader Bool := do
  match ← acceptOneOf? [("true", true), ("false", false)] with
  | some value => pure value
  | none => Reader.refuse

/-- Reads a text. -/
def readString : Reader String :=
  String.ofList <$> text

/-- Reads one of a number of names. -/
def readName {α : Type} (ofName? : String → Option α) : Reader α := do
  let name ← identifier
  Reader.lift (ofName? (String.ofList name))

/-- Reads the name of a record, which may be left out unless the text demands names. -/
def readRecordName (extensions : Extensions) (name : String) : Reader Unit := do
  let next ← Reader.peek?
  if next.any isIdentifierContinue then
    let found ← identifier
    if found = name.toList then pure () else Reader.refuse
  else if extensions.explicitStructNames then Reader.refuse
  else pure ()

/-- Reads a record of one unnamed field. -/
def readWrapped {α : Type} (extensions : Extensions) (name : String) (content : Reader α) :
    Reader α := do
  if extensions.unwrapNewtypes then content
  else
    readRecordName extensions name
    blank
    Reader.expect '('
    onlyItem ')' content

/-- Reads a list. -/
def readList {α : Type} (item : Reader α) : Reader (List α) := do
  Reader.expect '['
  items ']' item

/-- Reads a tuple of numbers after its opening parenthesis. -/
def readSingles {α : Type} (ofList? : List Float32 → Option α) : Reader α := do
  let numbers ← items ')' single
  Reader.lift (ofList? numbers)

/-- Reads the tuple of numbers that an alternative holds, after the alternative's parenthesis. -/
def readSinglesContent {α : Type} (extensions : Extensions)
    (ofList? : List Float32 → Option α) : Reader α := do
  if extensions.unwrapVariantNewtypes then readSingles ofList?
  else
    onlyItem ')' do
      Reader.expect '('
      readSingles ofList?

/-- Reads a name, a colon and the value of the field of that name, or skips the value if there is
no such field. -/
def readField {α : Type} (extensions : Extensions) (depth : Nat)
    (field? : String → Option (Reader α)) : Reader (Option α) := do
  let name ← identifier
  blank
  Reader.expect ':'
  blank
  match field? (String.ofList name) with
  | some field => some <$> field
  | none => do
      skip extensions depth
      pure none

/-- Reads the known fields of a record, in written order. -/
def readRecord {α : Type} (extensions : Extensions) (depth : Nat) (name : String)
    (field? : String → Option (Reader α)) : Reader (List α) := do
  readRecordName extensions name
  blank
  Reader.expect '('
  let fields ← items ')' (readField extensions (depth - 2) field?)
  pure (fields.filterMap id)

/-- The only member of a list. -/
def only? {α : Type} : List α → Option α
  | [a] => some a
  | _ => none

/-- Reads a text that holds one value after its attributes. -/
def readAll? {α : Type} (value : Extensions → Reader α) (text : List Char) : Option α :=
  Reader.runAll (do
    let extensions ← Extensions.reader
    let value ← value extensions
    blank
    pure value) text

end Ron
end TextureGraph
