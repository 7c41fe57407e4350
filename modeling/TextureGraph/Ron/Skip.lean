import TextureGraph.Ron.Extensions
import TextureGraph.Ron.Number
import TextureGraph.Ron.Text

/-!
# Skipping values in RON

The value of a field that nobody asks for may be anything: a number, a text, a list, a map, or a
record, tuple or alternative of any name.  It only has to be well formed and not nested too deep.
-/

namespace TextureGraph
namespace Ron

/-- Reads with the first of two readers, or from the same place with the second. -/
def either {α : Type} (first second : Reader α) : Reader α :=
  fun text => first text <|> second text

/-! ## Atoms -/

/-- The types that may follow an integer, with their least and greatest values. -/
def integerTypes : List (String × (Int × Int)) :=
  [("i8", (-0x80, 0x7f)), ("i16", (-0x8000, 0x7fff)), ("i32", (-0x80000000, 0x7fffffff)),
    ("i64", (-0x8000000000000000, 0x7fffffffffffffff)), ("u8", (0, 0xff)), ("u16", (0, 0xffff)),
    ("u32", (0, 0xffffffff)), ("u64", (0, 0xffffffffffffffff))]

/-- Skips an integer that its type, or 64 bits, can hold and that no fraction follows. -/
def skipInteger : Reader Unit := do
  let (value, bounds?) ← integer integerTypes
  let bounds := bounds?.getD (-0x8000000000000000, 0xffffffffffffffff)
  let next ← Reader.peek?
  let continues := next.any fun c => c = '.' || c = '+' || c = '-'
  if bounds.1 ≤ value ∧ value ≤ bounds.2 ∧ continues = false then pure () else Reader.refuse

/-- Skips a number; an integer of more than 64 bits is one as well. -/
def skipNumber : Reader Unit :=
  either skipInteger do
    let _ ← singleWithTypes ["f32", "f64"]

/-- Skips a literal of bytes after the letter that announces it. -/
def skipBytes : Reader Unit := do
  if ← Reader.accept '\'' then
    let _ ← singleLiteral .byte
  else if ← Reader.accept '"' then
    let _ ← quoted .bytes
  else
    Reader.expect 'r'
    let _ ← raw

/-- Skips a number, text, character or bytes. -/
def skipLiteral : Reader Unit := do
  let next ← Reader.peek?
  if next = some '"' || next = some 'r' then
    let _ ← text
  else if ← Reader.accept '\'' then
    let _ ← singleLiteral .character
  else if ← Reader.accept 'b' then skipBytes
  else skipNumber

/-! ## Values with parts -/

/-- How the parts of a value are skipped: none of them if the value is nested too deep. -/
structure Nesting where
  /-- Skips what an optional value holds. -/
  content : Reader Unit
  /-- Skips an item, key or field. -/
  part : Reader Unit

/-- Skips a key, a colon and a value. -/
def skipEntry (key value : Reader Unit) : Reader Unit := do
  key
  blank
  Reader.expect ':'
  blank
  value

/-- Whether the parts after an opening parenthesis are named. -/
def hasNamedParts (text : List Char) : Option Bool :=
  (do
    blank
    let _ ← word
    blank
    Reader.accept ':').run' text

/-- Skips the parts of a record or tuple after its opening parenthesis. -/
def skipParts (nesting : Nesting) : Reader Unit := do
  let text ← Reader.rest
  let part :=
    if hasNamedParts text = some true then skipEntry (do let _ ← identifier) nesting.part
    else nesting.part
  let _ ← items ')' part

/-- Skips what an optional value holds after its name. -/
def skipOptional (extensions : Extensions) (nesting : Nesting) : Reader Unit := do
  blank
  if ← Reader.accept '(' then
    if extensions.unwrapVariantNewtypes then skipParts nesting
    else onlyItem ')' nesting.content
  else if extensions.implicitSome then nesting.content
  else Reader.refuse

/-- The names that stand for values without parts. -/
def constants : List (List Char) :=
  ["true".toList, "false".toList, "None".toList, "inf".toList, "inff32".toList, "inff64".toList,
    "NaN".toList, "NaNf32".toList, "NaNf64".toList]

/-- Skips a value that begins with a name, after the name. -/
def skipNamed (extensions : Extensions) (nesting? : Option Nesting) (name : List Char) :
    Reader Unit := do
  if name ∈ constants then pure ()
  else if name = "Some".toList then
    match nesting? with
    | some nesting => skipOptional extensions nesting
    | none => Reader.refuse
  else
    blank
    if ← Reader.accept '(' then
      match nesting? with
      | some nesting => skipParts nesting
      | none => Reader.refuse

/-- Skips a list, map, record or tuple. -/
def skipUnnamed (nesting : Nesting) : Reader Unit := do
  if ← Reader.accept '(' then skipParts nesting
  else if ← Reader.accept '[' then
    let _ ← items ']' nesting.part
  else
    Reader.expect '\x7b'
    let _ ← items '\x7d' (skipEntry nesting.part nesting.part)

/-- Skips a value whose parts are skipped in a given way. -/
def skipValue (extensions : Extensions) (nesting? : Option Nesting) : Reader Unit := do
  let text ← Reader.rest
  match word text with
  | some (name, _) =>
      let _ ← word
      skipNamed extensions nesting? name
  | none =>
      let next ← Reader.peek?
      if next = some '(' || next = some '[' || next = some '\x7b' then
        match nesting? with
        | some nesting => skipUnnamed nesting
        | none => Reader.refuse
      else skipLiteral

/-- Skips a value.  Entering it uses up one level of the depth, each of its parts another one. -/
def skip (extensions : Extensions) : (depth : Nat) → Reader Unit
  | 0 => skipValue extensions none
  | 1 => skipValue extensions (some ⟨skip extensions 0, Reader.refuse⟩)
  | depth + 2 => skipValue extensions (some ⟨skip extensions (depth + 1), skip extensions depth⟩)

end Ron
end TextureGraph
