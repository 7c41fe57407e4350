import TextureGraph.Ron.Blank
import TextureGraph.Ron.Identifier

/-!
# Extensions of RON

A text may begin with attributes that switch extensions of the notation on.
-/

namespace TextureGraph
namespace Ron

/-- The extensions that a text switches on. -/
structure Extensions where
  /-- A record of one unnamed field is written like the field itself. -/
  unwrapNewtypes : Bool
  /-- An optional value that is there is written like the value itself. -/
  implicitSome : Bool
  /-- The only field of an alternative is written without its own parentheses. -/
  unwrapVariantNewtypes : Bool
  /-- Every record is written with its name. -/
  explicitStructNames : Bool
  deriving DecidableEq, Repr

namespace Extensions

/-- No extension. -/
def none : Extensions := ⟨false, false, false, false⟩

/-- Switches on an extension by its name. -/
def enable? (extensions : Extensions) (name : List Char) : Option Extensions :=
  match String.ofList name with
  | "unwrap_newtypes" => some { extensions with unwrapNewtypes := true }
  | "implicit_some" => some { extensions with implicitSome := true }
  | "unwrap_variant_newtypes" => some { extensions with unwrapVariantNewtypes := true }
  | "explicit_struct_names" => some { extensions with explicitStructNames := true }
  | _ => Option.none

/-- Reads an attribute after its number sign: the names of the extensions it enables, at least
one. -/
def enabling : Reader (List (List Char)) := do
  blank
  Reader.expect '!'
  blank
  Reader.expect '['
  blank
  if ← Reader.acceptWord "enable".toList then
    blank
    Reader.expect '('
    let names ← items ')' identifier
    blank
    Reader.expect ']'
    blank
    if names.isEmpty then Reader.refuse else pure names
  else Reader.refuse

/-- Reads at most `count` attributes and switches on what they name. -/
def attributesWithin : (count : Nat) → Extensions → Reader Extensions
  | 0, extensions => pure extensions
  | count + 1, extensions => do
      if ← Reader.accept '#' then
        let names ← enabling
        let extensions ← Reader.lift (names.foldlM enable? extensions)
        attributesWithin count extensions
      else pure extensions

/-- Reads the attributes at the beginning of a text; there are fewer of them than characters. -/
def reader : Reader Extensions := do
  blank
  let text ← Reader.rest
  attributesWithin text.length none

end Extensions
end Ron
end TextureGraph
