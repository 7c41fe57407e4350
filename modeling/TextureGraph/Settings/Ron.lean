import TextureGraph.Ron.Basic
import TextureGraph.Ron.Record
import TextureGraph.Settings

/-!
# Settings as RON

Settings are stored as a record in which every field may be left out.
-/

namespace TextureGraph
namespace Settings

open Ron (Extensions)

/-- Settings as a record. -/
def toRon (settings : Settings) : Ron :=
  .record
    [("resolution", .ofNat settings.resolution.toNat),
      ("max_depth", .ofNat settings.maxDepth.toNat)]

/-- A part of stored settings. -/
inductive Part where
  /-- The edge of an image. -/
  | resolution (value : UInt32)
  /-- How many links may be followed in a row. -/
  | maxDepth (value : UInt32)

/-- The only member of a list, or a substitute if it has none. -/
def onlyOr? {α : Type} (substitute : α) : List α → Option α
  | [] => some substitute
  | [a] => some a
  | _ => none

/-- The settings of the parts that were read. -/
def ofParts? (parts : List Part) : Option Settings := do
  some
    { resolution := ← onlyOr? default.resolution
        (parts.filterMap fun | .resolution value => some value | _ => none)
      maxDepth := ← onlyOr? default.maxDepth
        (parts.filterMap fun | .maxDepth value => some value | _ => none) }

/-- Reads the part of settings that has a name. -/
def partRonReader? : String → Option (Reader Part)
  | "resolution" => some (.resolution <$> Ron.uint32)
  | "max_depth" => some (.maxDepth <$> Ron.uint32)
  | _ => none

/-- Reads settings. -/
def ronReader (extensions : Extensions) : Reader Settings := do
  let parts ← Ron.readRecord extensions Ron.depthLimit "EvaluatorSettings" partRonReader?
  Reader.lift (ofParts? parts)

/-- The RON text of settings. -/
def toRonText (settings : Settings) : String :=
  String.ofList settings.toRon.toText

/-- The settings that a RON text holds. -/
def ofRonText? (text : String) : Option Settings :=
  Ron.readAll? ronReader text.toList

end Settings
end TextureGraph
