import TextureGraph.Document.Json
import TextureGraph.Document.Ron
import TextureGraph.Settings.Ron

/-!
# Files of documents and settings

A folder holds files by name.  A document is written as JSON or RON according to the extension of
its file's name, and read in the same way; settings are always RON.
-/

namespace TextureGraph

/-- A folder without subfolders. -/
structure Folder where
  /-- Contents by name, the latest first. -/
  files : List (String × ByteArray)

namespace Folder

/-- The folder without files. -/
def empty : Folder := ⟨[]⟩

/-- Most bytes that a file name may have. -/
def nameLimit : Nat := 255

/-- Whether a name can be that of a file: it is neither empty nor one of the names that stand for
folders, is not too long, and holds neither the sign between folders nor the null character. -/
def isFileName (name : String) : Bool :=
  name ≠ "" && name ≠ "." && name ≠ ".." && decide (name.utf8ByteSize ≤ nameLimit) &&
    name.toList.all fun c => c ≠ '/' && c ≠ '\x00'

/-- Puts a content under a name, in place of what was there; nothing if no file can have the
name. -/
def write? (folder : Folder) (name : String) (content : ByteArray) : Option Folder :=
  if isFileName name then
    some ⟨(name, content) :: folder.files.filter fun file => file.1 ≠ name⟩
  else none

/-- The content under a name. -/
def content? (folder : Folder) (name : String) : Option ByteArray :=
  folder.files.lookup name

/-- The content under a name as a text; none if it is no UTF-8. -/
def text? (folder : Folder) (name : String) : Option String :=
  (folder.content? name).bind String.fromUTF8?

end Folder

/-- The notation of a stored document. -/
inductive Format where
  /-- JSON. -/
  | json
  /-- RON. -/
  | ron
  deriving DecidableEq, Repr

namespace Format

/-- The part of a file name after its last point; there is none if no other character stands before
that point. -/
def extension? (name : List Char) : Option (List Char) :=
  let reversed := name.reverse
  match reversed.dropWhile (· ≠ '.') with
  | '.' :: _ :: _ => some (reversed.takeWhile (· ≠ '.')).reverse
  | _ => none

/-- The notation that goes with a file name: JSON for the extension `json` in letters of either
case, otherwise RON. -/
def ofFileName (name : String) : Format :=
  if (extension? name.toList).any fun extension => extension.map Char.toLower = "json".toList then
    json
  else ron

end Format

/-- Why a file could not be written or read. -/
inductive StorageError where
  /-- There is no such file, none can have the name, or it is no text. -/
  | file
  /-- The text is not what the format demands. -/
  | malformed (format : Format)
  deriving DecidableEq, Repr

/-- The text that a file holds. -/
def Folder.read (folder : Folder) (name : String) : Except StorageError String :=
  (folder.text? name).elim (.error .file) .ok

/-- Writes a text to a file. -/
def Folder.write (folder : Folder) (name text : String) : Except StorageError Folder :=
  (folder.write? name text.toUTF8).elim (.error .file) .ok

namespace Document

/-- The text of a document in a format. -/
def toText (document : Document) : Format → String
  | .json => document.toJsonText
  | .ron => document.toRonText

/-- The document that a text holds in a format. -/
def ofText (format : Format) (text : String) : Except StorageError Document :=
  let document? :=
    match format with
    | .json => ofJsonText? text
    | .ron => ofRonText? text
  document?.elim (.error (.malformed format)) .ok

/-- Writes a document to a file. -/
def save (document : Document) (folder : Folder) (name : String) : Except StorageError Folder :=
  folder.write name (document.toText (Format.ofFileName name))

/-- Reads a document from a file. -/
def load (folder : Folder) (name : String) : Except StorageError Document := do
  let text ← folder.read name
  ofText (Format.ofFileName name) text

end Document

namespace Settings

/-- Writes settings to a file. -/
def save (settings : Settings) (folder : Folder) (name : String) : Except StorageError Folder :=
  folder.write name settings.toRonText

/-- Reads settings from a file. -/
def load (folder : Folder) (name : String) : Except StorageError Settings := do
  let text ← folder.read name
  (ofRonText? text).elim (.error (.malformed .ron)) .ok

end Settings
end TextureGraph
