import TextureGraph.Text.Quoted
import TextureGraph.Text.Reader

/-!
# Texts in RON

A text stands between double quotes, with spellings that begin with a backslash, or it is raw: then
nothing in it is spelled, and as many number signs close it as opened it.  Bytes and single
characters have literals of their own, which can occur only where nobody looks at them.
-/

namespace TextureGraph
namespace Ron

/-- What a literal is made of. -/
inductive LiteralKind where
  /-- A text; bytes spelled one after the other may form a character. -/
  | text
  /-- One character. -/
  | character
  /-- A sequence of bytes. -/
  | bytes
  /-- One byte. -/
  | byte
  deriving DecidableEq, Repr

/-- The character that a letter after a backslash stands for. -/
def unescape? (c : Char) : Option Char :=
  if c = '\'' ∨ c = '"' ∨ c = '\\' then some c
  else if c = 'n' then some '\n'
  else if c = 'r' then some '\r'
  else if c = 't' then some '\t'
  else if c = '0' then some '\x00'
  else none

/-- Reads two hexadecimal digits. -/
def hexByte : Reader Nat := do
  let digits ← Reader.take 2
  Reader.lift (hexNumber? digits)

/-- The character of a code point. -/
def character? (code : Nat) : Option Char :=
  if h : code.isValidChar then some (Char.ofNatAux code h) else none

/-- The character that the bytes of its UTF-8 form stand for. -/
def characterOfBytes? (bytes : List Nat) : Option Char :=
  let continued := bytes.drop 1
  if continued.any fun byte => byte / 0x40 ≠ 2 then none
  else
    let low := continued.foldl (fun code byte => 0x40 * code + byte % 0x40) 0
    match bytes with
    | [a] => if a < 0x80 then character? a else none
    | [a, _] => if 0xC2 ≤ a ∧ a < 0xE0 then character? ((a - 0xC0) * 0x40 + low) else none
    | [a, b, _] =>
        if 0xE0 ≤ a ∧ a < 0xF0 ∧ (a = 0xE0 → 0xA0 ≤ b) then
          character? ((a - 0xE0) * 0x1000 + low)
        else none
    | [a, b, _, _] =>
        if 0xF0 ≤ a ∧ a < 0xF5 ∧ (a = 0xF0 → 0x90 ≤ b) then
          character? ((a - 0xF0) * 0x40000 + low)
        else none
    | _ => none

/-- Reads the spellings of at most `count` more bytes until they complete a character. -/
def completeCharacter : (count : Nat) → (bytes : List Nat) → Reader Char
  | 0, bytes => Reader.lift (characterOfBytes? bytes)
  | count + 1, bytes =>
      match characterOfBytes? bytes with
      | some c => pure c
      | none => do
          Reader.expect '\\'
          Reader.expect 'x'
          let byte ← hexByte
          completeCharacter count (bytes ++ [byte])

/-- Reads what follows a backslash and the letter for a byte. -/
def byteSpelling (kind : LiteralKind) : Reader Char := do
  let byte ← hexByte
  match kind with
  | .text => completeCharacter 3 [byte]
  | .character => Reader.lift (characterOfBytes? [byte])
  | .bytes | .byte => pure (Char.ofNat byte)

/-- Reads a code point of one to six hexadecimal digits between braces. -/
def codePoint : Reader Char := do
  Reader.expect '\x7b'
  let digits ← Reader.takeWhile fun c => (hexDigit? c).isSome
  Reader.expect '\x7d'
  if digits.isEmpty || 6 < digits.length then Reader.refuse
  else Reader.lift ((hexNumber? digits).bind character?)

/-- Reads what follows a backslash. -/
def spelling (kind : LiteralKind) : Reader Char := do
  let c ← Reader.next
  if c = 'x' then byteSpelling kind
  else if c = 'u' then if kind = .byte then Reader.refuse else codePoint
  else Reader.lift (unescape? c)

/-- Reads at most `room` characters up to a closing quote. -/
def quotedWithin (kind : LiteralKind) : (room : Nat) → Reader (List Char)
  | 0 => Reader.refuse
  | room + 1 => do
      let c ← Reader.next
      if c = '"' then pure []
      else
        let c ← if c = '\\' then spelling kind else pure c
        let later ← quotedWithin kind room
        pure (c :: later)

/-- Reads up to the closing quote; every character of the literal takes one of the text at least. -/
def quoted (kind : LiteralKind) : Reader (List Char) := do
  let text ← Reader.rest
  quotedWithin kind text.length

/-- Takes the characters before the first place where an ending stands, and the ending. -/
def splitAtEnding (ending : List Char) : List Char → Option (List Char × List Char)
  | [] => none
  | c :: text =>
      if ending.isPrefixOf (c :: text) then some ([], (c :: text).drop ending.length)
      else (splitAtEnding ending text).map fun (before, after) => (c :: before, after)

/-- Reads a raw text after the letter that announces it. -/
def raw : Reader (List Char) := do
  let marks ← Reader.takeWhile (· = '#')
  Reader.expect '"'
  fun text => splitAtEnding ('"' :: marks) text

/-- Reads a text. -/
def text : Reader (List Char) := do
  if ← Reader.accept '"' then quoted .text
  else
    Reader.expect 'r'
    raw

/-- Reads a single character or byte after its opening quote. -/
def singleLiteral (kind : LiteralKind) : Reader Char := do
  let c ← Reader.next
  let c ←
    if c = '\\' then spelling kind
    else if kind = .byte ∧ 0x80 ≤ c.toNat then Reader.refuse
    else pure c
  Reader.expect '\''
  pure c

/-- A text in quotes; both kinds of quotes are marked. -/
def writeText (text : List Char) : List Char :=
  Quoted.quote .both text

end Ron
end TextureGraph
