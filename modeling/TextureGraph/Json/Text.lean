import TextureGraph.Text.Reader

/-!
# Texts in JSON

A text stands between double quotes.  Control characters, quotes and backslashes are spelled with a
backslash; a spelling by four hexadecimal digits gives a UTF-16 unit, so that two of them may stand
for one character.
-/

namespace TextureGraph
namespace JsonText

/-- The character that a letter after a backslash stands for. -/
def unescape? (c : Char) : Option Char :=
  if c = '"' ∨ c = '\\' ∨ c = '/' then some c
  else if c = 'b' then some '\x08'
  else if c = 'f' then some '\x0c'
  else if c = 'n' then some '\n'
  else if c = 'r' then some '\r'
  else if c = 't' then some '\t'
  else none

/-- Reads the code points up to the closing quote, units of surrogate pairs one by one. -/
def codes : List Char → Option (List Nat × List Char)
  | [] => none
  | '"' :: text => some ([], text)
  | '\\' :: 'u' :: a :: b :: c :: d :: text => do
      let code ← hexNumber? [a, b, c, d]
      let (later, text) ← codes text
      some (code :: later, text)
  | '\\' :: c :: text => do
      let character ← unescape? c
      let (later, text) ← codes text
      some (character.toNat :: later, text)
  | c :: text =>
      if c.toNat < 0x20 then none
      else do
        let (later, text) ← codes text
        some (c.toNat :: later, text)

/-- Whether a code point is the first unit of a surrogate pair. -/
def isHighUnit (code : Nat) : Bool :=
  0xD800 ≤ code && code < 0xDC00

/-- Whether a code point is the second unit of a surrogate pair. -/
def isLowUnit (code : Nat) : Bool :=
  0xDC00 ≤ code && code < 0xE000

/-- Joins surrogate pairs to characters; a unit without its partner stands for none. -/
def characters? : List Nat → Option (List Char)
  | [] => some []
  | [code] =>
      if isHighUnit code ∨ isLowUnit code then none else some [Char.ofNat code]
  | code :: next :: codes =>
      if isLowUnit code then none
      else if isHighUnit code then
        if isLowUnit next then
          (characters? codes).map
            (Char.ofNat (0x10000 + (code - 0xD800) * 0x400 + (next - 0xDC00)) :: ·)
        else none
      else (characters? (next :: codes)).map (Char.ofNat code :: ·)

/-- Reads a text after its opening quote; the inner option is empty if units are unpaired. -/
def reader : Reader (Option (List Char)) :=
  fun text => (codes text).map fun (codes, text) => (characters? codes, text)

/-- The spelling of a character inside quotes. -/
def escape (c : Char) : List Char :=
  if c = '"' ∨ c = '\\' then ['\\', c]
  else if c = '\x08' then ['\\', 'b']
  else if c = '\x0c' then ['\\', 'f']
  else if c = '\n' then ['\\', 'n']
  else if c = '\r' then ['\\', 'r']
  else if c = '\t' then ['\\', 't']
  else if c.toNat < 0x20 then
    ['\\', 'u', '0', '0', Nat.digitChar (c.toNat / 16), Nat.digitChar (c.toNat % 16)]
  else [c]

/-- A text in quotes. -/
def quote (text : List Char) : List Char :=
  '"' :: text.flatMap escape ++ ['"']

end JsonText
end TextureGraph
