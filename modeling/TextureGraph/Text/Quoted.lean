import TextureGraph.Text.Hidden

/-!
# Texts in quotation marks

A quoted text stands between double quotes.  Marks, backslashes and the common control characters
are written with a backslash, and every other character that does not show is spelled by its number
in hexadecimal digits between braces.  The two styles differ in whether a single quote is marked.
-/

namespace TextureGraph

/-- Which quotes a quoted text marks. -/
inductive QuoteStyle where
  /-- The double quote alone. -/
  | double
  /-- The double and the single quote. -/
  | both
  deriving DecidableEq, Repr

namespace Quoted

/-- A character spelled by its number. -/
def byNumber (c : Char) : List Char :=
  ['\\', 'u', '\x7b'] ++ Nat.toDigits 16 c.toNat ++ ['\x7d']

/-- The spelling of a character inside quotes. -/
def escape (style : QuoteStyle) (c : Char) : List Char :=
  if c = '\x00' then ['\\', '0']
  else if c = '\t' then ['\\', 't']
  else if c = '\r' then ['\\', 'r']
  else if c = '\n' then ['\\', 'n']
  else if c = '\\' then ['\\', '\\']
  else if c = '"' then ['\\', '"']
  else if c = '\'' ∧ style = .both then ['\\', '\'']
  else if isHidden c then byNumber c
  else [c]

/-- A text in quotes. -/
def quote (style : QuoteStyle) (text : List Char) : List Char :=
  '"' :: text.flatMap (escape style) ++ ['"']

end Quoted
end TextureGraph
