/-!
# Reading a text from its front

A reader takes characters off the front of a text and either gives a value with the rest of the
text or refuses.  Readers compose with `do`; the small ones here serve every notation.
-/

namespace TextureGraph

/-- A way to read a value off the front of a text. -/
abbrev Reader (α : Type) : Type :=
  StateT (List Char) Option α

namespace Reader

/-- Refuses the text. -/
def refuse {α : Type} : Reader α :=
  fun _ => none

/-- The text still to be read. -/
def rest : Reader (List Char) :=
  get

/-- The next character, left in place. -/
def peek? : Reader (Option Char) :=
  fun text => some (text.head?, text)

/-- Takes the next character. -/
def next : Reader Char
  | [] => none
  | c :: text => some (c, text)

/-- Takes the next character if it is the given one. -/
def accept (c : Char) : Reader Bool
  | [] => some (false, [])
  | d :: text => if d = c then some (true, text) else some (false, d :: text)

/-- Takes the next character, which must be the given one. -/
def expect (c : Char) : Reader Unit
  | [] => none
  | d :: text => if d = c then some ((), text) else none

/-- Takes a word if the text begins with it. -/
def acceptWord (word : List Char) : Reader Bool :=
  fun text =>
    if word.isPrefixOf text then some (true, text.drop word.length) else some (false, text)

/-- Takes the longest run of characters that satisfy a test. -/
def takeWhile (test : Char → Bool) : Reader (List Char) :=
  fun text => some (text.takeWhile test, text.dropWhile test)

/-- Takes an exact number of characters. -/
def take (count : Nat) : Reader (List Char) :=
  fun text => if text.length < count then none else some (text.take count, text.drop count)

/-- Succeeds with the value of an option. -/
def lift {α : Type} (value : Option α) : Reader α :=
  fun text => value.map fun a => (a, text)

/-- Reads the items of a list up to its closing character, at most `room` of them: a comma stands
between two items, blanks may stand around each, and `lastComma` tells whether a comma may follow
the last one. -/
def itemsWithin {α : Type} (blank : Reader Unit) (lastComma : Bool) (close : Char)
    (item : Reader α) : (room : Nat) → Reader (List α)
  | 0 => refuse
  | room + 1 => do
      let first ← item
      blank
      if ← accept ',' then
        blank
        let closed ← if lastComma then accept close else pure false
        if closed then pure [first]
        else
          let later ← itemsWithin blank lastComma close item room
          pure (first :: later)
      else
        expect close
        pure [first]

/-- Reads a list of which the opening character has been taken.  Its items cannot outnumber the
characters that are left, since a comma or the closing character follows each. -/
def items {α : Type} (blank : Reader Unit) (lastComma : Bool) (close : Char) (item : Reader α) :
    Reader (List α) := do
  blank
  if ← accept close then pure []
  else
    let text ← rest
    itemsWithin blank lastComma close item text.length

/-- Reads a whole text: nothing may be left over. -/
def runAll {α : Type} (reader : Reader α) (text : List Char) : Option α :=
  match reader text with
  | some (a, []) => some a
  | _ => none

end Reader

/-- The value of a hexadecimal digit of either case. -/
def hexDigit? (c : Char) : Option Nat :=
  if '0' ≤ c ∧ c ≤ '9' then some (c.toNat - '0'.toNat)
  else if 'a' ≤ c ∧ c ≤ 'f' then some (c.toNat - 'a'.toNat + 10)
  else if 'A' ≤ c ∧ c ≤ 'F' then some (c.toNat - 'A'.toNat + 10)
  else none

/-- The number written by hexadecimal digits. -/
def hexNumber? (digits : List Char) : Option Nat :=
  digits.foldlM (fun n c => (hexDigit? c).map (16 * n + ·)) 0

/-- The number written by decimal digits, other characters counting as zero. -/
def decimalNumber (digits : List Char) : Nat :=
  digits.foldl (fun n c => 10 * n + (c.toNat - '0'.toNat)) 0

end TextureGraph
