import TextureGraph.Text.Reader
import Mathlib.Tactic.SplitIfs

/-!
# Runs of readers

What the small readers do on a text of which the front is known.  A text is `Ended` where it goes on
with a character that stands in no name or number, so that none of them is read too far.
`Reader.Reads` says that a reader takes a text for a value wherever the text is ended.
-/

namespace TextureGraph
namespace Reader

variable {α β : Type}

/-! ## Composition -/

@[simp]
theorem pure_run (a : α) (text : List Char) : (pure a : Reader α) text = some (a, text) :=
  rfl

theorem bind_of_run {reader : Reader α} {next : α → Reader β} {a : α} {text rest : List Char}
    (run : reader text = some (a, rest)) : (reader >>= next) text = next a rest := by
  change (reader text).bind (fun read => next read.1 read.2) = next a rest
  rw [run]
  rfl

theorem map_of_run {reader : Reader α} {f : α → β} {a : α} {text rest : List Char}
    (run : reader text = some (a, rest)) : (f <$> reader) text = some (f a, rest) :=
  @bind_of_run _ _ reader (fun a => pure (f a)) a text rest run

theorem bind_pure_run (reader : Reader α) (f : α → β) (text : List Char) :
    (reader >>= fun a => pure (f a)) text = (reader text).map (Prod.map f id) := by
  change (reader text).bind _ = _
  cases reader text <;> rfl

theorem ite_run (condition : Prop) [Decidable condition] (first second : Reader α)
    (text : List Char) :
    (if condition then first else second) text =
      if condition then first text else second text := by
  split_ifs <;> rfl

/-! ## Single characters -/

@[simp]
theorem accept_cons_self (c : Char) (text : List Char) :
    accept c (c :: text) = some (true, text) :=
  if_pos rfl

theorem accept_of_head?_ne {c : Char} {text : List Char} (other : text.head? ≠ some c) :
    accept c text = some (false, text) := by
  cases text with
  | nil => rfl
  | cons d text =>
      have different : d ≠ c := by simpa using other
      exact if_neg different

@[simp]
theorem expect_cons_self (c : Char) (text : List Char) : expect c (c :: text) = some ((), text) :=
  if_pos rfl

/-! ## Runs of characters -/

theorem acceptWord_of_head?_ne {c : Char} {word text : List Char} (other : text.head? ≠ some c) :
    acceptWord (c :: word) text = some (false, text) := by
  rw [acceptWord, if_neg]
  cases text with
  | nil => simp
  | cons d text =>
      have different : d ≠ c := by simpa using other
      simp [different.symm]

/-- A run of characters ends where the next one fails the test. -/
theorem takeWhile_append {test : Char → Bool} {run rest : List Char}
    (all : ∀ c ∈ run, test c = true) (ends : rest.head?.any test = false) :
    takeWhile test (run ++ rest) = some (run, rest) := by
  have rest_take : rest.takeWhile test = [] := by
    cases rest with
    | nil => rfl
    | cons c rest =>
        have refused : test c = false := ends
        rw [List.takeWhile_cons, refused, if_neg Bool.false_ne_true]
  have rest_drop : rest.dropWhile test = rest := by
    cases rest with
    | nil => rfl
    | cons c rest =>
        have refused : test c = false := ends
        rw [List.dropWhile_cons, refused, if_neg Bool.false_ne_true]
  rw [takeWhile, List.takeWhile_append_of_pos all, List.dropWhile_append_of_pos all, rest_take,
    rest_drop, List.append_nil]

/-! ## Values -/

/-- The characters that follow names and values. -/
def separators : List Char :=
  ['\n', ',', ':', '(', ')']

/-- Nothing follows, or something that stands in no name or number. -/
def Ended (rest : List Char) : Prop :=
  ∀ c ∈ rest.head?, c ∈ separators

theorem ended_nil : Ended [] := by
  simp [Ended]

theorem ended_cons {c : Char} (separator : c ∈ separators) (rest : List Char) :
    Ended (c :: rest) := by
  simpa [Ended] using separator

theorem Ended.any_head? {rest : List Char} (ended : Ended rest) {test : Char → Bool}
    (refused : separators.any test = false) : rest.head?.any test = false := by
  cases rest with
  | nil => rfl
  | cons c rest =>
      exact Bool.eq_false_iff.mpr (List.any_eq_false.mp refused c (ended c rfl))

theorem Ended.head?_ne {rest : List Char} (ended : Ended rest) {c : Char}
    (other : c ∉ separators) : rest.head? ≠ some c :=
  fun head => other (ended c head)

/-- The reader takes the text for the value, whatever it goes on with. -/
def Reads (reader : Reader α) (text : List Char) (value : α) : Prop :=
  ∀ rest, Ended rest → reader (text ++ rest) = some (value, rest)

theorem Reads.map {reader : Reader α} {text : List Char} {value : α}
    (reads : reader.Reads text value) (f : α → β) : Reads (f <$> reader) text (f value) :=
  fun rest ended => map_of_run (reads rest ended)

end Reader
end TextureGraph
