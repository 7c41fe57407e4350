import TextureGraph.Proofs.Text.Items
import TextureGraph.Ron.Blank
import TextureGraph.Ron.Identifier

/-!
# Blanks and names in RON

The blanks that are written between the parts of a value are skipped, and plain names are read as
themselves.
-/

namespace TextureGraph
namespace Ron

/-! ## Blanks -/

/-- A character that neither is a blank nor begins a comment. -/
def Solid (c : Char) : Prop :=
  isBlank c = false ∧ c ≠ '/'

instance (c : Char) : Decidable (Solid c) :=
  inferInstanceAs (Decidable (_ ∧ _))

theorem skipBlank_blank {c : Char} (blank : isBlank c = true) (text : List Char) :
    skipBlank .outside (c :: text) = skipBlank .outside text := by
  have no_slash : c ≠ '/' := by
    rintro rfl
    nomatch blank
  rw [skipBlank, if_neg no_slash, if_pos blank]
  all_goals
    intros
    exact absurd ‹c = '/'› no_slash

theorem skipBlank_solid {c : Char} (solid : Solid c) (text : List Char) :
    skipBlank .outside (c :: text) = some (c :: text) := by
  obtain ⟨no_blank, no_slash⟩ := solid
  rw [skipBlank, if_neg no_slash, if_neg (by simp [no_blank])]
  all_goals
    intros
    exact absurd ‹c = '/'› no_slash

theorem gap_of_blanks {gap : List Char} (blanks : gap.all isBlank = true) :
    Reader.Gap blank Solid gap := by
  intro c text solid
  have skipped : skipBlank .outside (gap ++ c :: text) = some (c :: text) := by
    induction gap with
    | nil => exact skipBlank_solid solid text
    | cons d gap induction =>
        obtain ⟨first, later⟩ : isBlank d = true ∧ gap.all isBlank = true := by
          simpa only [List.all_cons, Bool.and_eq_true] using blanks
        rw [List.cons_append, skipBlank_blank first]
        exact induction later
  rw [blank, skipped]
  rfl

theorem gap_nil : Reader.Gap blank Solid [] :=
  gap_of_blanks rfl

theorem gap_space : Reader.Gap blank Solid [' '] :=
  gap_of_blanks rfl

theorem gap_newline (layout : Layout) (level : Nat) :
    Reader.Gap blank Solid (layout.newline level) :=
  gap_of_blanks (layout.newline_all rfl rfl level)

theorem blank_parenthesis (text : List Char) : blank ('(' :: text) = some ((), '(' :: text) :=
  gap_nil '(' text (by decide)

theorem punctuation (close : Char) (solid : Solid close) (other : close ≠ ',') :
    Reader.Punctuation blank Solid close where
  solid_comma := by decide
  solid_close := solid
  close_ne := other
  no_gap := gap_nil

/-! ## Values -/

/-- A character that begins a value: it neither is blank nor ends a list. -/
def Opens (c : Char) : Prop :=
  Solid c ∧ c ≠ ')' ∧ c ≠ ']'

instance (c : Char) : Decidable (Opens c) :=
  inferInstanceAs (Decidable (_ ∧ _))

/-- The reader takes a text, which begins as values do, for a value. -/
structure Takes {α : Type} (reader : Reader α) (text : List Char) (value : α) : Prop where
  reads : reader.Reads text value
  begins : ∃ c later, text = c :: later ∧ Opens c

section Takes

variable {α β : Type} {reader : Reader α} {text : List Char} {value : α}

theorem Takes.map (takes : Takes reader text value) (f : α → β) :
    Takes (f <$> reader) text (f value) :=
  ⟨takes.reads.map f, takes.begins⟩

theorem Takes.inTuple (takes : Takes reader text value) :
    Reader.ItemReads Solid ')' reader text value := by
  obtain ⟨c, later, text_eq, solid, no_parenthesis, -⟩ := takes.begins
  exact ⟨takes.reads, c, later, text_eq, solid, no_parenthesis⟩

theorem Takes.inList (takes : Takes reader text value) :
    Reader.ItemReads Solid ']' reader text value := by
  obtain ⟨c, later, text_eq, solid, -, no_bracket⟩ := takes.begins
  exact ⟨takes.reads, c, later, text_eq, solid, no_bracket⟩

theorem Takes.blank_run (takes : Takes reader text value) {gap : List Char}
    (skipped : Reader.Gap blank Solid gap) (rest : List Char) :
    blank (gap ++ (text ++ rest)) = some ((), text ++ rest) := by
  obtain ⟨c, later, rfl, solid, -⟩ := takes.begins
  exact skipped c (later ++ rest) solid

/-- The only item between parentheses. -/
theorem Takes.onlyItem_run (takes : Takes reader text value) (rest : List Char) :
    onlyItem ')' reader (text ++ ')' :: rest) = some (value, rest) := by
  have blank_run := takes.blank_run gap_nil (')' :: rest)
  have item_run := takes.reads (')' :: rest) (Reader.ended_cons (by decide) rest)
  have close_run : blank (')' :: rest) = some ((), ')' :: rest) := gap_nil ')' rest (by decide)
  have no_comma : Reader.accept ',' (')' :: rest) = some (false, ')' :: rest) :=
    Reader.accept_of_head?_ne (by simp)
  rw [List.nil_append] at blank_run
  rw [onlyItem, Reader.bind_of_run blank_run, Reader.bind_of_run item_run,
    Reader.bind_of_run close_run, Reader.bind_of_run no_comma, Reader.bind_of_run close_run,
    Reader.bind_of_run (Reader.expect_cons_self ')' rest), Reader.pure_run]

end Takes

/-! ## Names -/

/-- A name of identifier characters that cannot be mistaken for the beginning of a quoted text. -/
def isPlainName (name : List Char) : Bool :=
  name.all isIdentifierContinue &&
    name.head?.any fun c => isIdentifierStart c && c ≠ 'b' && c ≠ 'r' && Opens c

theorem beginsQuoted_of_head {c : Char} (no_b : c ≠ 'b') (no_r : c ≠ 'r') (text : List Char) :
    beginsQuoted (c :: text) = false := by
  simp [beginsQuoted, quotedBeginnings, List.isPrefixOf, no_b.symm, no_r.symm]

theorem word_run {c : Char} (start : isIdentifierStart c = true) (no_b : c ≠ 'b') (no_r : c ≠ 'r')
    (text : List Char) :
    word (c :: text) = Reader.takeWhile isIdentifierContinue (c :: text) := by
  simp only [word, beginsQuoted_of_head no_b no_r, Bool.false_eq_true, ↓reduceIte]
  split
  · rename_i text_eq
    exact absurd (List.cons.inj text_eq).1 no_r
  · rename_i text_eq
    exact absurd (List.cons.inj text_eq).1 no_r
  · rename_i text_eq
    obtain ⟨rfl, rfl⟩ := List.cons.inj text_eq
    rw [if_pos start]
  · contradiction

theorem identifier_takes {name : List Char} (plain : isPlainName name = true) :
    Takes identifier name name := by
  rw [isPlainName, Bool.and_eq_true] at plain
  obtain ⟨continues, begins⟩ := plain
  cases name with
  | nil => nomatch begins
  | cons c name =>
      have head : ((isIdentifierStart c = true ∧ c ≠ 'b') ∧ c ≠ 'r') ∧ Opens c := by
        simpa using begins
      obtain ⟨⟨⟨start, no_b⟩, no_r⟩, opens⟩ := head
      refine ⟨fun rest ended => ?_, c, name, rfl, opens⟩
      have ends : rest.head?.any isIdentifierContinue = false := ended.any_head? rfl
      have characters_run := Reader.takeWhile_append (List.all_eq_true.mp continues) ends
      rw [List.cons_append, ← word_run start no_b no_r, ← List.cons_append] at characters_run
      have peek_run : Reader.peek? rest = some (rest.head?, rest) := rfl
      have no_point : rest.head?.any isRawIdentifierCharacter = false := ended.any_head? rfl
      rw [identifier, Reader.bind_of_run characters_run, Reader.bind_of_run peek_run, no_point]
      rfl

end Ron
end TextureGraph
