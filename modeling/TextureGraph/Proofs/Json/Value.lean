import TextureGraph.Json.Printer
import TextureGraph.Json.Reader
import TextureGraph.Proofs.Json.Number
import TextureGraph.Proofs.Json.Text
import TextureGraph.Proofs.Text.Items

/-!
# JSON values read back

The text of a value whose numbers are spelled soundly is read as that value, on every level of
indentation and with every depth that is at least the length of the text.
-/

namespace TextureGraph
namespace Json

/-! ## Blanks -/

/-- A character that is no blank. -/
def Solid (c : Char) : Prop :=
  isBlank c = false

theorem blank_run {spaces : List Char} (blanks : spaces.all isBlank = true) {c : Char}
    (solid : Solid c) (text : List Char) : blank (spaces ++ c :: text) = some ((), c :: text) := by
  rw [blank, List.dropWhile_append_of_pos (List.all_eq_true.mp blanks), List.dropWhile_cons_of_neg]
  rw [solid]
  exact Bool.false_ne_true

theorem solid_of_isCharacter {c : Char} (character : Numeral.isCharacter c = true) : Solid c := by
  refine Bool.eq_false_iff.mpr fun blank => ?_
  simp only [isBlank, Bool.or_eq_true, decide_eq_true_eq] at blank
  rcases blank with ((rfl | rfl) | rfl) | rfl <;> nomatch character

theorem gap_newline (level : Nat) : Reader.Gap blank Solid (layout.newline level) :=
  fun _ text solid => blank_run (layout.newline_all rfl rfl level) solid text

theorem punctuation (close : Char) (solid : Solid close) (other : close ≠ ',') :
    Reader.Punctuation blank Solid close where
  solid_comma := rfl
  solid_close := solid
  close_ne := other
  no_gap _ text solid := blank_run rfl solid text

/-! ## Values -/

/-- A value of which every number is spelled soundly and every text is one of characters. -/
inductive Readable : Json → Prop where
  | null : Readable null
  | bool (value : Bool) : Readable (bool value)
  | number {spelling : Spelling} (sound : spelling.Sound) : Readable (number spelling.text)
  | string (text : List Char) : Readable (string text)
  | array {items : List Json} (all : ∀ item ∈ items, Readable item) : Readable (array items)
  | object {fields : List (List Char × Json)} (all : ∀ field ∈ fields, Readable field.2) :
      Readable (object fields)

theorem writeItems_eq (level : Nat) (items : List Json) :
    writeItems level items = items.map (write level) := by
  induction items with
  | nil => rfl
  | cons item items induction => rw [writeItems, induction, List.map_cons]

/-- The text of a field. -/
def writeField (level : Nat) (field : List Char × Json) : List Char :=
  JsonText.quote field.1 ++ [':', ' '] ++ write level field.2

theorem writeFields_eq (level : Nat) (fields : List (List Char × Json)) :
    writeFields level fields = fields.map (writeField level) := by
  induction fields with
  | nil => rfl
  | cons field fields induction => rw [writeFields, induction, List.map_cons, writeField]

theorem ofEntries_fields (fields : List (List Char × Json)) :
    ofEntries (fields.map fun field => (some field.1, field.2)) = object fields := by
  have entries_eq : (fields.map fun field => (some field.1, field.2)).mapM
      (fun entry => entry.1.map fun name => (name, entry.2)) = some fields := by
    induction fields with
    | nil => rfl
    | cons field fields induction => simp [induction]
  rw [ofEntries, entries_eq]

/-! ## Reading -/

theorem lexeme_reads {spelling : Spelling} (sound : spelling.Sound) :
    lexeme.Reads spelling.text spelling.text := by
  intro rest ended
  have ends : rest.head?.any Numeral.isCharacter = false := ended.any_head? rfl
  have characters_run :=
    Reader.takeWhile_append (fun c member => Numeral.isCharacter_of_mem_text sound member) ends
  have whole : (Numeral.ofLexeme? spelling.text).isSome = true := by
    rw [Numeral.ofLexeme?_text sound]
    rfl
  rw [lexeme, Reader.bind_of_run characters_run, if_pos whole, Reader.pure_run]

section Alternatives

variable (depth : Nat) (text : List Char)

theorem valueWithin_object :
    valueWithin (depth + 1) ('\x7b' :: text) =
      (ofEntries <$> Reader.items blank false '\x7d' (entry (valueWithin depth))) text :=
  rfl

theorem valueWithin_array :
    valueWithin (depth + 1) ('[' :: text) =
      (array <$> Reader.items blank false ']' (valueWithin depth)) text :=
  rfl

theorem valueWithin_string :
    valueWithin (depth + 1) ('"' :: text) = (ofCharacters? <$> JsonText.reader) text :=
  rfl

theorem valueWithin_number {c : Char} (first : Numeral.isCharacter c = true) :
    valueWithin (depth + 1) (c :: text) = (number <$> lexeme) (c :: text) := by
  have other {d : Char} (no_character : Numeral.isCharacter d = false) :
      (c :: text).head? ≠ some d := by
    rintro ⟨⟩
    rw [first] at no_character
    nomatch no_character
  have no_brace := Reader.accept_of_head?_ne (other (d := '\x7b') rfl)
  have no_bracket := Reader.accept_of_head?_ne (other (d := '[') rfl)
  have no_quote := Reader.accept_of_head?_ne (other (d := '"') rfl)
  have no_null := @Reader.acceptWord_of_head?_ne 'n' ['u', 'l', 'l'] _ (other rfl)
  have no_true := @Reader.acceptWord_of_head?_ne 't' ['r', 'u', 'e'] _ (other rfl)
  have no_false := @Reader.acceptWord_of_head?_ne 'f' ['a', 'l', 's', 'e'] _ (other rfl)
  simp only [valueWithin, Reader.bind_of_run no_brace, Reader.bind_of_run no_bracket,
    Reader.bind_of_run no_quote, Reader.bind_of_run no_null, Reader.bind_of_run no_true,
    Reader.bind_of_run no_false, Bool.false_eq_true, ↓reduceIte]

end Alternatives

theorem spelling_begins {spelling : Spelling} (sound : spelling.Sound) :
    ∃ c later, spelling.text = c :: later ∧ Numeral.isCharacter c = true := by
  have nonempty : spelling.text ≠ [] := by
    obtain ⟨c, later, -, text_eq⟩ := sound.text_begins
    simp [text_eq]
  obtain ⟨c, later, text_eq⟩ := List.exists_cons_of_ne_nil nonempty
  refine ⟨c, later, text_eq, Numeral.isCharacter_of_mem_text sound ?_⟩
  rw [text_eq]
  exact List.mem_cons_self

/-- The text of a value begins with what is neither blank nor the end of a list. -/
theorem write_begins {value : Json} (readable : Readable value) (level : Nat) :
    ∃ c later, write level value = c :: later ∧ Solid c ∧ c ≠ ']' := by
  cases readable with
  | null => exact ⟨'n', _, rfl, rfl, by decide⟩
  | bool value =>
      cases value with
      | false => exact ⟨'f', _, rfl, rfl, by decide⟩
      | true => exact ⟨'t', _, rfl, rfl, by decide⟩
  | number sound =>
      obtain ⟨c, later, text_eq, first⟩ := spelling_begins sound
      refine ⟨c, later, by rw [write, text_eq], solid_of_isCharacter first, ?_⟩
      rintro rfl
      nomatch first
  | string text => exact ⟨'"', _, rfl, rfl, by decide⟩
  | array =>
      obtain ⟨later, block_eq⟩ := layout.block_begins level '[' ']' _
      exact ⟨'[', later, by rw [write, block_eq], rfl, by decide⟩
  | object =>
      obtain ⟨later, block_eq⟩ := layout.block_begins level '\x7b' '\x7d' _
      exact ⟨'\x7b', later, by rw [write, block_eq], rfl, by decide⟩

/-- A field is read as its name and value, if its value is read. -/
theorem entry_reads {depth level : Nat} {name : List Char} {value : Json}
    (readable : Readable value) (reads : (valueWithin depth).Reads (write level value) value) :
    Reader.ItemReads Solid '\x7d' (entry (valueWithin depth)) (writeField level (name, value))
      (some name, value) where
  begins := ⟨'"', _, rfl, rfl, by decide⟩
  reads rest ended := by
    obtain ⟨c, later, value_eq, solid, -⟩ := write_begins readable level
    have colon_run : blank (':' :: ' ' :: (write level value ++ rest)) =
        some ((), ':' :: ' ' :: (write level value ++ rest)) :=
      @blank_run [] rfl ':' rfl _
    have space_run : blank (' ' :: (write level value ++ rest)) =
        some ((), write level value ++ rest) := by
      rw [value_eq]
      exact @blank_run [' '] rfl c solid _
    obtain ⟨inside, quote_eq, name_run⟩ :=
      JsonText.reader_quote name (':' :: ' ' :: (write level value ++ rest))
    rw [writeField, quote_eq]
    simp only [List.cons_append, List.append_assoc, List.nil_append]
    rw [entry, Reader.bind_of_run (Reader.expect_cons_self '"' _), Reader.bind_of_run name_run,
      Reader.bind_of_run colon_run, Reader.bind_of_run (Reader.expect_cons_self ':' _),
      Reader.bind_of_run space_run, Reader.bind_of_run (reads rest ended), Reader.pure_run]

theorem exists_depth {value : Json} (readable : Readable value) {level depth : Nat}
    (enough : (write level value).length ≤ depth) : ∃ less, depth = less + 1 := by
  obtain ⟨c, later, text_eq, -⟩ := write_begins readable level
  rw [text_eq, List.length_cons] at enough
  exact Nat.exists_eq_succ_of_ne_zero (by omega)

/-- The text of a readable value is read as the value. -/
theorem valueWithin_reads {value : Json} (readable : Readable value) (level : Nat) {depth : Nat}
    (enough : (write level value).length ≤ depth) :
    (valueWithin depth).Reads (write level value) value := by
  induction readable generalizing level depth with
  | null =>
      obtain ⟨depth, rfl⟩ := exists_depth .null enough
      exact fun rest _ => rfl
  | bool value =>
      obtain ⟨depth, rfl⟩ := exists_depth (.bool value) enough
      cases value <;> exact fun rest _ => rfl
  | number sound =>
      obtain ⟨depth, rfl⟩ := exists_depth (.number sound) enough
      intro rest ended
      obtain ⟨c, later, text_eq, first⟩ := spelling_begins sound
      have number_run := (lexeme_reads sound).map number rest ended
      rw [write]
      rw [text_eq] at number_run ⊢
      rw [List.cons_append, valueWithin_number _ _ first]
      exact number_run
  | string text =>
      obtain ⟨depth, rfl⟩ := exists_depth (.string text) enough
      intro rest _
      obtain ⟨inside, quote_eq, run⟩ := JsonText.reader_quote text rest
      rw [write, quote_eq, List.cons_append, valueWithin_string, Reader.map_of_run run]
      rfl
  | @array items all induction =>
      obtain ⟨depth, rfl⟩ := exists_depth (.array all) enough
      intro rest _
      rw [write, writeItems_eq] at enough ⊢
      have reads : List.Forall₂ (Reader.ItemReads Solid ']' (valueWithin depth))
          (items.map (write (level + 1))) items := by
        rw [List.forall₂_map_left_iff, List.forall₂_same]
        intro item member
        have shorter := layout.length_lt_block level '[' ']'
          (List.mem_map_of_mem (f := write (level + 1)) member)
        exact ⟨induction item member (level + 1) (by omega),
          write_begins (all item member) (level + 1)⟩
      obtain ⟨inside, block_eq, run⟩ :=
        Layout.block_run gap_newline (punctuation ']' rfl (by decide)) reads level '['
      rw [block_eq, List.cons_append, valueWithin_array]
      exact Reader.map_of_run (run rest)
  | @object fields all induction =>
      obtain ⟨depth, rfl⟩ := exists_depth (.object all) enough
      intro rest _
      rw [write, writeFields_eq] at enough ⊢
      have reads : List.Forall₂ (Reader.ItemReads Solid '\x7d' (entry (valueWithin depth)))
          (fields.map (writeField (level + 1)))
          (fields.map fun field => (some field.1, field.2)) := by
        rw [List.forall₂_map_left_iff, List.forall₂_map_right_iff, List.forall₂_same]
        rintro ⟨name, value⟩ member
        have shorter := layout.length_lt_block level '\x7b' '\x7d'
          (List.mem_map_of_mem (f := writeField (level + 1)) member)
        rw [writeField, List.length_append] at shorter
        exact entry_reads (all _ member) (induction _ member (level + 1) (by omega))
      obtain ⟨inside, block_eq, run⟩ :=
        Layout.block_run gap_newline (punctuation '\x7d' rfl (by decide)) reads level '\x7b'
      have entries_run := Reader.map_of_run (f := ofEntries) (run rest)
      rw [ofEntries_fields] at entries_run
      rw [block_eq, List.cons_append, valueWithin_object]
      exact entries_run

/-- Reading gives back every readable value that was written. -/
theorem ofText?_toText {value : Json} (readable : Readable value) :
    ofText? value.toText = some value := by
  obtain ⟨c, later, text_eq, solid, -⟩ := write_begins readable 0
  have blank_start : blank (toText value) = some ((), toText value) := by
    rw [toText, text_eq]
    exact @blank_run [] rfl c solid later
  have value_run : Json.value (toText value) = some (value, []) := by
    have run := valueWithin_reads readable 0 le_rfl [] Reader.ended_nil
    rw [List.append_nil] at run
    exact run
  have blank_end : blank [] = some ((), []) := rfl
  rw [ofText?, Reader.runAll, Reader.bind_of_run blank_start, Reader.bind_of_run value_run,
    Reader.bind_of_run blank_end, Reader.pure_run]

end Json
end TextureGraph
