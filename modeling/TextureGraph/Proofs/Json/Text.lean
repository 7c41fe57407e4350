import TextureGraph.Json.Text
import TextureGraph.Proofs.Text.Run

/-!
# Texts in JSON read back

Every text reads back from its quoted form: each character from its spelling, and the characters of
a text are no halves of surrogate pairs.
-/

namespace TextureGraph
namespace JsonText

/-! ## Spellings -/

theorem codes_letter {c letter : Char} (spells : unescape? letter = some c) (text : List Char) :
    codes ('\\' :: letter :: text) = (codes text).map (Prod.map (c.toNat :: ·) id) := by
  rw [codes, spells]
  · cases codes text <;> rfl
  · rintro _ _ _ _ _ rfl
    nomatch spells

theorem codes_hex {code : Nat} (control : code < 0x20) (text : List Char) :
    codes (['\\', 'u', '0', '0', Nat.digitChar (code / 16), Nat.digitChar (code % 16)] ++ text) =
      (codes text).map (Prod.map (code :: ·) id) := by
  have number_eq : ∀ code < 0x20,
      hexNumber? ['0', '0', Nat.digitChar (code / 16), Nat.digitChar (code % 16)] = some code := by
    decide
  simp only [List.cons_append, List.nil_append]
  rw [codes, number_eq code control]
  cases codes text <;> rfl

theorem codes_plain {c : Char} (no_quote : c ≠ '"') (no_mark : c ≠ '\\') (shown : ¬c.toNat < 0x20)
    (text : List Char) :
    codes (c :: text) = (codes text).map (Prod.map (c.toNat :: ·) id) := by
  rw [codes, if_neg shown]
  · cases codes text <;> rfl
  · exact no_quote
  all_goals
    intros
    contradiction

/-- The spelling of a character is read as the character. -/
theorem codes_escape (c : Char) (text : List Char) :
    codes (escape c ++ text) = (codes text).map (Prod.map (c.toNat :: ·) id) := by
  rw [escape]
  split_ifs with marked backspace feed newline carriage tab control
  · have spells : unescape? c = some c := by
      rw [unescape?, if_pos (marked.imp_right .inl)]
    exact codes_letter spells text
  · rw [backspace]
    exact @codes_letter '\x08' 'b' rfl text
  · rw [feed]
    exact @codes_letter '\x0c' 'f' rfl text
  · rw [newline]
    exact @codes_letter '\n' 'n' rfl text
  · rw [carriage]
    exact @codes_letter '\r' 'r' rfl text
  · rw [tab]
    exact @codes_letter '\t' 't' rfl text
  · exact codes_hex control text
  · rw [not_or] at marked
    exact codes_plain marked.1 marked.2 control text

theorem codes_quoted (text rest : List Char) :
    codes (text.flatMap escape ++ '"' :: rest) = some (text.map Char.toNat, rest) := by
  induction text with
  | nil => rfl
  | cons c text induction =>
      rw [List.flatMap_cons, List.append_assoc, codes_escape, induction]
      rfl

/-! ## Characters -/

theorem not_unit (c : Char) : isHighUnit c.toNat = false ∧ isLowUnit c.toNat = false := by
  have valid : c.toNat < 0xd800 ∨ 0xdfff < c.toNat ∧ c.toNat < 0x110000 := c.valid
  simp only [isHighUnit, isLowUnit, Bool.and_eq_false_iff, decide_eq_false_iff_not]
  omega

theorem characters?_toNat (text : List Char) : characters? (text.map Char.toNat) = some text := by
  induction text with
  | nil => rfl
  | cons c text induction =>
      obtain ⟨no_high, no_low⟩ := not_unit c
      cases text with
      | nil => simp [characters?, no_high, no_low, Char.ofNat_toNat]
      | cons d text =>
          rw [List.map_cons, List.map_cons, characters?, no_high, no_low]
          rw [List.map_cons] at induction
          simp [induction, Char.ofNat_toNat]

/-- A text in quotes is read as the text. -/
theorem reader_quote (text rest : List Char) :
    ∃ inside, quote text = '"' :: inside ∧ reader (inside ++ rest) = some (some text, rest) := by
  refine ⟨text.flatMap escape ++ ['"'], rfl, ?_⟩
  rw [reader, List.append_assoc, List.singleton_append, codes_quoted, Option.map_some]
  dsimp only
  rw [characters?_toNat]

end JsonText
end TextureGraph
