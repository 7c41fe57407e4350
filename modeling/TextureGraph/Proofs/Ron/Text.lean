import TextureGraph.Proofs.Ron.Blank
import TextureGraph.Ron.Basic
import TextureGraph.Ron.Record

/-!
# Texts in RON read back

Every text reads back from its quoted form, characters that do not show from the hexadecimal digits
of their numbers.
-/

namespace TextureGraph
namespace Ron

/-! ## Hexadecimal digits -/

theorem hexDigit?_digitChar {digit : Nat} (small : digit < 16) :
    hexDigit? (Nat.digitChar digit) = some digit := by
  have checked : ∀ digit < 16, hexDigit? (Nat.digitChar digit) = some digit := by decide
  exact checked digit small

theorem hexNumber?_append_singleton {digits : List Char} {number : Nat}
    (number_eq : hexNumber? digits = some number) {digit : Nat} (small : digit < 16) :
    hexNumber? (digits ++ [Nat.digitChar digit]) = some (16 * number + digit) := by
  rw [hexNumber?] at number_eq ⊢
  rw [List.foldlM_append, number_eq]
  simp [hexDigit?_digitChar small]

/-- A number is read from its hexadecimal digits. -/
theorem hexNumber?_toDigits (n : Nat) :
    hexNumber? (Nat.toDigits 16 n) = some n ∧
      ∀ c ∈ Nat.toDigits 16 n, (hexDigit? c).isSome = true := by
  induction n using Nat.strongRecOn with
  | ind n induction =>
      rcases Nat.lt_or_ge n 16 with small | large
      · rw [Nat.toDigits_of_lt_base small, List.forall_mem_singleton, hexDigit?_digitChar small]
        exact ⟨by simp [hexNumber?, hexDigit?_digitChar small], rfl⟩
      · obtain ⟨number_eq, all⟩ := induction (n / 16) (by omega)
        have small : n % 16 < 16 := Nat.mod_lt n (by decide)
        rw [Nat.toDigits_of_base_le (by decide) large, hexNumber?_append_singleton number_eq small,
          Nat.div_add_mod, List.forall_mem_append, List.forall_mem_singleton,
          hexDigit?_digitChar small]
        exact ⟨rfl, all, rfl⟩

theorem character?_toNat (c : Char) : character? c.toNat = some c := by
  have valid : c.toNat.isValidChar := c.valid
  have char_eq := Char.ofNat_toNat c
  rw [Char.ofNat, dif_pos valid] at char_eq
  rw [character?, dif_pos valid, char_eq]

/-! ## Spellings -/

theorem codePoint_byNumber (c : Char) (rest : List Char) :
    codePoint ('\x7b' :: (Nat.toDigits 16 c.toNat ++ '\x7d' :: rest)) = some (c, rest) := by
  obtain ⟨number_eq, all⟩ := hexNumber?_toDigits c.toNat
  have digits_run : Reader.takeWhile (fun c => (hexDigit? c).isSome)
      (Nat.toDigits 16 c.toNat ++ '\x7d' :: rest) =
        some (Nat.toDigits 16 c.toNat, '\x7d' :: rest) :=
    Reader.takeWhile_append all rfl
  have short : (Nat.toDigits 16 c.toNat).length ≤ 6 := by
    have valid : c.toNat < 0xd800 ∨ 0xdfff < c.toNat ∧ c.toNat < 0x110000 := c.valid
    rw [Nat.length_toDigits_le_iff (by decide) (by decide)]
    omega
  have in_range : ¬((Nat.toDigits 16 c.toNat).isEmpty ||
      decide (6 < (Nat.toDigits 16 c.toNat).length)) = true := by
    simp [Nat.toDigits_ne_nil, short]
  rw [codePoint, Reader.bind_of_run (Reader.expect_cons_self '\x7b' _),
    Reader.bind_of_run digits_run, Reader.bind_of_run (Reader.expect_cons_self '\x7d' rest),
    if_neg in_range, number_eq, Option.bind_some, character?_toNat]
  rfl

theorem quotedWithin_spelled {c : Char} {spelled text : List Char}
    (spells : spelling .text spelled = some (c, text)) (room : Nat) :
    quotedWithin .text (room + 1) ('\\' :: spelled) =
      (quotedWithin .text room text).map (Prod.map (c :: ·) id) := by
  have next_run : Reader.next ('\\' :: spelled) = some ('\\', spelled) := rfl
  have no_end : '\\' ≠ '"' := by decide
  simp only [quotedWithin, Reader.bind_of_run next_run, no_end, ↓reduceIte,
    Reader.bind_of_run spells]
  exact Reader.bind_pure_run _ (c :: ·) text

theorem quotedWithin_plain {c : Char} (no_quote : c ≠ '"') (no_mark : c ≠ '\\') (room : Nat)
    (text : List Char) :
    quotedWithin .text (room + 1) (c :: text) =
      (quotedWithin .text room text).map (Prod.map (c :: ·) id) := by
  have next_run : Reader.next (c :: text) = some (c, text) := rfl
  simp only [quotedWithin, Reader.bind_of_run next_run, no_quote, no_mark, ↓reduceIte, pure_bind]
  exact Reader.bind_pure_run _ (c :: ·) text

theorem spelling_letter {c letter : Char} (spells : unescape? letter = some c)
    (text : List Char) : spelling .text (letter :: text) = some (c, text) := by
  have no_byte : letter ≠ 'x' := by
    rintro rfl
    nomatch spells
  have no_number : letter ≠ 'u' := by
    rintro rfl
    nomatch spells
  have next_run : Reader.next (letter :: text) = some (letter, text) := rfl
  rw [spelling, Reader.bind_of_run next_run, if_neg no_byte, if_neg no_number, spells]
  rfl

theorem spelling_byNumber (c : Char) (text : List Char) :
    spelling .text ('u' :: '\x7b' :: (Nat.toDigits 16 c.toNat ++ '\x7d' :: text)) =
      some (c, text) :=
  codePoint_byNumber c text

/-- A character, plain or spelled, is taken off the front of a quoted text. -/
theorem quotedWithin_escape (c : Char) (room : Nat) (text : List Char) :
    quotedWithin .text (room + 1) (Quoted.escape .both c ++ text) =
      (quotedWithin .text room text).map (Prod.map (c :: ·) id) := by
  have by_letter {letter : Char} (spells : unescape? letter = some c) :=
    quotedWithin_spelled (spelling_letter spells text) room
  rw [Quoted.escape]
  split_ifs with null tab carriage newline mark quote single hidden
  · exact @by_letter '0' (by rw [null]; rfl)
  · exact @by_letter 't' (by rw [tab]; rfl)
  · exact @by_letter 'r' (by rw [carriage]; rfl)
  · exact @by_letter 'n' (by rw [newline]; rfl)
  · exact @by_letter '\\' (by rw [mark]; rfl)
  · exact @by_letter '"' (by rw [quote]; rfl)
  · exact @by_letter '\'' (by rw [single.1]; rfl)
  · have spelled := quotedWithin_spelled (spelling_byNumber c text) room
    rw [Quoted.byNumber]
    simpa only [List.cons_append, List.nil_append, List.append_assoc] using spelled
  · exact quotedWithin_plain quote mark room text

theorem quotedWithin_text (text rest : List Char) {room : Nat} (enough : text.length < room) :
    quotedWithin .text room (text.flatMap (Quoted.escape .both) ++ '"' :: rest) =
      some (text, rest) := by
  induction text generalizing room with
  | nil =>
      obtain ⟨room, rfl⟩ := Nat.exists_eq_succ_of_ne_zero (Nat.ne_of_gt enough)
      rfl
  | cons c text induction =>
      rw [List.length_cons] at enough
      obtain ⟨room, rfl⟩ := Nat.exists_eq_succ_of_ne_zero (Nat.ne_of_gt (Nat.zero_lt_of_lt enough))
      rw [List.flatMap_cons, List.append_assoc, quotedWithin_escape, induction (by omega)]
      rfl

theorem length_le_flatMap_escape (text : List Char) :
    text.length ≤ (text.flatMap (Quoted.escape .both)).length := by
  induction text with
  | nil => exact Nat.le_refl _
  | cons c text induction =>
      have nonempty : 0 < (Quoted.escape .both c).length := by
        rw [Quoted.escape]
        split_ifs <;> simp [Quoted.byNumber]
      rw [List.flatMap_cons, List.length_append, List.length_cons]
      omega

/-- A text is read from its quoted form. -/
theorem readString_takes (text : String) : Takes readString (writeText text.toList) text where
  reads rest _ := by
    have longer := length_le_flatMap_escape text.toList
    have enough : text.toList.length <
        (text.toList.flatMap (Quoted.escape .both) ++ '"' :: rest).length := by
      rw [List.length_append, List.length_cons]
      omega
    have quoted_run := quotedWithin_text text.toList rest enough
    have text_run : Ron.text (writeText text.toList ++ rest) = some (text.toList, rest) := by
      simp only [writeText, Quoted.quote, List.cons_append, List.append_assoc, List.nil_append,
        Ron.text, Reader.bind_of_run (Reader.accept_cons_self '"' _), ↓reduceIte]
      exact quoted_run
    rw [readString, Reader.map_of_run text_run, String.ofList_toList]
  begins := ⟨'"', _, rfl, by decide⟩

end Ron
end TextureGraph
