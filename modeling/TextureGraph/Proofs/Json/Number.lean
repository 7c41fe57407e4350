import TextureGraph.Json.Fields
import TextureGraph.Proofs.Scaling
import TextureGraph.Proofs.Text.Spelling

/-!
# Numbers in JSON read back

Every integer and every finite single-precision number reads back from the JSON text that is written
for it, and only numbers that are not finite have no text.
-/

namespace TextureGraph
namespace Numeral

/-! ## Spellings -/

/-- The parts of a written number. -/
def ofSpelling (spelling : Spelling) : Numeral where
  negative := spelling.negative
  whole := spelling.whole
  fraction := spelling.fraction?.getD []
  exponent := spelling.exponent?.getD 0
  isWhole := spelling.fraction?.isNone && spelling.exponent?.isNone

theorem wholeDigits_append {spelling : Spelling} (sound : spelling.Sound) {rest : List Char}
    (ends : rest.head?.any Char.isDigit = false) :
    wholeDigits (spelling.whole ++ rest) = some (spelling.whole, rest) := by
  have lead : ¬(spelling.whole.head? = some '0' ∧ spelling.whole ≠ ['0']) :=
    fun ⟨zero, longer⟩ => longer (sound.lead zero)
  rw [wholeDigits, Reader.bind_of_run (Digits.atLeastOne_append sound.whole ends), if_neg lead,
    Reader.pure_run]

theorem fractionDigits?_text {spelling : Spelling} (sound : spelling.Sound) :
    fractionDigits?
        (Spelling.fractionText spelling.fraction? ++ Digits.exponentText spelling.exponent?) =
      some (spelling.fraction?, Digits.exponentText spelling.exponent?) := by
  cases fraction_eq : spelling.fraction? with
  | none => cases spelling.exponent? <;> rfl
  | some digits =>
      have digits_run := Digits.atLeastOne_append (sound.fraction digits fraction_eq)
        (Digits.head?_exponentText_digit spelling.exponent?)
      simp only [Spelling.fractionText, List.cons_append, fractionDigits?,
        Reader.bind_of_run (Reader.accept_cons_self '.' _), ↓reduceIte]
      exact Reader.map_of_run digits_run

/-- A spelled number is read as its parts. -/
theorem ofLexeme?_text {spelling : Spelling} (sound : spelling.Sound) :
    ofLexeme? spelling.text = some (ofSpelling spelling) := by
  have sign_run : Reader.accept '-' spelling.text = some (spelling.negative,
      spelling.whole ++
        (Spelling.fractionText spelling.fraction? ++ Digits.exponentText spelling.exponent?)) := by
    rw [Spelling.text]
    cases spelling.negative with
    | true => exact Reader.accept_cons_self '-' _
    | false => exact Reader.accept_of_head?_ne (sound.whole.head?_ne rfl _)
  have no_digit := Spelling.head?_fractionText_digit spelling.fraction? spelling.exponent?
  have run : reader spelling.text = some (ofSpelling spelling, []) := by
    rw [reader, Reader.bind_of_run sign_run, Reader.bind_of_run (wholeDigits_append sound no_digit),
      Reader.bind_of_run (fractionDigits?_text sound),
      Reader.bind_of_run (Digits.exponent?_text spelling.exponent?), Reader.pure_run]
    rfl
  rw [ofLexeme?, Reader.runAll, run]

/-- A written number consists of the characters of numbers. -/
theorem isCharacter_of_mem_text {spelling : Spelling} (sound : spelling.Sound) {c : Char}
    (member : c ∈ spelling.text) : isCharacter c = true := by
  rcases sound.mem_text member with digit | mark
  · simp [isCharacter, digit]
  · have checked : ['-', '+', '.', 'e'].all isCharacter = true := rfl
    exact List.all_eq_true.mp checked c mark

/-! ## Integers -/

theorem text_ofInt (n : Int) : (Spelling.ofInt n).text = Word.digits n := by
  rw [Word.digits]
  split_ifs with negative <;>
    simp [Spelling.text, Spelling.ofInt, Spelling.fractionText, Digits.exponentText, negative]

theorem integer?_ofInt (n : Int) : (ofSpelling (Spelling.ofInt n)).integer? = some n := by
  have digits_eq : decimalNumber (Nat.toDigits 10 n.natAbs) = n.natAbs := decimalNumber_toDigits _
  have no_minus_zero : ¬(decide (n < 0) = true ∧ n.natAbs = 0) := by
    simp only [decide_eq_true_eq]
    omega
  simp only [integer?, ofSpelling, Spelling.ofInt, digits_eq, Option.isNone_none, Bool.and_self,
    no_minus_zero, not_false_eq_true, and_self, ↓reduceIte, Digits.signed_natAbs]

/-! ## Decimals -/

theorem absorb_eq {number : Nat} {digits : List Char}
    (small : 10 ^ digits.length * number + decimalNumber digits < 0x10000000000000000) :
    absorb number digits = (10 ^ digits.length * number + decimalNumber digits, []) := by
  induction digits generalizing number with
  | nil => simp [absorb, decimalNumber]
  | cons c digits induction =>
      have number_eq : 10 ^ (c :: digits).length * number + decimalNumber (c :: digits) =
          10 ^ digits.length * (10 * number + (c.toNat - '0'.toNat)) + decimalNumber digits := by
        rw [← List.singleton_append, decimalNumber_append, List.length_append]
        simp only [decimalNumber, List.foldl_cons, List.foldl_nil, List.length_singleton]
        ring
      rw [number_eq] at small ⊢
      have longer_small : 10 * number + (c.toNat - '0'.toNat) < 0x10000000000000000 := by
        have := Nat.le_mul_of_pos_left (10 * number + (c.toNat - '0'.toNat))
          (Nat.pow_pos (n := digits.length) (show 0 < 10 by decide))
        omega
      rw [absorb]
      simp only [longer_small, ↓reduceIte]
      exact induction small

/-- All digits count as long as 64 bits hold their number. -/
theorem decimal_ofSpelling {spelling : Spelling}
    (small : spelling.decimal.digits < 0x10000000000000000) :
    (ofSpelling spelling).decimal = spelling.decimal := by
  have digits_eq := decimalNumber_append spelling.whole (spelling.fraction?.getD [])
  have all_small : 10 ^ (spelling.fraction?.getD []).length * decimalNumber spelling.whole +
      decimalNumber (spelling.fraction?.getD []) < 0x10000000000000000 := by
    rw [← digits_eq]
    exact small
  have whole_small : 10 ^ spelling.whole.length * 0 + decimalNumber spelling.whole <
      0x10000000000000000 := by
    have := Nat.le_mul_of_pos_left (decimalNumber spelling.whole)
      (Nat.pow_pos (n := (spelling.fraction?.getD []).length) (show 0 < 10 by decide))
    omega
  have whole_eq := absorb_eq whole_small
  rw [Nat.mul_zero, Nat.zero_add] at whole_eq
  simp only [decimal, ofSpelling, whole_eq, absorb_eq all_small, ← digits_eq, List.length_nil]
  rw [Spelling.decimal, Spelling.digits]
  congr 1
  omega

/-! ## Single-precision numbers -/

/-- A written number is the one next to the double that it is turned into. -/
theorem single?_withSign {spelling : Spelling} {d : Decimal} {text : List Char}
    (writes : spelling.Writes d text) (negative : Bool) (small : d.digits < 0x10000000000000000)
    {rank target : Nat} (found : scaled? d = some rank)
    (nearest : Precision.single.Nearest (Precision.double.value rank) target) :
    (ofSpelling (spelling.withSign negative)).single? = some (Single.ofRank negative target) := by
  have decimal_eq : (ofSpelling (spelling.withSign negative)).decimal = d := by
    have signed_eq : (spelling.withSign negative).decimal = d := writes.decimal_eq
    rw [← signed_eq] at small ⊢
    exact decimal_ofSpelling small
  have no_integer : (ofSpelling (spelling.withSign negative)).integer? = none := by
    have pointed : (ofSpelling (spelling.withSign negative)).isWhole = false := writes.pointed
    rw [integer?, pointed]
    simp
  simp only [single?, no_integer, throughDouble?, decimal_eq, found, Option.map_some,
    Single.ofParts_eq_ofRank _ nearest]
  rfl

theorem nearest_zero : Precision.single.Nearest (Precision.double.value 0) 0 := by
  rw [Precision.value_zero, ← Precision.value_zero (p := .single)]
  exact Precision.nearest_value (Nat.zero_le _)

theorem digits_lt_pow_length (n : Nat) : n < 10 ^ (Nat.toDigits 10 n).length :=
  (Nat.length_toDigits_le_iff (by decide) Nat.length_toDigits_pos).mp le_rfl

/-- The text of a positive finite number reads back. -/
theorem exists_writes_ofRank (negative : Bool) {target : Nat} (positive : 0 < target)
    (finite : target < Precision.single.infinity) :
    ∃ (spelling : Spelling) (d : Decimal), spelling.Writes d (ofRank target) ∧
      (ofSpelling (spelling.withSign negative)).single? = some (Single.ofRank negative target) := by
  have back := Decimal.shortest_readsBack .toEven target finite
  rw [ofRank]
  generalize Decimal.shortest .toEven target = d at back
  have digits_pos := back.digits_pos positive
  have digits_le := digits_le_of_readsBack back
  have digits_small : d.digits < 0x10000000000000000 := by omega
  obtain ⟨rank, found, nearest⟩ := scaled?_readsBack back positive finite
  split_ifs with positional
  · obtain ⟨spelling, written, writes, rfl | ⟨whole, rfl⟩⟩ :=
      Spelling.exists_writes_positional digits_pos
    · exact ⟨spelling, _, writes, single?_withSign writes negative digits_small found nearest⟩
    · -- One more zero is written, but the number stays below `10 ^ 14`.
      have leading_eq := Spelling.leading_eq d
      have length_le : (Nat.toDigits 10 d.digits).length + d.exponent.toNat ≤ 13 := by
        have leading_le := positional.2
        omega
      have number_lt : d.digits * 10 ^ d.exponent.toNat < 10 ^ 13 := by
        calc d.digits * 10 ^ d.exponent.toNat
            < 10 ^ (Nat.toDigits 10 d.digits).length * 10 ^ d.exponent.toNat := by
              gcongr
              exact digits_lt_pow_length d.digits
          _ = 10 ^ ((Nat.toDigits 10 d.digits).length + d.exponent.toNat) := (pow_add 10 _ _).symm
          _ ≤ 10 ^ 13 := Nat.pow_le_pow_right (by decide) length_le
      have at_once : Precision.single.Nearest (d.digits * 10 ^ d.exponent.toNat : Nat) target := by
        rw [← Decimal.value_of_whole whole, ← back.rank_eq]
        exact Decimal.nearest_rank Single.even_single
          (Decimal.inReach_of_bounds back.exponent_low (by linarith [back.exponent_high]))
      obtain ⟨rank, found, nearest⟩ :=
        scaled?_whole (Nat.mul_pos digits_pos (by positivity)) (by omega) at_once
      exact ⟨spelling, _, writes,
        single?_withSign writes negative (by dsimp only; omega) found nearest⟩
  · obtain ⟨spelling, writes⟩ := Spelling.exists_writes_scientific digits_pos
    exact ⟨spelling, d, writes, single?_withSign writes negative digits_small found nearest⟩

/-- The text of a finite number reads back, the sign of a zero included. -/
theorem exists_write? {x : Float32} (finite : Single.rank x < Precision.single.infinity) :
    ∃ spelling : Spelling, spelling.Sound ∧ write? x = some spelling.text ∧
      (ofSpelling spelling).single? = some x := by
  rcases Nat.eq_zero_or_pos (Single.rank x) with zero | positive
  · have writes := Spelling.writes_zero
    refine ⟨_, writes.sound.withSign (Single.isNegative x), ?_, ?_⟩
    · rw [writes.text_withSign, write?, if_neg (by omega), if_pos zero]
    · have found : scaled? ⟨0, -1⟩ = some 0 := rfl
      rw [single?_withSign writes _ (by decide) found nearest_zero, ← zero, Single.ofRank_rank]
  · obtain ⟨spelling, d, writes, read⟩ :=
      exists_writes_ofRank (Single.isNegative x) positive finite
    refine ⟨_, writes.sound.withSign (Single.isNegative x), ?_, ?_⟩
    · rw [writes.text_withSign, write?, if_neg (by omega), if_neg positive.ne']
    · rw [read, Single.ofRank_rank]

theorem write?_eq_none {x : Float32} (infinite : ¬Single.rank x < Precision.single.infinity) :
    write? x = none :=
  if_pos (Nat.not_lt.mp infinite)

end Numeral

/-! ## JSON values -/

namespace Json

theorem toInt?_ofInt (n : Int) : (ofInt n).toInt? = some n := by
  rw [ofInt, toInt?, ← Numeral.text_ofInt, Numeral.ofLexeme?_text (Spelling.sound_ofInt n),
    Option.bind_some, Numeral.integer?_ofInt]

theorem ofNat_eq_ofInt (n : Nat) : ofNat n = ofInt n := by
  rw [ofNat, ofInt, Word.digits, if_neg (by omega), Int.natAbs_natCast]

theorem toInt?_ofNat (n : Nat) : (ofNat n).toInt? = some (n : Int) := by
  rw [ofNat_eq_ofInt, toInt?_ofInt]

/-- A finite number reads back bit for bit, and no other number is written. -/
theorem toSingle?_ofSingle (x : Float32) :
    (ofSingle x).toSingle? =
      if Single.rank x < Precision.single.infinity then some x else none := by
  split_ifs with finite
  · obtain ⟨spelling, sound, written, read⟩ := Numeral.exists_write? finite
    rw [ofSingle, written]
    dsimp only
    rw [toSingle?, Numeral.ofLexeme?_text sound, Option.bind_some, read]
  · rw [ofSingle, Numeral.write?_eq_none finite]
    rfl

end Json
end TextureGraph
