import TextureGraph.Proofs.DocumentFloats
import TextureGraph.Proofs.Ron.Blank
import TextureGraph.Proofs.Shortest
import TextureGraph.Proofs.Text.Spelling
import TextureGraph.Ron.Basic
import TextureGraph.Ron.Record

/-!
# Numbers in RON read back

Integers, truth values and single-precision numbers read back from the RON texts that are written
for them, infinities included.
-/

namespace TextureGraph
namespace Ron

open Reader (Ended)

/-! ## Words -/

theorem acceptIdentifier_append {rest : List Char} (ended : Ended rest) (word : List Char) :
    acceptIdentifier word (word ++ rest) = some (true, rest) := by
  have ends : rest.head?.any isIdentifierContinue = false := ended.any_head? rfl
  have begins : word.isPrefixOf (word ++ rest) = true :=
    List.isPrefixOf_iff_prefix.mpr (List.prefix_append _ _)
  simp only [acceptIdentifier, List.drop_left, begins, ends, Bool.not_false, Bool.and_self,
    ↓reduceIte]

theorem acceptIdentifier_of_not_prefix {word text : List Char}
    (other : word.isPrefixOf text = false) : acceptIdentifier word text = some (false, text) := by
  rw [acceptIdentifier, other, Bool.false_and, if_neg Bool.false_ne_true]

section Words

variable {α : Type} {words : List (String × α)} {text : List Char}

theorem acceptOneOf?_cons (word : String) (value : α) :
    acceptOneOf? ((word, value) :: words) text =
      match acceptIdentifier word.toList text with
      | some (true, rest) => some (some value, rest)
      | some (false, rest) => acceptOneOf? words rest
      | none => none := by
  change (acceptIdentifier word.toList text).bind _ = _
  rcases acceptIdentifier word.toList text with _ | ⟨_ | _, rest⟩ <;> rfl

/-- Words that the text does not begin with are passed over. -/
theorem acceptOneOf?_append
    (others : ∀ word ∈ words, word.1.toList.isPrefixOf text = false) (later : List (String × α)) :
    acceptOneOf? (words ++ later) text = acceptOneOf? later text := by
  induction words with
  | nil => rfl
  | cons word words induction =>
      rw [List.forall_mem_cons] at others
      rw [List.cons_append, acceptOneOf?_cons, acceptIdentifier_of_not_prefix others.1]
      exact induction others.2

theorem acceptOneOf?_eq_none
    (others : ∀ word ∈ words, word.1.toList.isPrefixOf text = false) :
    acceptOneOf? words text = some (none, text) := by
  have passed := acceptOneOf?_append others []
  rwa [List.append_nil] at passed

theorem acceptOneOf?_found {word : String} {value : α} {rest : List Char} (ended : Ended rest) :
    acceptOneOf? ((word, value) :: words) (word.toList ++ rest) = some (some value, rest) := by
  rw [acceptOneOf?_cons, acceptIdentifier_append ended]

/-- None of the words begins with a separator. -/
def Apart (words : List (String × α)) : Prop :=
  ∀ word ∈ words, word.1.toList.head?.any (· ∉ Reader.separators) = true

instance : Decidable (Apart words) :=
  inferInstanceAs (Decidable (∀ _ ∈ _, _))

theorem acceptOneOf?_of_ended (apart : Apart words) (ended : Ended text) :
    acceptOneOf? words text = some (none, text) := by
  refine acceptOneOf?_eq_none fun word member => ?_
  have head := apart word member
  generalize word.1.toList = letters at head
  cases letters with
  | nil => nomatch head
  | cons c letters =>
      have no_separator : c ∉ Reader.separators := by simpa using head
      cases text with
      | nil => rfl
      | cons d text =>
          have different : c ≠ d := fun same => no_separator (same ▸ ended d rfl)
          simp [List.isPrefixOf, different]

end Words

/-! ## Integers -/

theorem bounds_of_isDigit {c : Char} (digit : c.isDigit = true) : '0' ≤ c ∧ c ≤ '9' := by
  simpa [Char.isDigit, Char.le_def] using digit

theorem hexDigit?_of_isDigit {c : Char} (digit : c.isDigit = true) :
    hexDigit? c = some (c.toNat - '0'.toNat) ∧ c.toNat - '0'.toNat < 10 := by
  have bounds := bounds_of_isDigit digit
  rw [hexDigit?, if_pos bounds]
  have high : c.toNat ≤ 57 := bounds.2
  exact ⟨rfl, by change c.toNat - 48 < 10; omega⟩

theorem naturalOfBase?_digits {digits : List Char} (all : ∀ c ∈ digits, c.isDigit = true) :
    naturalOfBase? 10 digits = some (decimalNumber digits) := by
  have no_line : digits.filter (· ≠ '_') = digits := by
    rw [List.filter_eq_self]
    intro c member
    have digit := all c member
    rw [decide_eq_true_eq]
    rintro rfl
    nomatch digit
  rw [naturalOfBase?, no_line, decimalNumber]
  generalize 0 = number
  clear no_line
  induction digits generalizing number with
  | nil => rfl
  | cons c digits induction =>
      rw [List.forall_mem_cons] at all
      obtain ⟨digit_eq, small⟩ := hexDigit?_of_isDigit all.1
      rw [List.foldlM_cons, digit_eq, List.foldl_cons, ← induction all.2]
      simp only [Option.bind_eq_bind, Option.bind_some, small, ↓reduceIte]

theorem acceptWord_mark (n : Nat) {c : Char}
    (no_separator : c ∉ Reader.separators) {rest : List Char} (ended : Ended rest) :
    Reader.acceptWord ['0', c] (Nat.toDigits 10 n ++ rest) =
      some (false, Nat.toDigits 10 n ++ rest) := by
  rw [Reader.acceptWord, if_neg]
  rw [List.isPrefixOf_iff_prefix]
  rintro ⟨later, text_eq⟩
  have sound := Digits.sound_toDigits n
  have lead := Spelling.lead_toDigits n
  generalize Nat.toDigits 10 n = digits at *
  obtain ⟨first, digits, rfl⟩ := List.exists_cons_of_ne_nil sound.nonempty
  simp only [List.cons_append, List.nil_append, List.cons.injEq] at text_eq
  obtain ⟨rfl, text_eq⟩ := text_eq
  obtain ⟨rfl⟩ : digits = [] := (List.cons.inj (lead rfl)).2
  exact ended.head?_ne no_separator (by rw [← List.nil_append rest, ← text_eq]; rfl)

theorem base_toDigits (n : Nat) {rest : List Char} (ended : Ended rest) :
    base (Nat.toDigits 10 n ++ rest) = some (10, Nat.toDigits 10 n ++ rest) := by
  have no_binary := @acceptWord_mark n 'b' (by decide) rest ended
  have no_octal := @acceptWord_mark n 'o' (by decide) rest ended
  have no_hexadecimal := @acceptWord_mark n 'x' (by decide) rest ended
  simp only [base, Reader.bind_of_run no_binary, Reader.bind_of_run no_octal,
    Reader.bind_of_run no_hexadecimal, Bool.false_eq_true, ↓reduceIte, Reader.pure_run]

theorem sign_digits (n : Int) (rest : List Char) :
    Digits.sign (Word.digits n ++ rest) =
      some (decide (n < 0), Nat.toDigits 10 n.natAbs ++ rest) := by
  have sound := Digits.sound_toDigits n.natAbs
  by_cases negative : n < 0
  · rw [Word.digits, if_pos negative, decide_eq_true negative, List.cons_append, Digits.sign_minus]
  · rw [Word.digits, if_neg negative, decide_eq_false negative]
    exact Digits.sign_of_head?_ne (sound.head?_ne rfl rest) (sound.head?_ne rfl rest)

theorem integer_reads {α : Type} {types : List (String × α)} (apart : Apart types) (n : Int) :
    (integer types).Reads (Word.digits n) (n, none) := by
  intro rest ended
  have sound := Digits.sound_toDigits n.natAbs
  have integer_characters : ∀ c ∈ Nat.toDigits 10 n.natAbs, isIntegerCharacter c = true := by
    intro c member
    rw [isIntegerCharacter, (hexDigit?_of_isDigit (sound.all c member)).1]
    rfl
  have ends : rest.head?.any isIntegerCharacter = false := ended.any_head? rfl
  have digits_run := Reader.takeWhile_append integer_characters ends
  have no_line : ¬((Nat.toDigits 10 n.natAbs).isEmpty ||
      decide ((Nat.toDigits 10 n.natAbs).head? = some '_')) = true := by
    have head := @Digits.Sound.head?_ne _ sound '_' rfl []
    rw [List.append_nil] at head
    simp [head]
  have magnitude_run : Reader.lift (naturalOfBase? 10 (Nat.toDigits 10 n.natAbs)) rest =
      some (n.natAbs, rest) := by
    rw [naturalOfBase?_digits sound.all, decimalNumber_toDigits]
    rfl
  have type_run := acceptOneOf?_of_ended apart ended
  have ten : ¬(decide (10 = 8) || decide (10 = 16)) = true := by decide
  simp only [integer, Reader.bind_of_run (sign_digits n rest),
    Reader.bind_of_run (base_toDigits n.natAbs ended), Reader.bind_of_run digits_run, no_line,
    Bool.false_eq_true, ↓reduceIte, Reader.bind_of_run magnitude_run, ten,
    Reader.bind_of_run type_run, Digits.signed_natAbs, Reader.pure_run]

theorem opens_of_isDigit {c : Char} (digit : c.isDigit = true) : Opens c := by
  refine ⟨⟨Bool.eq_false_iff.mpr fun blank => ?_, ?_⟩, ?_, ?_⟩
  · simp only [isBlank, Bool.or_eq_true, Bool.and_eq_true, decide_eq_true_eq] at blank
    rcases blank with (((((rfl | low) | rfl) | rfl) | rfl) | rfl) | rfl
    · nomatch digit
    · have high : '0' ≤ '\r' := Char.le_trans (bounds_of_isDigit digit).1 low.2
      exact absurd high (by decide)
    all_goals nomatch digit
  all_goals
    rintro rfl
    nomatch digit

theorem digits_begins (n : Int) : ∃ c later, Word.digits n = c :: later ∧ Opens c := by
  have sound := Digits.sound_toDigits n.natAbs
  obtain ⟨c, later, digits_eq⟩ := List.exists_cons_of_ne_nil sound.nonempty
  rw [Word.digits]
  split_ifs with negative
  · exact ⟨'-', _, rfl, by decide⟩
  · refine ⟨c, later, digits_eq, opens_of_isDigit (sound.all c ?_)⟩
    rw [digits_eq]
    exact List.mem_cons_self

theorem toDigits_eq_digits (n : Nat) : Nat.toDigits 10 n = Word.digits n := by
  rw [Word.digits, if_neg (by omega), Int.natAbs_natCast]

/-- Integers of fixed width are read if they fit. -/
theorem integer_takes {type : String} (apart : Apart [(type, ())]) {α : Type}
    {ofInt? : Int → Option α} {n : Int} {a : α} (fits : ofInt? n = some a) :
    Takes (do let (value, _) ← integer [(type, ())]; Reader.lift (ofInt? value))
      (Word.digits n) a where
  reads rest ended := by
    rw [Reader.bind_of_run (integer_reads apart n rest ended)]
    dsimp only
    rw [fits]
    rfl
  begins := digits_begins n

theorem uint32_takes (n : UInt32) : Takes uint32 (Nat.toDigits 10 n.toNat) n := by
  rw [toDigits_eq_digits]
  exact integer_takes (by decide) (Word.uint32?_toNat n)

theorem uint64_takes (n : UInt64) : Takes uint64 (Nat.toDigits 10 n.toNat) n := by
  rw [toDigits_eq_digits]
  exact integer_takes (by decide) (Word.uint64?_toNat n)

theorem int32_takes (n : Int32) : Takes int32 (Word.digits n.toInt) n :=
  integer_takes (by decide) (Word.int32?_toInt n)

/-! ## Truth values -/

theorem readBool_takes (value : Bool) :
    Takes readBool (if value then "true".toList else "false".toList) value where
  reads rest ended := by
    have found : acceptOneOf? [("true", true), ("false", false)]
        ((if value then "true".toList else "false".toList) ++ rest) = some (some value, rest) := by
      cases value with
      | true => exact acceptOneOf?_found ended
      | false =>
          have passed : ∀ word ∈ [("true", true)],
              word.1.toList.isPrefixOf ("false".toList ++ rest) = false := by
            rw [List.forall_mem_singleton]
            rfl
          exact (acceptOneOf?_append passed [("false", false)]).trans (acceptOneOf?_found ended)
    rw [readBool, Reader.bind_of_run found]
    rfl
  begins := by cases value <;> exact ⟨_, _, rfl, by decide⟩

/-! ## Numbers with a point -/

section Spelled

variable {spelling : Spelling} (sound : spelling.Sound)

include sound

theorem decimal_text :
    decimal.runAll spelling.text = some (spelling.negative, spelling.decimal) := by
  have sign_run : Digits.sign spelling.text = some (spelling.negative,
      spelling.whole ++
        (Spelling.fractionText spelling.fraction? ++ Digits.exponentText spelling.exponent?)) := by
    rw [Spelling.text]
    cases spelling.negative with
    | true => exact Digits.sign_minus _
    | false =>
        exact Digits.sign_of_head?_ne (sound.whole.head?_ne rfl _) (sound.whole.head?_ne rfl _)
  have no_digit := Spelling.head?_fractionText_digit spelling.fraction? spelling.exponent?
  have whole_run := Reader.takeWhile_append sound.whole.all no_digit
  have exponent_run := Digits.exponent?_text spelling.exponent?
  have nonempty : (spelling.whole ++ spelling.fraction?.getD []).isEmpty = false := by
    simp [sound.whole.nonempty]
  have run : decimal spelling.text = some ((spelling.negative, spelling.decimal), []) := by
    rw [decimal, Reader.bind_of_run sign_run, Reader.bind_of_run whole_run]
    cases fraction_eq : spelling.fraction? with
    | none =>
        have no_point : Reader.accept '.' (Digits.exponentText spelling.exponent?) =
            some (false, Digits.exponentText spelling.exponent?) := by
          cases spelling.exponent? <;> rfl
        simp only [Spelling.fractionText, List.nil_append, Reader.bind_of_run no_point,
          Bool.false_eq_true, ↓reduceIte, pure_bind, Reader.bind_of_run exponent_run]
        rw [fraction_eq, Option.getD_none] at nonempty
        simp only [nonempty, Bool.false_eq_true, ↓reduceIte, Reader.pure_run, Spelling.decimal,
          Spelling.digits, fraction_eq, Option.getD_none]
    | some digits =>
        have fraction_run := Reader.takeWhile_append (sound.fraction digits fraction_eq).all
          (Digits.head?_exponentText_digit spelling.exponent?)
        simp only [Spelling.fractionText, List.cons_append,
          Reader.bind_of_run (Reader.accept_cons_self '.' _), ↓reduceIte,
          Reader.bind_of_run fraction_run, Reader.bind_of_run exponent_run]
        rw [fraction_eq, Option.getD_some] at nonempty
        simp only [nonempty, Bool.false_eq_true, ↓reduceIte, Reader.pure_run, Spelling.decimal,
          Spelling.digits, fraction_eq, Option.getD_some]
  rw [Reader.runAll, run]

theorem withoutLowLines?_text : withoutLowLines? false spelling.text = some spelling.text := by
  have no_line : ∀ c ∈ spelling.text, c ≠ '_' := by
    rintro c member rfl
    rcases sound.mem_text member with digit | mark
    · nomatch digit
    · exact absurd mark (by decide)
  generalize spelling.text = text at no_line
  generalize false = allowed
  induction text generalizing allowed with
  | nil => cases allowed <;> rfl
  | cons c text induction =>
      rw [List.forall_mem_cons] at no_line
      rw [withoutLowLines?, if_neg no_line.1, induction no_line.2, induction no_line.2]
      split_ifs <;> rfl

/-- No word for a number begins a number with digits. -/
theorem namedWithTypes_apart (rest : List Char) :
    acceptOneOf? (namedWithTypes ["f32"]) (spelling.text ++ rest) =
      some (none, spelling.text ++ rest) := by
  -- Neither of the first two characters of a word is a digit, but one of a number is.
  have no_digits : ∀ word ∈ namedWithTypes ["f32"],
      word.1.toList.head?.any (fun c => !c.isDigit) = true ∧
        word.1.toList.tail.head?.any (fun c => !c.isDigit) = true := by
    decide
  refine acceptOneOf?_eq_none fun word member => ?_
  obtain ⟨first_letter, second_letter⟩ := no_digits word member
  obtain ⟨digit, later, is_digit, text_eq⟩ := sound.text_begins
  have different {c : Char} (letter : (!c.isDigit) = true) : c ≠ digit := by
    rintro rfl
    rw [is_digit] at letter
    nomatch letter
  rw [text_eq]
  generalize word.1.toList = letters at first_letter second_letter
  rcases letters with - | ⟨c, - | ⟨d, letters⟩⟩
  · nomatch first_letter
  · nomatch second_letter
  · cases spelling.negative with
    | true => simp [List.isPrefixOf, different second_letter]
    | false => simp [List.isPrefixOf, different first_letter]

theorem single_text : Takes single spelling.text
    (Single.ofRank spelling.negative (spelling.decimal.rank .single)) where
  reads rest ended := by
    have characters : ∀ c ∈ spelling.text, isNumberCharacter c = true := by
      intro c member
      rcases sound.mem_text member with digit | mark
      · simp [isNumberCharacter, digit]
      · have checked : ['-', '+', '.', 'e'].all isNumberCharacter = true := rfl
        exact List.all_eq_true.mp checked c mark
    have ends : rest.head?.any isNumberCharacter = false := ended.any_head? rfl
    have characters_run := Reader.takeWhile_append characters ends
    have plain_run : Reader.lift (withoutLowLines? false spelling.text) rest =
        some (spelling.text, rest) := by
      rw [withoutLowLines?_text sound]
      rfl
    have number_run : Reader.lift (decimal.runAll spelling.text) rest =
        some ((spelling.negative, spelling.decimal), rest) := by
      rw [decimal_text sound]
      rfl
    have apart : Apart (["f32"].map fun type => (type, ())) := by decide
    have type_run := acceptOneOf?_of_ended apart ended
    simp only [single, singleWithTypes, Reader.bind_of_run (namedWithTypes_apart sound rest),
      Reader.bind_of_run characters_run, Reader.bind_of_run plain_run,
      Reader.bind_of_run number_run, Reader.bind_of_run type_run, Reader.pure_run]
    rfl
  begins := by
    obtain ⟨c, later, digit, text_eq⟩ := sound.text_begins
    rw [text_eq]
    cases spelling.negative with
    | true => exact ⟨'-', _, rfl, by decide⟩
    | false => exact ⟨c, later, rfl, opens_of_isDigit digit⟩

end Spelled

/-! ## Single-precision numbers -/

theorem single_writes {spelling : Spelling} {d : Decimal} {text : List Char}
    (writes : spelling.Writes d text) (negative : Bool) :
    Takes single ((if negative then ['-'] else []) ++ text)
      (Single.ofRank negative (d.rank .single)) := by
  have takes := single_text (writes.sound.withSign negative)
  have decimal_eq : (spelling.withSign negative).decimal = d := writes.decimal_eq
  rw [writes.text_withSign, decimal_eq] at takes
  exact takes

theorem single_infinity (negative : Bool) :
    Takes single ((if negative then ['-'] else []) ++ ['i', 'n', 'f'])
      (Single.ofRank negative Precision.single.infinity) where
  reads rest ended := by
    have found : acceptOneOf? (namedWithTypes ["f32"])
        ((if negative then ['-'] else []) ++ ['i', 'n', 'f'] ++ rest) =
          some (some (Single.ofRank negative Precision.single.infinity), rest) := by
      cases negative with
      | false => exact acceptOneOf?_found ended
      | true =>
          have opposite : -Single.ofRank false Precision.single.infinity =
              Single.ofRank true Precision.single.infinity := by
            decide +kernel
          have other_signs : ∀ word ∈ (namedWithTypes ["f32"]).take 4,
              word.1.toList.head?.any (· ≠ '-') = true := by
            decide
          have passed : ∀ word ∈ (namedWithTypes ["f32"]).take 4,
              word.1.toList.isPrefixOf ("-inf".toList ++ rest) = false := by
            intro word member
            have other_sign := other_signs word member
            generalize word.1.toList = letters at other_sign
            cases letters with
            | nil => nomatch other_sign
            | cons c letters =>
                have different : c ≠ '-' := by simpa using other_sign
                simp [List.isPrefixOf, different]
          have skipped := acceptOneOf?_append passed ((namedWithTypes ["f32"]).drop 4)
          rw [List.take_append_drop] at skipped
          rw [← opposite]
          exact skipped.trans (acceptOneOf?_found ended)
    rw [single, singleWithTypes, Reader.bind_of_run found]
    rfl
  begins := by cases negative <;> exact ⟨_, _, rfl, by decide⟩

/-- A number that is finite or infinite reads back bit for bit. -/
theorem single_takes {x : Float32} (numeric : Single.Numeric x) :
    Takes single (writeSingle x) x := by
  have x_eq := Single.ofRank_rank x
  simp only [writeSingle, if_neg (Nat.not_lt.mpr numeric)]
  by_cases infinite : Single.rank x = Precision.single.infinity
  · have takes := single_infinity (Single.isNegative x)
    rw [← infinite, x_eq] at takes
    rw [if_pos infinite]
    exact takes
  · rw [if_neg infinite]
    by_cases zero : Single.rank x = 0
    · have takes := single_writes Spelling.writes_zero (Single.isNegative x)
      rw [show Decimal.rank .single ⟨0, -1⟩ = Single.rank x from zero.symm, x_eq] at takes
      rw [if_pos zero]
      exact takes
    · have finite : Single.rank x < Precision.single.infinity := Nat.lt_of_le_of_ne numeric infinite
      have back := Decimal.shortest_readsBack .up (Single.rank x) finite
      rw [if_neg zero]
      simp only [positionalOfRank]
      generalize Decimal.shortest .up (Single.rank x) = d at back
      obtain ⟨spelling, written, writes, same | ⟨whole, longer⟩⟩ :=
        Spelling.exists_writes_positional (back.digits_pos (Nat.pos_of_ne_zero zero))
      · have takes := single_writes writes (Single.isNegative x)
        rw [same, back.rank_eq, x_eq] at takes
        exact takes
      · have takes := single_writes writes (Single.isNegative x)
        rw [longer, back.rank_whole whole, x_eq] at takes
        exact takes

end Ron
end TextureGraph
