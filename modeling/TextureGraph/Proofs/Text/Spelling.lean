import TextureGraph.Number.Decimal
import TextureGraph.Proofs.Text.Digits

/-!
# Written decimals

A written number consists of a sign, digits before and after the point and an exponent.  The
positional and the scientific layout of a decimal are such spellings, and they stand for the decimal
itself, except that a whole number gets one more zero.
-/

namespace TextureGraph

/-- The parts of a number with a point or an exponent, or of an integer without either. -/
structure Spelling where
  /-- Whether a minus sign stands in front. -/
  negative : Bool
  /-- The digits before the point. -/
  whole : List Char
  /-- The digits after the point, if there is one. -/
  fraction? : Option (List Char)
  /-- The exponent, if there is one. -/
  exponent? : Option Int

namespace Spelling

/-- The point and the digits after it, if there are any. -/
def fractionText : Option (List Char) → List Char
  | none => []
  | some digits => '.' :: digits

theorem head?_fractionText_digit (fraction? : Option (List Char)) (exponent? : Option Int) :
    (fractionText fraction? ++ Digits.exponentText exponent?).head?.any Char.isDigit = false := by
  cases fraction? with
  | none => exact Digits.head?_exponentText_digit exponent?
  | some digits => rfl

/-- The written number. -/
def text (spelling : Spelling) : List Char :=
  (if spelling.negative then ['-'] else []) ++
    (spelling.whole ++ (fractionText spelling.fraction? ++ Digits.exponentText spelling.exponent?))

/-- All digits. -/
def digits (spelling : Spelling) : List Char :=
  spelling.whole ++ spelling.fraction?.getD []

/-- The decimal that the digits and the exponent stand for. -/
def decimal (spelling : Spelling) : Decimal :=
  ⟨decimalNumber spelling.digits,
    spelling.exponent?.getD 0 - (spelling.fraction?.getD []).length⟩

/-- Digits stand on both sides of a point, and a zero begins the number only if it stands alone
before the point. -/
structure Sound (spelling : Spelling) : Prop where
  whole : Digits.Sound spelling.whole
  lead : spelling.whole.head? = some '0' → spelling.whole = ['0']
  fraction : ∀ digits, spelling.fraction? = some digits → Digits.Sound digits

theorem Sound.mem_text {spelling : Spelling} (sound : spelling.Sound) {c : Char}
    (member : c ∈ spelling.text) : c.isDigit = true ∨ c ∈ ['-', '+', '.', 'e'] := by
  rw [text, List.mem_append, List.mem_append, List.mem_append] at member
  rcases member with sign | whole | fraction | exponent
  · split_ifs at sign
    · exact .inr (List.mem_cons.mpr (.inl (List.mem_singleton.mp sign)))
    · nomatch sign
  · exact .inl (sound.whole.all c whole)
  · cases fraction_eq : spelling.fraction? with
    | none =>
        rw [fraction_eq] at fraction
        nomatch fraction
    | some digits =>
        rw [fraction_eq, fractionText, List.mem_cons] at fraction
        rcases fraction with rfl | digit
        · exact .inr (by simp)
        · exact .inl ((sound.fraction digits fraction_eq).all c digit)
  · cases exponent_eq : spelling.exponent? with
    | none =>
        rw [exponent_eq] at exponent
        nomatch exponent
    | some value =>
        rw [exponent_eq, Digits.exponentText, List.mem_append, List.mem_cons,
          List.mem_singleton] at exponent
        rcases exponent with (rfl | rfl) | digit
        · exact .inr (by simp)
        · exact .inr (by split_ifs <;> simp)
        · exact .inl ((Digits.sound_toDigits _).all c digit)

theorem Sound.text_begins {spelling : Spelling} (sound : spelling.Sound) :
    ∃ c later, c.isDigit = true ∧
      spelling.text = (if spelling.negative then ['-'] else []) ++ c :: later := by
  obtain ⟨c, digits, whole_eq⟩ := List.exists_cons_of_ne_nil sound.whole.nonempty
  refine ⟨c, _, sound.whole.all c ?_, by rw [text, whole_eq, List.cons_append]⟩
  rw [whole_eq]
  exact List.mem_cons_self

/-- The spelling of an integer. -/
def ofInt (n : Int) : Spelling :=
  ⟨decide (n < 0), Nat.toDigits 10 n.natAbs, none, none⟩

theorem lead_toDigits (n : Nat) (zero : (Nat.toDigits 10 n).head? = some '0') :
    Nat.toDigits 10 n = ['0'] := by
  rcases Nat.eq_zero_or_pos n with rfl | positive
  · rfl
  · exact absurd zero (head?_toDigits_ne_zero positive)

theorem sound_ofInt (n : Int) : (ofInt n).Sound where
  whole := Digits.sound_toDigits n.natAbs
  lead := lead_toDigits n.natAbs
  fraction _ none_eq := nomatch none_eq

/-- The spelling with a sign. -/
def withSign (spelling : Spelling) (negative : Bool) : Spelling :=
  { spelling with negative }

theorem Sound.withSign {spelling : Spelling} (sound : spelling.Sound) (negative : Bool) :
    (spelling.withSign negative).Sound :=
  ⟨sound.whole, sound.lead, sound.fraction⟩

/-- A number without a sign but with a point or an exponent, as the text of a decimal. -/
structure Writes (spelling : Spelling) (d : Decimal) (text : List Char) : Prop where
  sound : spelling.Sound
  unsigned : spelling.negative = false
  pointed : (spelling.fraction?.isNone && spelling.exponent?.isNone) = false
  decimal_eq : spelling.decimal = d
  text_eq : spelling.text = text

theorem Writes.text_withSign {spelling : Spelling} {d : Decimal} {text : List Char}
    (writes : spelling.Writes d text) (negative : Bool) :
    (spelling.withSign negative).text = (if negative then ['-'] else []) ++ text := by
  rw [← writes.text_eq, Spelling.text, Spelling.text, writes.unsigned]
  rfl

/-! ## Layouts -/

section Layouts

variable {d : Decimal}

theorem leading_eq (d : Decimal) :
    d.leading (Nat.toDigits 10 d.digits) = d.exponent + (Nat.toDigits 10 d.digits).length - 1 :=
  rfl

theorem writes_below_one (low : d.leading (Nat.toDigits 10 d.digits) < 0) :
    ∃ spelling : Spelling, spelling.Writes d
      (Decimal.positional (Nat.toDigits 10 d.digits) (d.leading (Nat.toDigits 10 d.digits))) := by
  have leading_eq := leading_eq d
  have sound := Digits.sound_toDigits d.digits
  have number_eq := decimalNumber_toDigits d.digits
  generalize Nat.toDigits 10 d.digits = digits at *
  generalize d.leading digits = leading at *
  refine ⟨⟨false, ['0'], some (List.replicate (-leading - 1).toNat '0' ++ digits), none⟩,
    ⟨⟨by simp, by simp⟩, fun _ => rfl, ?_⟩, rfl, rfl, ?_, ?_⟩
  · rintro _ ⟨⟩
    exact sound.zeros_append _
  · have length_eq :
        ((List.replicate (-leading - 1).toNat '0' ++ digits).length : Int) = -d.exponent := by
      rw [List.length_append, List.length_replicate]
      omega
    have zero_eq : decimalNumber ['0'] = 0 := rfl
    simp only [decimal, Spelling.digits, Option.getD_some, Option.getD_none, decimalNumber_append,
      decimalNumber_zeros, zero_eq, number_eq, length_eq, Nat.mul_zero, Nat.zero_add, Int.zero_sub,
      Int.neg_neg]
  · rw [Decimal.positional, if_pos low]
    simp [text, fractionText, Digits.exponentText]

theorem writes_whole (positive : 0 < d.digits) (whole : 0 ≤ d.exponent) :
    ∃ spelling : Spelling, spelling.Writes ⟨d.digits * 10 ^ d.exponent.toNat * 10, -1⟩
      (Decimal.positional (Nat.toDigits 10 d.digits) (d.leading (Nat.toDigits 10 d.digits))) := by
  have leading_eq := leading_eq d
  have sound := Digits.sound_toDigits d.digits
  have number_eq := decimalNumber_toDigits d.digits
  have no_zero := head?_toDigits_ne_zero positive
  generalize Nat.toDigits 10 d.digits = digits at *
  generalize d.leading digits = leading at *
  have length_pos := List.length_pos_iff.mpr sound.nonempty
  have zeros_eq : leading.toNat + 1 - digits.length = d.exponent.toNat := by omega
  refine ⟨⟨false, digits ++ List.replicate d.exponent.toNat '0', some ['0'], none⟩,
    ⟨sound.append_zeros _, ?_, ?_⟩, rfl, rfl, ?_, ?_⟩
  · intro zero
    rw [List.head?_append_of_ne_nil _ sound.nonempty] at zero
    exact absurd zero no_zero
  · rintro _ ⟨⟩
    exact ⟨by simp, by simp⟩
  · have zero_eq : decimalNumber ['0'] = 0 := rfl
    simp only [decimal, Spelling.digits, Option.getD_some, Option.getD_none, decimalNumber_append,
      decimalNumber_zeros, zero_eq, number_eq, List.length_replicate, List.length_singleton]
    simp [Nat.mul_comm]
  · rw [Decimal.positional, if_neg (by omega), if_pos (by omega), zeros_eq]
    simp [text, fractionText, Digits.exponentText]

theorem writes_inside (positive : 0 < d.digits) (high : 0 ≤ d.leading (Nat.toDigits 10 d.digits))
    (fine : d.exponent < 0) :
    ∃ spelling : Spelling, spelling.Writes d
      (Decimal.positional (Nat.toDigits 10 d.digits) (d.leading (Nat.toDigits 10 d.digits))) := by
  have leading_eq := leading_eq d
  have sound := Digits.sound_toDigits d.digits
  have number_eq := decimalNumber_toDigits d.digits
  have no_zero := head?_toDigits_ne_zero positive
  generalize Nat.toDigits 10 d.digits = digits at *
  generalize d.leading digits = leading at *
  have short : leading.toNat + 1 < digits.length := by omega
  refine ⟨⟨false, digits.take (leading.toNat + 1), some (digits.drop (leading.toNat + 1)), none⟩,
    ⟨sound.take (Nat.succ_pos _), ?_, ?_⟩, rfl, rfl, ?_, ?_⟩
  · intro zero
    rw [List.head?_take, if_neg (Nat.succ_ne_zero _)] at zero
    exact absurd zero no_zero
  · rintro _ ⟨⟩
    exact sound.drop short
  · have length_eq : ((digits.drop (leading.toNat + 1)).length : Int) = -d.exponent := by
      rw [List.length_drop]
      omega
    simp only [decimal, Spelling.digits, Option.getD_some, Option.getD_none,
      List.take_append_drop, number_eq, length_eq, Int.zero_sub, Int.neg_neg]
  · rw [Decimal.positional, if_neg (by omega), if_neg (by omega)]
    simp [text, fractionText, Digits.exponentText]

/-- The positional layout of a decimal is a spelling of it or, for a whole number, of the decimal
with one more zero. -/
theorem exists_writes_positional (positive : 0 < d.digits) :
    ∃ (spelling : Spelling) (written : Decimal),
      spelling.Writes written
        (Decimal.positional (Nat.toDigits 10 d.digits) (d.leading (Nat.toDigits 10 d.digits))) ∧
      (written = d ∨ 0 ≤ d.exponent ∧
        written = ⟨d.digits * 10 ^ d.exponent.toNat * 10, -1⟩) := by
  by_cases fine : d.exponent < 0
  · by_cases low : d.leading (Nat.toDigits 10 d.digits) < 0
    · obtain ⟨spelling, writes⟩ := writes_below_one low
      exact ⟨spelling, _, writes, .inl rfl⟩
    · obtain ⟨spelling, writes⟩ := writes_inside positive (Int.not_lt.mp low) fine
      exact ⟨spelling, _, writes, .inl rfl⟩
  · obtain ⟨spelling, writes⟩ := writes_whole positive (Int.not_lt.mp fine)
    exact ⟨spelling, _, writes, .inr ⟨Int.not_lt.mp fine, rfl⟩⟩

/-- The scientific layout of a decimal is a spelling of it. -/
theorem exists_writes_scientific (positive : 0 < d.digits) :
    ∃ spelling : Spelling, spelling.Writes d
      (Decimal.scientific (Nat.toDigits 10 d.digits) (d.leading (Nat.toDigits 10 d.digits))) := by
  have leading_eq := leading_eq d
  have sound := Digits.sound_toDigits d.digits
  have number_eq := decimalNumber_toDigits d.digits
  have no_zero := head?_toDigits_ne_zero positive
  generalize Nat.toDigits 10 d.digits = digits at *
  generalize d.leading digits = leading at *
  obtain ⟨first, later, rfl⟩ := List.exists_cons_of_ne_nil sound.nonempty
  have first_sound : Digits.Sound [first] :=
    ⟨by simp, fun c member => sound.all c (List.mem_cons.mpr (.inl (List.mem_singleton.mp member)))⟩
  have lead : [first].head? = some '0' → [first] = ['0'] := by
    rintro ⟨⟩
    rfl
  cases later with
  | nil =>
      refine ⟨⟨false, [first], none, some leading⟩, ⟨first_sound, lead, nofun⟩, rfl, rfl, ?_, ?_⟩
      · have leading_eq_e : leading = d.exponent := by simpa using leading_eq
        simp [decimal, Spelling.digits, number_eq, leading_eq_e]
      · simp [text, fractionText, Digits.exponentText, Decimal.scientific]
  | cons second later =>
      refine ⟨⟨false, [first], some (second :: later), some leading⟩, ⟨first_sound, lead, ?_⟩, rfl,
        rfl, ?_, ?_⟩
      · rintro _ ⟨⟩
        exact ⟨by simp, fun c member => sound.all c (List.mem_cons_of_mem _ member)⟩
      · have exponent_eq : leading - (second :: later).length = d.exponent := by
          rw [List.length_cons] at leading_eq
          omega
        simp only [decimal, Spelling.digits, Option.getD_some, List.singleton_append, number_eq,
          exponent_eq]
      · simp [text, fractionText, Digits.exponentText, Decimal.scientific]

end Layouts

theorem writes_zero : Writes ⟨false, ['0'], some ['0'], none⟩ ⟨0, -1⟩ ['0', '.', '0'] where
  sound := by
    refine ⟨⟨by simp, by simp⟩, fun _ => rfl, ?_⟩
    rintro _ ⟨⟩
    exact ⟨by simp, by simp⟩
  unsigned := rfl
  pointed := rfl
  decimal_eq := rfl
  text_eq := rfl

end Spelling
end TextureGraph
