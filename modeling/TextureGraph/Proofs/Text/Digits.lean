import TextureGraph.Number.Digits
import TextureGraph.Number.Word
import TextureGraph.Proofs.Text.Run
import Mathlib.Algebra.Group.Nat.Defs
import Mathlib.Data.List.Basic

/-!
# Runs of digits

Decimal digits as numbers, how runs of digits, signs and exponents are read, and the integers of
fixed width that a number fits.
-/

namespace TextureGraph

/-! ## The number of digits -/

theorem decimalNumber_eq (digits : List Char) :
    decimalNumber digits = Nat.ofDigitChars 10 digits 0 := by
  rw [decimalNumber, Nat.ofDigitChars_eq_foldl]

theorem decimalNumber_append (first second : List Char) :
    decimalNumber (first ++ second) =
      10 ^ second.length * decimalNumber first + decimalNumber second := by
  rw [decimalNumber_eq, decimalNumber_eq, decimalNumber_eq, Nat.ofDigitChars_append,
    Nat.ofDigitChars_eq_ofDigitChars_zero]

theorem decimalNumber_toDigits (n : Nat) : decimalNumber (Nat.toDigits 10 n) = n := by
  rw [decimalNumber_eq, Nat.ofDigitChars_ten_toDigits]

theorem decimalNumber_zeros (count : Nat) : decimalNumber (List.replicate count '0') = 0 := by
  rw [decimalNumber_eq, Nat.ofDigitChars_replicate_zero, Nat.mul_zero]

/-- A number without leading zeros begins with another digit. -/
theorem head?_toDigits_ne_zero {n : Nat} (positive : 0 < n) :
    (Nat.toDigits 10 n).head? ≠ some '0' := by
  induction n using Nat.strongRecOn with
  | ind n induction =>
      rcases Nat.lt_or_ge n 10 with small | large
      · have checked : ∀ n < 10, 0 < n → (Nat.toDigits 10 n).head? ≠ some '0' := by decide
        exact checked n small positive
      · rw [Nat.toDigits_of_base_le (by decide) large, List.head?_append_of_ne_nil _
          Nat.toDigits_ne_nil]
        exact induction (n / 10) (by omega) (by omega)

namespace Digits

/-- One or more decimal digits. -/
structure Sound (digits : List Char) : Prop where
  nonempty : digits ≠ []
  all : ∀ c ∈ digits, c.isDigit = true

theorem sound_toDigits (n : Nat) : Sound (Nat.toDigits 10 n) where
  nonempty := Nat.toDigits_ne_nil
  all _ member := Nat.isDigit_of_mem_toDigits (by decide) (by decide) member

theorem Sound.append_zeros {digits : List Char} (sound : Sound digits) (count : Nat) :
    Sound (digits ++ List.replicate count '0') where
  nonempty := List.append_ne_nil_of_left_ne_nil sound.nonempty _
  all c member := by
    rcases List.mem_append.mp member with left | right
    · exact sound.all c left
    · rw [List.eq_of_mem_replicate right]
      rfl

theorem Sound.zeros_append {digits : List Char} (sound : Sound digits) (count : Nat) :
    Sound (List.replicate count '0' ++ digits) where
  nonempty := List.append_ne_nil_of_right_ne_nil _ sound.nonempty
  all c member := by
    rcases List.mem_append.mp member with left | right
    · rw [List.eq_of_mem_replicate left]
      rfl
    · exact sound.all c right

theorem Sound.take {digits : List Char} (sound : Sound digits) {count : Nat}
    (positive : 0 < count) : Sound (digits.take count) where
  nonempty := by
    have := List.length_pos_iff.mpr sound.nonempty
    rw [ne_eq, ← List.length_eq_zero_iff, List.length_take]
    omega
  all c member := sound.all c (List.mem_of_mem_take member)

theorem Sound.drop {digits : List Char} (sound : Sound digits) {count : Nat}
    (short : count < digits.length) : Sound (digits.drop count) where
  nonempty := by
    rw [ne_eq, ← List.length_eq_zero_iff, List.length_drop]
    omega
  all c member := sound.all c (List.mem_of_mem_drop member)

theorem Sound.head?_ne {digits : List Char} (sound : Sound digits) {c : Char}
    (other : c.isDigit = false) (rest : List Char) : (digits ++ rest).head? ≠ some c := by
  rw [List.head?_append_of_ne_nil _ sound.nonempty]
  intro head
  have := sound.all c (List.mem_of_head? head)
  simp [other] at this

/-! ## Reading -/

theorem atLeastOne_append {digits rest : List Char} (sound : Sound digits)
    (ends : rest.head?.any Char.isDigit = false) :
    atLeastOne (digits ++ rest) = some (digits, rest) := by
  rw [atLeastOne, Reader.bind_of_run (Reader.takeWhile_append sound.all ends), Reader.ite_run,
    if_neg (by simpa using sound.nonempty), Reader.pure_run]

theorem sign_minus (text : List Char) : sign ('-' :: text) = some (true, text) := by
  rw [sign, Reader.bind_of_run (Reader.accept_cons_self '-' text)]
  rfl

theorem sign_plus (text : List Char) : sign ('+' :: text) = some (false, text) :=
  rfl

theorem sign_of_head?_ne {text : List Char} (no_minus : text.head? ≠ some '-')
    (no_plus : text.head? ≠ some '+') : sign text = some (false, text) := by
  rw [sign, Reader.bind_of_run (Reader.accept_of_head?_ne no_minus), if_neg Bool.false_ne_true,
    Reader.bind_of_run (Reader.accept_of_head?_ne no_plus)]
  rfl

/-- The text of an exponent with its sign, if there is one. -/
def exponentText : Option Int → List Char
  | none => []
  | some exponent =>
      ['e', if exponent < 0 then '-' else '+'] ++ Nat.toDigits 10 exponent.natAbs

theorem signed_natAbs (exponent : Int) :
    Single.signed (decide (exponent < 0)) exponent.natAbs = exponent := by
  rw [Single.signed]
  split_ifs with negative <;> simp only [decide_eq_true_eq] at negative <;> omega

theorem signedExponent_run (exponent : Int) :
    signedExponent ((if exponent < 0 then '-' else '+') :: Nat.toDigits 10 exponent.natAbs) =
      some (exponent, []) := by
  have sign_run :
      sign ((if exponent < 0 then '-' else '+') :: Nat.toDigits 10 exponent.natAbs) =
        some (decide (exponent < 0), Nat.toDigits 10 exponent.natAbs) := by
    by_cases negative : exponent < 0
    · rw [if_pos negative, decide_eq_true negative, sign_minus]
    · rw [if_neg negative, decide_eq_false negative, sign_plus]
  have digits_run : atLeastOne (Nat.toDigits 10 exponent.natAbs ++ []) =
      some (Nat.toDigits 10 exponent.natAbs, []) :=
    atLeastOne_append (sound_toDigits exponent.natAbs) rfl
  rw [List.append_nil] at digits_run
  rw [signedExponent, Reader.bind_of_run sign_run, Reader.bind_of_run digits_run,
    decimalNumber_toDigits, signed_natAbs, Reader.pure_run]

theorem exponent?_text (exponent? : Option Int) :
    Digits.exponent? (exponentText exponent?) = some (exponent?, []) := by
  cases exponent? with
  | none => rfl
  | some exponent =>
      simp only [exponentText, List.cons_append, List.nil_append, Digits.exponent?,
        Reader.bind_of_run (Reader.accept_cons_self 'e' _), ↓reduceIte, pure_bind]
      exact Reader.map_of_run (signedExponent_run exponent)

theorem head?_exponentText_digit (exponent? : Option Int) :
    (exponentText exponent?).head?.any Char.isDigit = false := by
  cases exponent? <;> rfl

end Digits

/-! ## Integers of fixed width -/

namespace Word

theorem uint32?_toNat (n : UInt32) : uint32? n.toNat = some n := by
  have bound := n.toNat_lt
  rw [uint32?, if_pos (by omega), Int.toNat_natCast, UInt32.ofNat_toNat]

theorem uint64?_toNat (n : UInt64) : uint64? n.toNat = some n := by
  have bound := n.toNat_lt
  rw [uint64?, if_pos (by omega), Int.toNat_natCast, UInt64.ofNat_toNat]

theorem int32?_toInt (n : Int32) : int32? n.toInt = some n := by
  have low := n.le_toInt
  have high := n.toInt_lt
  rw [int32?, if_pos (by omega), Int32.ofInt_toInt]

end Word
end TextureGraph
