import Mathlib
import TextureGraph.Number.Single
import TextureGraph.Proofs.Rank

/-!
# The order of single-precision numbers

The bits of a number hold its sign and its rank.  Numbers are compared as integers once the rank is
given the sign: nothing that is not a number compares with anything, the two zeros are equal, and
everything else lies in one line from one infinity to the other.
-/

namespace TextureGraph
namespace Single

open Float.Model

/-! ## Opening the bits -/

/-- The sign of an opened number. -/
def signOf (negative : Bool) : UnpackedFloat.Sign :=
  if negative then .negative else .positive

/-- A content as the arithmetic takes it, with a zero apart from the other finite numbers. -/
def Content.unpacked : Content → UnpackedFloat
  | .notANumber => .notANumber
  | .infinite negative => .infinity (signOf negative)
  | .finite negative significand exponent =>
      if positive : 0 < significand then .finite (signOf negative) significand exponent positive
      else .zero (signOf negative)

section Fields

variable (bits : BitVec 32)

theorem toNat_unpackMantissa :
    (@UnpackedFloat.unpackMantissa .binary32 bits).toNat = bits.toNat % 2 ^ 23 := by
  simp [UnpackedFloat.unpackMantissa]

theorem toNat_unpackExponent :
    (@UnpackedFloat.unpackExponent .binary32 bits).toNat =
      bits.toNat / 2 ^ 23 % 2 ^ 8 := by
  simp [UnpackedFloat.unpackExponent, Nat.shiftRight_eq_div_pow]

theorem ofBitVec_unpackSign :
    UnpackedFloat.Sign.ofBitVec (@UnpackedFloat.unpackSign .binary32 bits) =
      signOf (0x80000000 ≤ bits.toNat) := by
  have below := bits.isLt
  have sign_eq : (@UnpackedFloat.unpackSign .binary32 bits).toNat =
      bits.toNat / 2 ^ 31 := by
    simp [UnpackedFloat.unpackSign, Nat.shiftRight_eq_div_pow]
    omega
  simp only [UnpackedFloat.Sign.ofBitVec, signOf, ← BitVec.toNat_inj, sign_eq, decide_eq_true_eq,
    BitVec.toNat_zero]
  split_ifs with zero high high
  · omega
  · rfl
  · rfl
  · omega

end Fields

theorem rank_lt (x : Float32) : rank x < 2 ^ 31 :=
  Nat.mod_lt _ (by decide)

section Kinds

variable {x : Float32}

theorem content_of_finite (finite : rank x < Precision.single.infinity) :
    content x = .finite (isNegative x) (Precision.single.significand (rank x))
      (Precision.single.exponent (rank x)) :=
  if_pos finite

theorem content_of_infinite (infinite : rank x = Precision.single.infinity) :
    content x = .infinite (isNegative x) := by
  rw [content, infinite]
  rfl

theorem content_of_beyond (beyond : Precision.single.infinity < rank x) :
    content x = .notANumber := by
  dsimp only [content]
  rw [if_neg beyond.le.not_gt, if_neg beyond.ne']

end Kinds

/-- Bits are opened into the content of their number. -/
theorem unpack_eq (x : Float32) : x.toModel.unpack = (content x).unpacked := by
  have sign := ofBitVec_unpackSign x.toBits.toBitVec
  have negative : decide (0x80000000 ≤ x.toBits.toBitVec.toNat) = isNegative x := rfl
  have exponent : (@UnpackedFloat.unpackExponent .binary32 x.toBits.toBitVec).toNat =
      rank x / 2 ^ 23 := by
    rw [toNat_unpackExponent, UInt32.toNat_toBitVec, rank]
    omega
  have mantissa : (@UnpackedFloat.unpackMantissa .binary32 x.toBits.toBitVec).toNat =
      rank x % 2 ^ 23 := by
    rw [toNat_unpackMantissa, UInt32.toNat_toBitVec, rank]
    omega
  have appended : (1#1 ++ @UnpackedFloat.unpackMantissa .binary32
      x.toBits.toBitVec).toNat = 2 ^ 23 + rank x % 2 ^ 23 := by
    rw [BitVec.toNat_append, ← Nat.shiftLeft_add_eq_or_of_lt (BitVec.isLt _), mantissa]
    rfl
  have bias : (Format.exponentBias .binary32 : Int) = 127 := rfl
  have ones : (-1#8).toNat = 255 := rfl
  have infinity : Precision.single.infinity = 255 * 2 ^ 23 := rfl
  have binade : Precision.single.binade = 2 ^ 23 := rfl
  have minExponent : Precision.single.minExponent = -149 := rfl
  have below := rank_lt x
  change UnpackedFloat.unpack .binary32 x.toBits.toBitVec = _
  simp only [UnpackedFloat.unpack, ← BitVec.toNat_inj, exponent, mantissa, appended, sign,
    negative, bias, ones, BitVec.toNat_zero]
  by_cases top : rank x / 2 ^ 23 = 255
  · rw [if_pos top]
    by_cases whole : rank x % 2 ^ 23 = 0
    · rw [if_pos whole, content_of_infinite (by omega)]
      rfl
    · rw [if_neg whole, content_of_beyond (by omega)]
      rfl
  rw [if_neg top, content_of_finite (by omega), Content.unpacked]
  simp only [Precision.significand, Precision.exponent, binade, minExponent]
  by_cases bottom : rank x / 2 ^ 23 = 0
  · simp only [if_pos bottom]
    by_cases zero : rank x % 2 ^ 23 = 0
    · rw [dif_pos zero, dif_neg (by omega)]
    · rw [dif_neg zero, dif_pos (by omega)]
      congr 1
      omega
  · simp only [if_neg bottom]
    rw [dif_pos (by omega)]
    congr 1
    omega

/-- What is a number opens into a zero, another finite number or an infinity. -/
theorem unpack_cases {x : Float32} (number : rank x ≤ Precision.single.infinity) :
    (rank x = 0 ∧ x.toModel.unpack = .zero (signOf (isNegative x))) ∨
      (0 < rank x ∧ rank x < Precision.single.infinity ∧
        ∃ positive, x.toModel.unpack = .finite (signOf (isNegative x))
          (Precision.single.significand (rank x)) (Precision.single.exponent (rank x)) positive) ∨
      (rank x = Precision.single.infinity ∧
        x.toModel.unpack = .infinity (signOf (isNegative x))) := by
  rw [unpack_eq]
  rcases number.lt_or_eq with finite | infinite
  · rw [content_of_finite finite, Content.unpacked]
    rcases Nat.eq_zero_or_pos (rank x) with zero | positive
    · rw [zero]
      exact .inl ⟨rfl, rfl⟩
    · have significand_pos : 0 < Precision.single.significand (rank x) := by
        obtain ⟨digits, normal⟩ := Precision.level_add_significand (p := .single) (rank x)
        have binade_pos := Precision.binade_pos (p := .single)
        rcases normal with first | high
        · rw [first] at digits
          omega
        · omega
      rw [dif_pos significand_pos]
      exact .inr (.inl ⟨positive, finite, significand_pos, rfl⟩)
  · rw [content_of_infinite infinite]
    exact .inr (.inr ⟨infinite, rfl⟩)

theorem isNaN_iff (x : Float32) : x.isNaN = true ↔ Precision.single.infinity < rank x := by
  change x.toModel.unpack.isNaN = true ↔ _
  rcases Nat.lt_or_ge Precision.single.infinity (rank x) with beyond | number
  · rw [unpack_eq, content_of_beyond beyond]
    exact iff_of_true rfl beyond
  · refine iff_of_false ?_ number.not_gt
    rcases unpack_cases number with ⟨_, opened⟩ | ⟨_, _, _, opened⟩ | ⟨_, opened⟩ <;>
      rw [opened] <;> exact Bool.false_ne_true

theorem isFinite_iff (x : Float32) : x.isFinite = true ↔ rank x < Precision.single.infinity := by
  change x.toModel.unpack.isFinite = true ↔ _
  rcases Nat.lt_or_ge Precision.single.infinity (rank x) with beyond | number
  · rw [unpack_eq, content_of_beyond beyond]
    exact iff_of_false Bool.false_ne_true beyond.not_gt
  have infinity_pos : 0 < Precision.single.infinity := by decide
  rcases unpack_cases number with ⟨zero, opened⟩ | ⟨_, finite, _, opened⟩ | ⟨infinite, opened⟩ <;>
    rw [opened]
  · exact iff_of_true rfl (zero ▸ infinity_pos)
  · exact iff_of_true rfl finite
  · exact iff_of_false Bool.false_ne_true infinite.not_lt

/-! ## Places -/

/-- The place of a number among all, from one infinity to the other, with both zeros at zero. -/
def place (x : Float32) : Int :=
  signed (isNegative x) (rank x)

/-- Ranks are ordered by exponent first and significand second. -/
theorem compare_parts (r s : Nat) :
    (compare (Precision.single.exponent r) (Precision.single.exponent s)).then
      (compare (Precision.single.significand r) (Precision.single.significand s)) =
        compare r s := by
  have increasing {r s : Nat} (less : r < s) :
      Precision.single.exponent r < Precision.single.exponent s ∨
        Precision.single.exponent r = Precision.single.exponent s ∧
          Precision.single.significand r < Precision.single.significand s := by
    obtain ⟨digits, -⟩ := Precision.level_add_significand (p := .single) r
    obtain ⟨digits', -⟩ := Precision.level_add_significand (p := .single) s
    have levels : r / Precision.single.binade - 1 ≤ s / Precision.single.binade - 1 :=
      Nat.sub_le_sub_right (Nat.div_le_div_right less.le) 1
    rw [Precision.exponent, Precision.exponent]
    rcases levels.lt_or_eq with lower | same
    · exact .inl (by omega)
    · rw [same] at digits ⊢
      exact .inr ⟨rfl, by omega⟩
  rcases Nat.lt_trichotomy r s with less | rfl | more
  · rw [compare_lt_iff_lt.mpr less]
    rcases increasing less with lower | ⟨same, lower⟩
    · rw [compare_lt_iff_lt.mpr lower]
      rfl
    · rw [compare_eq_iff_eq.mpr same, compare_lt_iff_lt.mpr lower]
      rfl
  · rw [compare_eq_iff_eq.mpr rfl, compare_eq_iff_eq.mpr rfl, compare_eq_iff_eq.mpr rfl]
    rfl
  · rw [compare_gt_iff_gt.mpr more]
    rcases increasing more with lower | ⟨same, lower⟩
    · rw [compare_gt_iff_gt.mpr lower]
      rfl
    · rw [compare_eq_iff_eq.mpr same.symm, compare_gt_iff_gt.mpr lower]
      rfl

theorem compare_cast (r s : Nat) : compare (r : Int) (s : Int) = compare r s := by
  rcases Nat.lt_trichotomy r s with less | rfl | more
  · rw [compare_lt_iff_lt.mpr less, compare_lt_iff_lt.mpr (by omega)]
  · rw [compare_eq_iff_eq.mpr rfl, compare_eq_iff_eq.mpr rfl]
  · rw [compare_gt_iff_gt.mpr more, compare_gt_iff_gt.mpr (by omega)]

theorem compare_negated (r s : Nat) : compare (-r : Int) (-s : Int) = (compare r s).swap := by
  rcases Nat.lt_trichotomy r s with less | rfl | more
  · rw [compare_lt_iff_lt.mpr less, compare_gt_iff_gt.mpr (by omega)]
    rfl
  · rw [compare_eq_iff_eq.mpr rfl, compare_eq_iff_eq.mpr rfl]
    rfl
  · rw [compare_gt_iff_gt.mpr more, compare_lt_iff_lt.mpr (by omega)]
    rfl

section Comparisons

variable {x y : Float32}

/-- What is not a number compares with nothing. -/
theorem compare_eq_none (unordered : x.isNaN = true ∨ y.isNaN = true) :
    x.toModel.unpack.compare y.toModel.unpack = none := by
  rcases unordered with first | second
  · rw [unpack_eq x, content_of_beyond ((isNaN_iff x).mp first)]
    rfl
  · rw [unpack_eq y, content_of_beyond ((isNaN_iff y).mp second)]
    cases x.toModel.unpack <;> rfl

/-- Numbers are compared by their places. -/
theorem compare_unpack (x_number : x.isNaN = false) (y_number : y.isNaN = false) :
    x.toModel.unpack.compare y.toModel.unpack = some (compare (place x) (place y)) := by
  rw [← Bool.not_eq_true, isNaN_iff, not_lt] at x_number y_number
  have infinity_pos : 0 < Precision.single.infinity := by decide
  rw [place, place]
  -- Finite numbers of one sign compare by their parts; all other pairs are told apart by the kinds.
  rcases unpack_cases x_number with ⟨x_rank, x_eq⟩ | ⟨x_pos, x_finite, _, x_eq⟩ | ⟨x_rank, x_eq⟩ <;>
  rcases unpack_cases y_number with ⟨y_rank, y_eq⟩ | ⟨y_pos, y_finite, _, y_eq⟩ | ⟨y_rank, y_eq⟩ <;>
  rw [x_eq, y_eq] <;> cases isNegative x <;> cases isNegative y <;>
  simp only [signOf, signed, Bool.false_eq_true, if_true, if_false, UnpackedFloat.compare,
    Option.some.injEq, compare_parts] <;>
  refine Eq.symm ?_ <;>
  first
  | exact compare_lt_iff_lt.mpr (by omega)
  | exact compare_gt_iff_gt.mpr (by omega)
  | exact compare_eq_iff_eq.mpr (by omega)
  | exact compare_cast _ _
  | exact compare_negated _ _

variable (x y)

theorem lt_iff_compare : x < y ↔ x.toModel.unpack.compare y.toModel.unpack = some .lt := by
  have decided : x < y ↔ decide (x.toModel < y.toModel) = true := Iff.rfl
  have model : x.toModel < y.toModel ↔
      (x.toModel.unpack.compare y.toModel.unpack == some .lt) = true := Iff.rfl
  rw [decided, decide_eq_true_iff, model, beq_iff_eq]

theorem le_iff_compare :
    x ≤ y ↔ ∃ order, x.toModel.unpack.compare y.toModel.unpack = some order ∧ order.isLE := by
  have decided : x ≤ y ↔ decide (x.toModel ≤ y.toModel) = true := Iff.rfl
  have model : x.toModel ≤ y.toModel ↔
      (x.toModel.unpack.compare y.toModel.unpack).any Ordering.isLE = true := Iff.rfl
  rw [decided, decide_eq_true_iff, model]
  cases x.toModel.unpack.compare y.toModel.unpack <;> simp

theorem beq_iff_compare :
    (x == y) = true ↔ x.toModel.unpack.compare y.toModel.unpack = some .eq := by
  have model : (x == y) = true ↔
      (x.toModel.unpack.compare y.toModel.unpack == some .eq) = true := Iff.rfl
  rw [model, beq_iff_eq]

variable {x y}

/-- Only numbers are less than anything, or more. -/
theorem number_of_lt (less : x < y) : x.isNaN = false ∧ y.isNaN = false := by
  by_contra unordered
  rw [lt_iff_compare, compare_eq_none] at less
  · cases less
  · simpa only [not_and_or, Bool.not_eq_false] using unordered

theorem number_of_le (le : x ≤ y) : x.isNaN = false ∧ y.isNaN = false := by
  by_contra unordered
  rw [le_iff_compare, compare_eq_none] at le
  · obtain ⟨_, impossible, _⟩ := le
    cases impossible
  · simpa only [not_and_or, Bool.not_eq_false] using unordered

theorem number_of_beq (equal : (x == y) = true) : x.isNaN = false ∧ y.isNaN = false := by
  by_contra unordered
  rw [beq_iff_compare, compare_eq_none] at equal
  · cases equal
  · simpa only [not_and_or, Bool.not_eq_false] using unordered

section Numbers

variable (x_number : x.isNaN = false) (y_number : y.isNaN = false)
include x_number y_number

theorem lt_iff_place : x < y ↔ place x < place y := by
  rw [lt_iff_compare, compare_unpack x_number y_number, Option.some.injEq, compare_lt_iff_lt]

theorem le_iff_place : x ≤ y ↔ place x ≤ place y := by
  rw [le_iff_compare, compare_unpack x_number y_number]
  simp [Ordering.isLE_iff_ne_gt, compare_gt_iff_gt]

theorem beq_iff_place : (x == y) = true ↔ place x = place y := by
  rw [beq_iff_compare, compare_unpack x_number y_number, Option.some.injEq, compare_eq_iff_eq]

/-- Two numbers are always comparable. -/
theorem le_of_not_lt (not_less : ¬x < y) : y ≤ x := by
  rw [lt_iff_place x_number y_number, not_lt] at not_less
  exact (le_iff_place y_number x_number).mpr not_less

end Numbers

/-- Whatever is not a number differs from itself. -/
theorem beq_self_iff (x : Float32) : (x == x) = true ↔ x.isNaN = false := by
  cases number : x.isNaN with
  | false => exact iff_of_true ((beq_iff_place number number).mpr rfl) rfl
  | true =>
      rw [beq_iff_compare, compare_eq_none (.inl number)]
      exact iff_of_false nofun nofun

end Comparisons

end Single
end TextureGraph
