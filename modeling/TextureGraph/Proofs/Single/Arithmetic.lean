import TextureGraph.Proofs.Single.Value

/-!
# Single-precision arithmetic on rational numbers

Sums, differences, products and quotients of finite numbers are those of the rational numbers,
rounded; negation, the distance from zero and rounding down are exact.  What is not a number stays
so, what is not finite stays not finite, and an infinity has no difference from itself.  `Near`
bounds how far a computed number is from an exact result.
-/

namespace TextureGraph
namespace Single

open Float.Model UnpackedFloat

/-! ## Finite numbers -/

theorem settled_unpack {x : Float32} (finite : x.isFinite = true) :
    Settled x.toModel.unpack ∧ amount x.toModel.unpack = value x := by
  rw [isFinite_iff] at finite
  rcases unpack_cases finite.le with ⟨zero, opened⟩ | ⟨_, _, positive, opened⟩ | ⟨infinite, _⟩
  · rw [opened, value, zero, Precision.value_zero, neg_zero, ite_self]
    exact ⟨trivial, rfl⟩
  · obtain ⟨digits, full⟩ := Precision.level_add_significand (p := .single) (rank x)
    have below := Precision.significand_lt (p := .single) (rank x)
    have binade : Precision.single.binade = 2 ^ 23 := rfl
    rw [opened]
    refine ⟨⟨by omega, ?_, ?_⟩, ?_⟩
    · change (-149 : Int) ≤ -149 + (_ : Nat)
      omega
    · change (-149 + (rank x / Precision.single.binade - 1 : Nat) : Int) = -149 ∨ _
      omega
    · rw [amount_finite, value, Precision.value]
      cases isNegative x
      · rfl
      · change ((-(_ : Int) : Int) : ℚ) * _ = -_
        push_cast
        ring
  · exact absurd infinite finite.ne

section Operations

variable {x y : Float32} (x_finite : x.isFinite = true) (y_finite : y.isFinite = true)
include x_finite

theorem value_neg : (-x).isFinite = true ∧ value (-x) = -value x := by
  obtain ⟨settled, amount_eq⟩ := settled_unpack x_finite
  obtain ⟨settled_neg, amount_neg⟩ := settled.neg
  have rounds : Rounds (-value x) (-x) := by
    rw [← amount_eq, ← amount_neg]
    exact settled_neg.rounds
  refine rounds.exact ((isFinite_iff x).mp x_finite) ?_
  rw [abs_neg, abs_value]

theorem value_abs : x.abs.isFinite = true ∧ value x.abs = |value x| := by
  obtain ⟨settled, amount_eq⟩ := settled_unpack x_finite
  obtain ⟨settled_abs, amount_abs⟩ := settled.abs
  have rounds : Rounds (|value x|) x.abs := by
    rw [← amount_eq, ← amount_abs]
    exact settled_abs.rounds
  refine rounds.exact ((isFinite_iff x).mp x_finite) ?_
  rw [abs_abs, Single.abs_value]

include y_finite

theorem rounds_add : Rounds (value x + value y) (x + y) := by
  obtain ⟨x_settled, x_amount⟩ := settled_unpack x_finite
  obtain ⟨y_settled, y_amount⟩ := settled_unpack y_finite
  rw [← x_amount, ← y_amount]
  exact rounds_add_settled x_settled y_settled

theorem rounds_sub : Rounds (value x - value y) (x - y) := by
  obtain ⟨x_settled, x_amount⟩ := settled_unpack x_finite
  obtain ⟨y_settled, y_amount⟩ := settled_unpack y_finite
  obtain ⟨neg_settled, neg_amount⟩ := y_settled.neg
  have opened : x - y = packed (UnpackedFloat.sub .binary32 x.toModel.unpack y.toModel.unpack) :=
    rfl
  rw [← x_amount, ← y_amount, sub_eq_add_neg, ← neg_amount, opened, sub_eq_add_negated]
  exact rounds_add_settled x_settled neg_settled

theorem rounds_mul : Rounds (value x * value y) (x * y) := by
  obtain ⟨x_settled, x_amount⟩ := settled_unpack x_finite
  obtain ⟨y_settled, y_amount⟩ := settled_unpack y_finite
  rw [← x_amount, ← y_amount]
  exact rounds_mul_settled x_settled y_settled

theorem rounds_div (nonzero : value y ≠ 0) : Rounds (value x / value y) (x / y) := by
  obtain ⟨x_settled, x_amount⟩ := settled_unpack x_finite
  obtain ⟨y_settled, y_amount⟩ := settled_unpack y_finite
  rw [← y_amount] at nonzero
  rw [← x_amount, ← y_amount]
  exact rounds_div_settled x_settled y_settled nonzero

end Operations

/-! ## What is not a number -/

section NotANumber

variable {x y : Float32}

theorem unpack_of_isNaN (unordered : x.isNaN = true) : x.toModel.unpack = .notANumber := by
  rw [unpack_eq, content_of_beyond ((isNaN_iff x).mp unordered)]
  rfl

theorem isNaN_packed : (packed .notANumber).isNaN = true :=
  (isNaN_iff _).mpr (by decide)

theorem isNaN_add (unordered : x.isNaN = true ∨ y.isNaN = true) : (x + y).isNaN = true := by
  change (packed (UnpackedFloat.add .binary32 x.toModel.unpack y.toModel.unpack)).isNaN = true
  rcases unordered with first | second
  · rw [unpack_of_isNaN first]
    exact isNaN_packed
  · rw [unpack_of_isNaN second]
    cases x.toModel.unpack <;> exact isNaN_packed

theorem isNaN_sub (unordered : x.isNaN = true ∨ y.isNaN = true) : (x - y).isNaN = true := by
  change (packed (UnpackedFloat.sub .binary32 x.toModel.unpack y.toModel.unpack)).isNaN = true
  rcases unordered with first | second
  · rw [unpack_of_isNaN first]
    exact isNaN_packed
  · rw [unpack_of_isNaN second]
    cases x.toModel.unpack <;> exact isNaN_packed

theorem isNaN_mul (unordered : x.isNaN = true ∨ y.isNaN = true) : (x * y).isNaN = true := by
  change (packed (UnpackedFloat.mul .binary32 x.toModel.unpack y.toModel.unpack)).isNaN = true
  rcases unordered with first | second
  · rw [unpack_of_isNaN first]
    exact isNaN_packed
  · rw [unpack_of_isNaN second]
    cases x.toModel.unpack <;> exact isNaN_packed

/-- An infinity has no difference from itself. -/
theorem isNaN_sub_self (not_finite : x.isFinite = false) : (x - x).isNaN = true := by
  cases number : x.isNaN with
  | true => exact isNaN_sub (.inl number)
  | false =>
      rw [← Bool.not_eq_true, isFinite_iff] at not_finite
      rw [← Bool.not_eq_true, isNaN_iff] at number
      rcases unpack_cases (not_lt.mp number) with ⟨zero, _⟩ | ⟨_, finite, _⟩ | ⟨_, opened⟩
      · exact absurd (zero ▸ by decide) not_finite
      · exact absurd finite not_finite
      · change (packed (UnpackedFloat.sub .binary32 x.toModel.unpack x.toModel.unpack)).isNaN = true
        rw [opened]
        cases isNegative x <;> exact isNaN_packed

end NotANumber

/-! ## What is not finite -/

section NotFinite

variable {x y : Float32}

theorem not_finite_packed {result : UnpackedFloat} (not_finite : result.isFinite = false) :
    (packed result).isFinite = false := by
  cases result with
  | notANumber => decide +kernel
  | infinity sign => cases sign <;> decide +kernel
  | zero sign => cases not_finite
  | finite sign m e positive => cases not_finite

theorem not_finite_add (not_finite : y.isFinite = false) : (x + y).isFinite = false := by
  change y.toModel.unpack.isFinite = false at not_finite
  change (packed (UnpackedFloat.add .binary32 x.toModel.unpack y.toModel.unpack)).isFinite = false
  apply not_finite_packed
  generalize x.toModel.unpack = a, y.toModel.unpack = b at not_finite ⊢
  cases b with
  | notANumber => cases a <;> rfl
  | infinity sign =>
      cases a with
      | infinity sign' => cases sign <;> cases sign' <;> rfl
      | _ => rfl
  | zero sign => cases not_finite
  | finite sign m e positive => cases not_finite

theorem not_finite_mul (not_finite : x.isFinite = false) : (x * y).isFinite = false := by
  change x.toModel.unpack.isFinite = false at not_finite
  change (packed (UnpackedFloat.mul .binary32 x.toModel.unpack y.toModel.unpack)).isFinite = false
  apply not_finite_packed
  generalize x.toModel.unpack = a, y.toModel.unpack = b at not_finite ⊢
  cases a with
  | notANumber => rfl
  | infinity sign => cases b <;> rfl
  | zero sign => cases not_finite
  | finite sign m e positive => cases not_finite

/-- Nothing has a finite quotient by zero. -/
theorem not_finite_div_zero (zero : value y = 0) : (x / y).isFinite = false := by
  replace zero : rank y = 0 := by
    have size := abs_value y
    rw [zero, abs_zero, ← Precision.value_zero (p := .single)] at size
    exact (Precision.value_strictMono.injective size).symm
  change (packed (UnpackedFloat.div .binary32 x.toModel.unpack y.toModel.unpack)).isFinite = false
  apply not_finite_packed
  have opened : y.toModel.unpack = .zero (signOf (isNegative y)) := by
    have infinity_pos : 0 < Precision.single.infinity := by decide
    rcases unpack_cases (zero ▸ Nat.zero_le _) with ⟨_, opened⟩ | ⟨positive, _⟩ | ⟨infinite, _⟩
    · exact opened
    · omega
    · omega
  rw [opened]
  cases x.toModel.unpack <;> rfl

/-- Only finite numbers are nearer to zero than some finite number. -/
theorem isFinite_of_abs_lt (finite : y.isFinite = true) (less : x.abs < y) :
    x.isFinite = true := by
  by_contra not_finite
  obtain ⟨abs_number, y_number⟩ := number_of_lt less
  rw [Bool.not_eq_true] at not_finite
  change x.toModel.unpack.isFinite = false at not_finite
  have stored : x.abs = packed x.toModel.unpack.abs := rfl
  rw [lt_iff_place abs_number y_number, place, place, signed, signed] at less
  rw [isFinite_iff] at finite
  rw [stored] at less abs_number
  generalize x.toModel.unpack = a at *
  cases a with
  | notANumber => exact absurd isNaN_packed (Bool.eq_false_iff.mp abs_number)
  | infinity sign =>
      have infinite : rank (packed (.infinity .positive)) = Precision.single.infinity ∧
          isNegative (packed (.infinity .positive)) = false := by
        decide +kernel
      change (if isNegative (packed (.infinity .positive)) = true then _ else
        (rank (packed (.infinity .positive)) : Int)) < _ at less
      rw [infinite.1, infinite.2] at less
      split_ifs at less <;> omega
  | zero sign => cases not_finite
  | finite sign m e positive => cases not_finite

end NotFinite

/-! ## Rounding down -/

theorem floor_of_not_finite {x : Float32} (not_finite : x.isFinite = false) : floor x = x := by
  rw [← Bool.not_eq_true, isFinite_iff, not_lt] at not_finite
  rw [floor]
  rcases not_finite.lt_or_eq with beyond | infinite
  · rw [content_of_beyond beyond]
  · rw [content_of_infinite infinite.symm]

theorem value_ofNat {n : Nat} (short : n ≤ 2 ^ 23) :
    (Float32.ofNat n).isFinite = true ∧ value (Float32.ofNat n) = n := by
  rcases short.lt_or_eq with below | rfl
  · have whole : Short n := short_intCast (n := n) (by omega)
    have converted : (UInt64.ofNat n).toNat = n := by
      rw [UInt64.toNat_ofNat']
      omega
    have one : content Float32.exactlyRepresentablePowersOfTen[0] =
        .finite false (2 ^ 23) (-23) := by
      decide +kernel
    obtain ⟨one_finite, one_eq⟩ := value_of_content one
    have rounds := rounds_normalize (UInt64.ofNat n).toNat 0 .positive
    rw [converted, zpow_zero, mul_one, Int.cast_natCast] at rounds
    obtain ⟨finite, value_eq⟩ := rounds.of_short whole
    have opened : Float32.ofNat n =
        packed (UnpackedFloat.normalize .binary32 (UInt64.ofNat n).toNat 0 .positive) *
          Float32.exactlyRepresentablePowersOfTen[0] :=
      dif_pos ⟨below, by decide⟩
    have product := rounds_mul finite one_finite
    have unit : value Float32.exactlyRepresentablePowersOfTen[0] = 1 := by
      rw [one_eq]
      norm_num [signed]
    rw [value_eq, unit, mul_one] at product
    rw [opened, converted]
    exact product.of_short whole
  · have limit : content (Float32.ofNat (2 ^ 23)) = .finite false (2 ^ 23) 0 := by
      decide +kernel
    obtain ⟨finite, value_eq⟩ := value_of_content limit
    refine ⟨finite, value_eq.trans ?_⟩
    norm_num [signed]

theorem value_ofInt {n : Int} (short : n.natAbs ≤ 2 ^ 23) :
    (Float32.ofInt n).isFinite = true ∧ value (Float32.ofInt n) = n := by
  cases n with
  | ofNat n =>
      obtain ⟨finite, value_eq⟩ := value_ofNat (n := n) short
      exact ⟨finite, value_eq⟩
  | negSucc n =>
      obtain ⟨finite, value_eq⟩ := value_ofNat (n := n + 1) short
      obtain ⟨finite_neg, neg_eq⟩ := value_neg finite
      refine ⟨finite_neg, ?_⟩
      change value (-Float32.ofNat (n + 1)) = _
      rw [neg_eq, value_eq]
      push_cast
      ring

/-- The whole number below a finite number is a finite number. -/
theorem value_floor {x : Float32} (finite : x.isFinite = true) :
    (floor x).isFinite = true ∧ value (floor x) = ⌊value x⌋ := by
  have opened := content_of_finite ((isFinite_iff x).mp finite)
  obtain ⟨-, value_eq⟩ := value_of_content opened
  have short := Precision.significand_lt (p := .single) (rank x)
  have binade : Precision.single.binade = 2 ^ 23 := rfl
  rw [floor, opened]
  dsimp only
  set significand := Precision.single.significand (rank x)
  set exponent := Precision.single.exponent (rank x)
  split_ifs with whole
  · refine ⟨finite, ?_⟩
    obtain ⟨n, n_eq⟩ : ∃ n : Int, value x = n := by
      rcases whole with nonneg | zero
      · obtain ⟨e, e_eq⟩ := Int.eq_ofNat_of_zero_le nonneg
        refine ⟨signed (isNegative x) significand * 2 ^ e, ?_⟩
        rw [value_eq, e_eq]
        push_cast
        rfl
      · refine ⟨0, ?_⟩
        rw [value_eq, zero]
        simp [signed]
    rw [n_eq, Int.floor_intCast]
  · have fraction : exponent ≤ -1 := by omega
    have floor_eq : floorParts (isNegative x) significand exponent = ⌊value x⌋ := by
      have ratio := binaryRatio_eq significand exponent
      rw [floorParts, ← Rat.floor_intCast_div_natCast, value_eq]
      congr 1
      rw [signed, signed]
      split_ifs
      · push_cast
        rw [neg_div, ratio, neg_mul]
      · exact ratio
    have bounded : |value x| ≤ 2 ^ 23 := by
      have digits : (significand : ℚ) ≤ 2 ^ 24 := by exact_mod_cast short.le
      have half : (2 : ℚ) ^ exponent ≤ 2 ^ (-1 : Int) := zpow_le_zpow_right₀ one_le_two fraction
      calc
        |value x| = significand * 2 ^ exponent := abs_value x
        _ ≤ 2 ^ 24 * 2 ^ (-1 : Int) := by gcongr
        _ = 2 ^ 23 := by norm_num
    obtain ⟨low, high⟩ := abs_le.mp bounded
    have floor_low : -2 ^ 23 ≤ ⌊value x⌋ := Int.le_floor.mpr (by exact_mod_cast low)
    have floor_high : ⌊value x⌋ ≤ 2 ^ 23 := by
      have := (Int.floor_le (value x)).trans high
      exact_mod_cast this
    rw [floor_eq]
    exact value_ofInt (by omega)

/-! ## Distance from an exact result -/

/-- A finite number within a distance of an exact result. -/
structure Near (error q : ℚ) (x : Float32) : Prop where
  finite : x.isFinite = true
  close : |value x - q| ≤ error

theorem near_value {x : Float32} (finite : x.isFinite = true) : Near 0 (value x) x :=
  ⟨finite, by rw [sub_self, abs_zero]⟩

/-- A literal is exact when its parts give the number it denotes. -/
theorem near_literal {x : Float32} {q : ℚ} (significand : Nat) (exponent : Int)
    (content_eq : content x = .finite false significand exponent)
    (value_eq : significand * 2 ^ exponent = q) : Near 0 q x := by
  obtain ⟨finite, eq⟩ := value_of_content content_eq
  exact value_eq ▸ eq ▸ near_value finite

theorem near_zero : Near 0 0 (0.0 : Float32) :=
  near_literal 0 (-149) (by decide +kernel) (by norm_num)

theorem near_half : Near 0 (1 / 2) (0.5 : Float32) :=
  near_literal (2 ^ 23) (-24) (by decide +kernel) (by norm_num)

theorem near_one : Near 0 1 (1.0 : Float32) :=
  near_literal (2 ^ 23) (-23) (by decide +kernel) (by norm_num)

theorem near_tenThousandth : Near 0 (13743895 / 2 ^ 37) (0.0001 : Float32) :=
  near_literal 13743895 (-37) (by decide +kernel) (by norm_num)

namespace Near

variable {ε δ q r : ℚ} {x y : Float32}

theorem weaken (near : Near ε q x) (le : ε ≤ δ) : Near δ q x :=
  ⟨near.finite, near.close.trans le⟩

theorem error_nonneg (near : Near ε q x) : 0 ≤ ε :=
  (abs_nonneg _).trans near.close

theorem value_eq (near : Near 0 q x) : value x = q :=
  sub_eq_zero.mp (abs_nonpos_iff.mp near.close)

theorem lt_iff (near : Near 0 q y) (finite : x.isFinite = true) : x < y ↔ value x < q := by
  rw [lt_iff_value finite near.finite, near.value_eq]

theorem gt_iff (near : Near 0 q y) (finite : x.isFinite = true) : y < x ↔ q < value x := by
  rw [lt_iff_value near.finite finite, near.value_eq]

theorem add_exact (near : Near 0 q y) (finite : x.isFinite = true) :
    Rounds (value x + q) (x + y) := by
  have rounds := rounds_add finite near.finite
  rwa [near.value_eq] at rounds

theorem abs_value_le (near : Near ε q x) {bound : ℚ} (within : |q| ≤ bound) :
    |value x| ≤ bound + ε := by
  have split : |value x| ≤ |value x - q| + |q| := by
    have := abs_add_le (value x - q) q
    rwa [sub_add_cancel] at this
  have close := near.close
  linarith

theorem neg (near : Near ε q x) : Near ε (-q) (-x) := by
  obtain ⟨finite, value_eq⟩ := value_neg near.finite
  refine ⟨finite, ?_⟩
  rw [value_eq, neg_sub_neg, abs_sub_comm]
  exact near.close

theorem of_rounds {computed : ℚ} (rounds : Rounds computed x) (close : |computed - q| ≤ ε)
    (within : |computed| ≤ 32) : Near (ε + 1 / 2 ^ 19) q x := by
  obtain ⟨finite, rounded⟩ := rounds.close within
  refine ⟨finite, ?_⟩
  calc
    |value x - q| ≤ |value x - computed| + |computed - q| := abs_sub_le _ _ _
    _ ≤ ε + 1 / 2 ^ 19 := by linarith

section Operations

variable (first : Near ε q x) (second : Near δ r y) {a b : ℚ} (q_le : |q| ≤ a) (r_le : |r| ≤ b)
include first second q_le r_le

theorem add (within : a + ε + (b + δ) ≤ 32) : Near (ε + δ + 1 / 2 ^ 19) (q + r) (x + y) := by
  have x_le := first.abs_value_le q_le
  have y_le := second.abs_value_le r_le
  refine of_rounds (rounds_add first.finite second.finite) ?_ ?_
  · rw [add_sub_add_comm]
    exact (abs_add_le _ _).trans (add_le_add first.close second.close)
  · exact (abs_add_le _ _).trans (by linarith)

theorem sub (within : a + ε + (b + δ) ≤ 32) : Near (ε + δ + 1 / 2 ^ 19) (q - r) (x - y) := by
  have x_le := first.abs_value_le q_le
  have y_le := second.abs_value_le r_le
  refine of_rounds (rounds_sub first.finite second.finite) ?_ ?_
  · rw [sub_sub_sub_comm]
    exact (abs_sub _ _).trans (add_le_add first.close second.close)
  · exact (abs_sub _ _).trans (by linarith)

theorem mul (within : (a + ε) * (b + δ) ≤ 32) :
    Near (ε * b + (a + ε) * δ + 1 / 2 ^ 19) (q * r) (x * y) := by
  have x_le := first.abs_value_le q_le
  have y_le := second.abs_value_le r_le
  have x_bound_nonneg := (abs_nonneg _).trans x_le
  refine of_rounds (rounds_mul first.finite second.finite) ?_ ?_
  · have split : value x * value y - q * r = (value x - q) * r + value x * (value y - r) := by ring
    rw [split]
    refine (abs_add_le _ _).trans (add_le_add ?_ ?_) <;> rw [abs_mul]
    · exact mul_le_mul first.close r_le (abs_nonneg _) first.error_nonneg
    · exact mul_le_mul x_le second.close (abs_nonneg _) x_bound_nonneg
  · rw [abs_mul]
    exact (mul_le_mul x_le y_le (abs_nonneg _) x_bound_nonneg).trans within

end Operations

end Near

/-! ## Sums and differences at the limits -/

section Limits

variable {x y : Float32} (x_finite : x.isFinite = true) (y_finite : y.isFinite = true)
include x_finite y_finite

/-- A change by at most one leads to no infinity. -/
theorem isFinite_add_of_small (small : |value x| ≤ 1 ∨ |value y| ≤ 1) :
    (x + y).isFinite = true := by
  refine (rounds_add x_finite y_finite).isFinite ?_
  have within {z : Float32} (finite : z.isFinite = true) :
      |value z| ≤ Precision.single.value (Precision.single.infinity - 1) := by
    rw [isFinite_iff] at finite
    rw [abs_value]
    exact Precision.value_strictMono.monotone (by omega)
  have last : Precision.single.exponent (Precision.single.infinity - 1) = 104 := by decide
  have half : (1 : ℚ) < 2 ^ (104 : Int) / 2 := by norm_num
  have triangle := abs_add_le (value x) (value y)
  rw [Precision.middle, Precision.gap, last]
  rcases small with x_small | y_small
  · linarith [within y_finite]
  · linarith [within x_finite]

/-- Only equal numbers have the difference zero, since differences are no finer than the finest last
place. -/
theorem sub_beq_zero_iff : (x - y == 0.0) = true ↔ value x = value y := by
  have rounds := rounds_sub x_finite y_finite
  constructor
  · intro equal
    by_contra apart
    obtain ⟨m, m_eq⟩ := exists_multiple (minExponent_le x)
    obtain ⟨n, n_eq⟩ := exists_multiple (minExponent_le y)
    obtain ⟨tiny_finite, tiny_eq⟩ := value_of_content
      (show content (Float32.ofBits 1) = .finite false 1 (-149) by decide +kernel)
    have unit_pos : (0 : ℚ) < 2 ^ (-149 : Int) := zpow_pos two_pos _
    have difference : value x - value y = (m - n : Int) * 2 ^ (-149 : Int) := by
      rw [m_eq, n_eq]
      push_cast
      ring
    have tiny_size : |value (Float32.ofBits 1)| = 2 ^ (-149 : Int) := by
      rw [tiny_eq, abs_of_pos]
      · exact one_mul _
      · exact mul_pos one_pos unit_pos
    have size : |value (Float32.ofBits 1)| ≤ |value x - value y| := by
      have nonzero : m - n ≠ 0 := fun zero => apart (by
        rw [← sub_eq_zero, difference, zero, Int.cast_zero, zero_mul])
      have one_le : (1 : ℚ) ≤ |((m - n : Int) : ℚ)| := by
        exact_mod_cast Int.one_le_abs nonzero
      rw [tiny_size, difference, abs_mul, abs_of_pos unit_pos]
      exact le_mul_of_one_le_left unit_pos.le one_le
    have computed := (rounds_value tiny_finite).abs_mono rounds size
    rw [value_eq_of_beq equal, near_zero.value_eq, abs_zero, tiny_size] at computed
    exact computed.not_gt unit_pos
  · intro same
    rw [same, sub_self] at rounds
    obtain ⟨finite, value_eq⟩ := rounds.of_short short_zero
    rw [beq_iff_value finite near_zero.finite, value_eq, near_zero.value_eq]

end Limits

/-! ## Numbers between bounds -/

/-- A finite number between two bounds. -/
structure Between (low high : ℚ) (x : Float32) : Prop where
  finite : x.isFinite = true
  low_le : low ≤ value x
  le_high : value x ≤ high

/-- Rounding does not leave the range between two short fractions. -/
theorem Rounds.between {q low high : ℚ} {x : Float32} (rounds : Rounds q x)
    (low_short : Short low) (high_short : Short high) (low_le : low ≤ q) (le_high : q ≤ high) :
    Between low high x := by
  have low_le_value := rounds.le_value low_short low_le
  have value_le_high := rounds.value_le high_short le_high
  refine ⟨?_, low_le_value, value_le_high⟩
  obtain ⟨y, y_rounds, y_eq⟩ := low_short.exists_rounds
  obtain ⟨z, z_rounds, z_eq⟩ := high_short.exists_rounds
  have within : |value x| ≤ max |value y| |value z| := by
    rw [y_eq, z_eq]
    exact abs_le_max_abs_abs low_le_value value_le_high
  rcases le_max_iff.mp within with le | le
  · exact isFinite_of_abs_le (y_rounds.of_short low_short).1 le
  · exact isFinite_of_abs_le (z_rounds.of_short high_short).1 le

theorem between_zero : Between 0 1 (0.0 : Float32) :=
  ⟨near_zero.finite, near_zero.value_eq.ge, near_zero.value_eq.trans_le zero_le_one⟩

theorem between_unit_iff {x : Float32} : Between 0 1 x ↔ 0.0 ≤ x ∧ x ≤ 1.0 := by
  constructor
  · intro between
    rw [le_iff_value near_zero.finite between.finite, near_zero.value_eq,
      le_iff_value between.finite near_one.finite, near_one.value_eq]
    exact ⟨between.low_le, between.le_high⟩
  · rintro ⟨low, high⟩
    obtain ⟨zero_number, number⟩ := number_of_le low
    obtain ⟨-, one_number⟩ := number_of_le high
    rw [le_iff_place zero_number number, ← value_le_iff_place, near_zero.value_eq] at low
    rw [le_iff_place number one_number, ← value_le_iff_place, near_one.value_eq] at high
    refine ⟨isFinite_of_abs_le near_one.finite ?_, low, high⟩
    rwa [near_one.value_eq, abs_one, abs_of_nonneg low]

end Single
end TextureGraph
