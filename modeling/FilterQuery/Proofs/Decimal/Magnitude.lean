import FilterQuery.Proofs.Decimal.Shortest

namespace FilterQuery.Decimal

open Binary (Format)

theorem length_digitsOf_pos (n : Nat) : 0 < (digitsOf n).length :=
  List.length_pos_of_ne_nil (digitsOf_ne_nil n)

/-- A number has at most so many digits as the powers of ten above it show. -/
theorem length_digitsOf_le_iff {n count : Nat} (positive : 0 < count) :
    (digitsOf n).length ≤ count ↔ n < 10 ^ count :=
  Nat.length_toDigits_le_iff (by decide) positive

theorem lt_pow_length_digitsOf (n : Nat) : n < 10 ^ (digitsOf n).length :=
  (length_digitsOf_le_iff (length_digitsOf_pos n)).mp le_rfl

theorem pow_pred_length_digitsOf_le {n : Nat} (positive : 0 < n) :
    10 ^ ((digitsOf n).length - 1) ≤ n := by
  by_contra above
  rcases Nat.eq_zero_or_pos ((digitsOf n).length - 1) with single | many
  · rw [single, pow_zero] at above
    omega
  · have shorter := (length_digitsOf_le_iff many).mpr (Nat.lt_of_not_le above)
    omega

/-- The significand is the value in units of its last digit, and the power of ten of the first digit
is known from the number of digits. -/
theorem pow_leadingExponent (decimal : Decimal) :
    (10 : ℚ) ^ decimal.leadingExponent =
      (10 ^ (decimal.digits.length - 1) : Nat) * 10 ^ decimal.exponent := by
  have some : 0 < decimal.digits.length := length_digitsOf_pos _
  have split : decimal.leadingExponent =
      (decimal.digits.length - 1 : Nat) + decimal.exponent := by
    rw [leadingExponent]
    omega
  rw [split, zpow_add₀ (by norm_num), zpow_natCast]
  push_cast
  rfl

variable {decimal : Decimal}

theorem pow_leadingExponent_le (positive : 0 < decimal.significand) :
    10 ^ decimal.leadingExponent ≤ decimal.value := by
  rw [pow_leadingExponent, value]
  have bound : 10 ^ (decimal.digits.length - 1) ≤ decimal.significand :=
    pow_pred_length_digitsOf_le positive
  have cast : ((10 ^ (decimal.digits.length - 1) : Nat) : ℚ) ≤ decimal.significand := by
    exact_mod_cast bound
  exact mul_le_mul_of_nonneg_right cast (by positivity)

theorem value_lt_pow_leadingExponent (decimal : Decimal) :
    decimal.value < 10 ^ (decimal.leadingExponent + 1) := by
  have some : 0 < decimal.digits.length := length_digitsOf_pos _
  have step : 10 ^ (decimal.digits.length - 1) * 10 = 10 ^ decimal.digits.length := by
    rw [← pow_succ, Nat.sub_add_cancel some]
  have bound : decimal.significand < 10 ^ (decimal.digits.length - 1) * 10 := by
    rw [step]
    exact lt_pow_length_digitsOf decimal.significand
  have cast : (decimal.significand : ℚ) < (10 ^ (decimal.digits.length - 1) : Nat) * 10 := by
    exact_mod_cast bound
  rw [zpow_add₀ (by norm_num), zpow_one, pow_leadingExponent, value, mul_right_comm]
  exact mul_lt_mul_of_pos_right cast (by positivity)

/-- A decimal reaches exactly the powers of ten up to that of its first digit. -/
theorem pow_le_value_iff (positive : 0 < decimal.significand) (power : Int) :
    10 ^ power ≤ decimal.value ↔ power ≤ decimal.leadingExponent := by
  constructor
  · intro reached
    have below := reached.trans_lt (value_lt_pow_leadingExponent decimal)
    have order := (zpow_lt_zpow_iff_right₀ (by norm_num : (1 : ℚ) < 10)).mp below
    omega
  · intro order
    exact (zpow_le_zpow_right₀ (by norm_num) order).trans (pow_leadingExponent_le positive)

section Reduced

/-- The significand does not end in a zero. -/
def IsReduced (decimal : Decimal) : Prop := decimal.significand % 10 ≠ 0

/-- All zeros at the end are dropped if the limit leaves no room for more. -/
theorem dropZeros_mod_ne_zero {limit n : Nat} (positive : 0 < n) (bound : n < 10 ^ (limit + 1)) :
    (dropZeros limit n).1 % 10 ≠ 0 := by
  induction limit generalizing n with
  | zero =>
      rw [dropZeros]
      omega
  | succ limit inductionHypothesis =>
      unfold dropZeros
      split
      · apply inductionHypothesis
        · omega
        · rw [pow_succ] at bound
          exact Nat.div_lt_of_lt_mul (by omega)
      · assumption

theorem isReduced_reduce (positive : 0 < decimal.significand) : decimal.reduce.IsReduced := by
  apply dropZeros_mod_ne_zero positive
  calc decimal.significand
    _ < 2 ^ (decimal.significand.log2 + 1) := Nat.lt_log2_self
    _ ≤ 10 ^ (decimal.significand.log2 + 1) := Nat.pow_le_pow_left (by decide) _

/-- Without its last zeros a significand is not greater. -/
theorem significand_reduce_le (decimal : Decimal) :
    decimal.reduce.significand ≤ decimal.significand := by
  have split := eq_dropZeros_mul_pow decimal.significand.log2 decimal.significand
  conv_rhs => rw [split]
  exact Nat.le_mul_of_pos_right _ (Nat.pow_pos (by decide))

/-- The shortest decimal of a magnitude other than zero does not end in a zero. -/
theorem isReduced_shortest (tie : Tie) (format : Format) {code : Nat} (nonzero : code ≠ 0) :
    (shortest tie format code).IsReduced := by
  apply isReduced_reduce
  have positive := significand_shortest_pos tie format nonzero
  exact positive.trans_le (significand_reduce_le _)

end Reduced

/-- If the shortest decimal of a magnitude is a power of ten, then this magnitude separates those
whose shortest decimals reach the power of ten from the others. -/
theorem le_leadingExponent_shortest_iff {tie : Tie} {format : Format} {power : Int}
    {boundary code : Nat} (reached : shortest tie format boundary = ⟨1, power⟩)
    (nonzero : code ≠ 0) :
    power ≤ (shortest tie format code).leadingExponent ↔ boundary ≤ code := by
  have boundaryRounds := rounds_shortest tie format boundary
  have codeRounds := rounds_shortest tie format code
  have exact : (shortest tie format boundary).value = 10 ^ power := by
    rw [reached, value, Nat.cast_one, one_mul]
  rw [exact] at boundaryRounds
  rw [← pow_le_value_iff (significand_shortest_pos tie format nonzero)]
  constructor
  · intro above
    exact boundaryRounds.mono codeRounds above
  · intro order
    by_contra below
    -- A decimal below the power of ten does not round to a greater magnitude.
    have same := codeRounds.mono boundaryRounds (le_of_not_ge below)
    rw [Nat.le_antisymm same order, exact] at below
    exact below le_rfl

end FilterQuery.Decimal
