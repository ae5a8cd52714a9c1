import FilterQuery.Proofs.Number.Integral

namespace FilterQuery

open Decimal (digitsOf)

namespace Binary

variable {format : Format}

/-- What rounds to an odd code is nearer to its magnitude than to every other one. -/
theorem Format.Rounds.abs_sub_lt {number : ℚ} {code other : Nat}
    (rounds : format.Rounds number code) (odd : code % 2 = 1) (different : other ≠ code) :
    |number - format.value code| < |number - format.value other| := by
  obtain ⟨below, above⟩ := rounds.inside odd
  rcases Nat.lt_or_gt_of_ne different with less | greater
  · have start : format.value other ≤ format.value (code - 1) :=
      (value_strictMono format).monotone (by omega)
    have order : format.value other < format.value code := value_strictMono format less
    exact (abs_lt.mpr ⟨by linarith, by linarith⟩).trans_le (le_abs_self _)
  · have stop : format.value (code + 1) ≤ format.value other :=
      (value_strictMono format).monotone (by omega)
    have order : format.value code < format.value other := value_strictMono format greater
    exact (abs_lt.mpr ⟨by linarith, by linarith⟩).trans_le (neg_le_abs _)

/-- Magnitudes from twice the full significand on are whole numbers. -/
theorem Format.exists_natCast_eq_value {code : Nat}
    (large : (2 * format.fullSignificand : Nat) ≤ format.value code) :
    ∃ whole : Nat, format.value code = whole := by
  obtain ⟨exponent, significand, rfl, full, bound⟩ := exists_band format code
  rw [value, units_band full bound.le] at large ⊢
  have unit : format.scale ≤ exponent := by
    by_contra fraction
    rw [le_div_iff₀ (by positivity)] at large
    have least : 2 * format.fullSignificand * 2 ^ format.scale ≤ significand * 2 ^ exponent := by
      exact_mod_cast large
    have most : significand * 2 ^ exponent ≤ 2 * format.fullSignificand * 2 ^ exponent :=
      Nat.mul_le_mul_right _ bound.le
    have shorter : 2 ^ exponent < 2 ^ format.scale :=
      Nat.pow_lt_pow_right (by decide) (by omega)
    have strict := Nat.mul_lt_mul_of_pos_left shorter
      (Nat.mul_pos (by decide) format.fullSignificand_pos : 0 < 2 * format.fullSignificand)
    omega
  obtain ⟨rest, rfl⟩ := Nat.exists_eq_add_of_le unit
  refine ⟨significand * 2 ^ rest, ?_⟩
  rw [div_eq_iff (by positivity), pow_add]
  push_cast
  ring

/-- No finite number is nearer to the rational than the one with this sign and code, and another one
is as near only if the code is even. -/
structure IsNearest (rational : ℚ) (negative : Bool) (code : Fin format.infinityCode) : Prop where
  least : ∀ other : Binary format, other.isFinite = true →
    |rational - (finite negative code).value| ≤ |rational - other.value|
  even : ∀ other : Binary format, other.isFinite = true → other ≠ finite negative code →
    |rational - (finite negative code).value| = |rational - other.value| → code.val % 2 = 0

/-- What has no sign is as near to a magnitude as to any finite number: to the same one, or to zero
for a number with a sign. -/
theorem exists_abs_sub_le {rational : ℚ} (nonneg : 0 ≤ rational) {other : Binary format}
    (finite : other.isFinite = true) :
    ∃ code, |rational - format.value code| ≤ |rational - other.value| ∧
      (code = 0 ∨ ∃ inside, other = .finite false ⟨code, inside⟩) := by
  cases other with
  | nan => cases finite
  | infinite negative => cases finite
  | finite negative code =>
      cases negative with
      | false => exact ⟨code, le_rfl, .inr ⟨code.isLt, rfl⟩⟩
      | true =>
          refine ⟨0, ?_, .inl rfl⟩
          have beyond := Format.value_nonneg format code
          have opposite : (Binary.finite true code).value = -format.value code := rfl
          rw [opposite, Format.value_zero, sub_zero, abs_of_nonneg nonneg,
            abs_of_nonneg (by linarith)]
          linarith

/-- The number that a rational without a sign rounds to is the nearest one. -/
theorem Format.Rounds.isNearest {rational : ℚ} (nonneg : 0 ≤ rational)
    {code : Fin format.infinityCode} (rounds : format.Rounds rational code) :
    IsNearest rational false code where
  least := by
    intro other finite
    obtain ⟨otherCode, near, -⟩ := exists_abs_sub_le nonneg finite
    exact (rounds.abs_sub_le otherCode).trans near
  even := by
    intro other finite different equal
    by_contra odd
    obtain ⟨otherCode, near, same⟩ := exists_abs_sub_le nonneg finite
    have apart : otherCode ≠ code := by
      rintro rfl
      rcases same with zero | ⟨inside, same⟩
      · exact odd (by rw [zero])
      · exact different same
    have strict := rounds.abs_sub_lt (by omega) apart
    exact absurd equal (strict.trans_le near).ne

end Binary

namespace Number

open Binary (Format IsNearest)

/-- How a number stands for an integer: exactly below `2 ^ 63`, and as the nearest double from there
on. What has no sign is shown without one. -/
structure Converts (integer : Int) (number : Number) : Prop where
  exact : integer < 2 ^ 63 → ∃ value : Int64, number = .int value ∧ value.toInt = integer
  nearest : 2 ^ 63 ≤ integer → ∃ code, number = .float (.finite false code) ∧
    0 < Format.double.value code ∧ IsNearest integer false code ∧
      |Format.double.value code - integer| ≤ 1024
  unsigned : 0 ≤ integer → '-' ∉ number.text

theorem minus_notMem_digitsOf (n : Nat) : '-' ∉ digitsOf n := fun member =>
  absurd (Decimal.isDigit_of_mem_digitsOf member) (by decide)

variable {integer : Int}

theorem ofInt_of_lt (low : -2 ^ 63 ≤ integer) (high : integer < 2 ^ 63) :
    ofInt integer = .int (.ofInt integer) :=
  if_pos (inRange_iff.mpr ⟨low, high⟩)

/-- An integer that needs all of 64 bits becomes the double that it rounds to. -/
theorem exists_ofInt_eq_float (large : 2 ^ 63 ≤ integer) (small : integer < 2 ^ 64) :
    ∃ code : Fin Format.double.infinityCode, ofInt integer = .float (.finite false code) ∧
      Format.double.Rounds integer code := by
  obtain ⟨magnitude, rfl⟩ := Int.eq_ofNat_of_zero_le (show 0 ≤ integer by omega)
  have outside : ¬inRange magnitude = true := by
    rw [inRange_iff]
    omega
  have finite := Binary.isFinite_ofRatio_of_lt false (show magnitude < 2 ^ 64 by omega)
  rw [Binary.ofRatio, Binary.isFinite_ofCode, decide_eq_true_eq] at finite
  refine ⟨⟨_, finite⟩, ?_, ?_⟩
  · have sign : decide ((magnitude : Int) < 0) = false := decide_eq_false (by omega)
    rw [ofInt, if_neg outside, sign, Int.natAbs_natCast, Binary.ofRatio,
      Binary.ofCode_of_lt false finite]
  · rw [Int.cast_natCast]
    exact Format.rounds_nearest_one Format.double_isProper magnitude

section Wide

variable {code : Fin Format.double.infinityCode} (rounds : Format.double.Rounds integer code)

include rounds

/-- Rounding does not pass `2 ^ 63`. -/
theorem le_value_of_rounds (large : 2 ^ 63 ≤ integer) : 2 ^ 63 ≤ Format.double.value code := by
  obtain ⟨first, value⟩ := Format.exists_value .double
    (show 1 ≤ 2 * Format.double.fullSignificand by decide) 63
  rw [Nat.cast_one, one_mul] at value
  rw [← value]
  exact rounds.value_le (by rw [value]; exact_mod_cast large)

/-- Rounding does not pass `2 ^ 64`. -/
theorem value_le_of_rounds (small : integer < 2 ^ 64) : Format.double.value code ≤ 2 ^ 64 := by
  obtain ⟨last, value⟩ := Format.exists_value .double
    (show 1 ≤ 2 * Format.double.fullSignificand by decide) 64
  rw [Nat.cast_one, one_mul] at value
  rw [← value]
  exact rounds.le_value (by rw [value]; exact_mod_cast small.le)

/-- Every multiple of 2048 up to `2 ^ 64` is a double, so at most half of this is lost. -/
theorem abs_value_sub_le_of_rounds (large : 2 ^ 63 ≤ integer) (small : integer < 2 ^ 64) :
    |Format.double.value code - integer| ≤ 1024 := by
  have room : 2 * Format.double.fullSignificand = 2 ^ 53 := by decide
  obtain ⟨multiple, value⟩ := Format.exists_value .double
    (show ((integer + 1024) / 2048).toNat ≤ 2 * Format.double.fullSignificand by omega) 11
  have near : |(integer : ℚ) - Format.double.value multiple| ≤ 1024 := by
    have below : (integer : ℚ) ≤ ((integer + 1024) / 2048).toNat * 2 ^ 11 + 1024 := by
      exact_mod_cast (by omega : integer ≤ ((integer + 1024) / 2048).toNat * 2 ^ 11 + 1024)
    have above : (((integer + 1024) / 2048).toNat * 2 ^ 11 : ℚ) ≤ integer + 1024 := by
      exact_mod_cast (by omega : ((integer + 1024) / 2048).toNat * 2 ^ 11 ≤ integer + 1024)
    rw [value, abs_le]
    constructor <;> linarith
  rw [abs_sub_comm]
  exact (rounds.abs_sub_le multiple).trans near

/-- A double for an integer that needs all of 64 bits is shown in digits only. -/
theorem minus_notMem_text_of_rounds (large : 2 ^ 63 ≤ integer) (small : integer < 2 ^ 64) :
    '-' ∉ text (.float (.finite false code)) := by
  have least := le_value_of_rounds rounds large
  have most := value_le_of_rounds rounds small
  have nonzero : code.val ≠ 0 := by
    intro zero
    rw [zero, Format.value_zero] at least
    norm_num at least
  have full : ((2 * Format.double.fullSignificand : Nat) : ℚ) ≤ Format.double.value code := by
    have room : 2 * Format.double.fullSignificand = 2 ^ 53 := by decide
    rw [room]
    refine le_trans ?_ least
    norm_num
  obtain ⟨whole, exact⟩ := Format.exists_natCast_eq_value full
  have bound : whole < 10 ^ 21 := by
    have top : whole ≤ 2 ^ 64 := by
      rw [exact] at most
      exact_mod_cast most
    omega
  obtain ⟨printed, -, shown, -⟩ := exists_magnitudeText_eq nonzero exact bound
  rw [text, doubleText_finite nonzero, shown]
  exact minus_notMem_digitsOf printed

end Wide

/-- Every integer of 64 bits, with or without a sign, is converted. -/
theorem converts_ofInt (low : -2 ^ 63 ≤ integer) (high : integer < 2 ^ 64) :
    Converts integer (.ofInt integer) := by
  constructor
  case exact =>
    intro narrow
    exact ⟨_, ofInt_of_lt low narrow, toInt_ofInt_of_inRange (inRange_iff.mpr ⟨low, narrow⟩)⟩
  case nearest =>
    intro wide
    obtain ⟨code, equal, rounds⟩ := exists_ofInt_eq_float wide high
    refine ⟨code, equal, ?_, ?_, abs_value_sub_le_of_rounds rounds wide high⟩
    · exact lt_of_lt_of_le (by norm_num) (le_value_of_rounds rounds wide)
    · exact rounds.isNearest (by exact_mod_cast (show 0 ≤ integer by omega))
  case unsigned =>
    intro nonneg
    by_cases narrow : integer < 2 ^ 63
    · have sign : decide (integer < 0) = false := decide_eq_false (by omega)
      rw [ofInt_of_lt low narrow, text, toInt_ofInt_of_inRange (inRange_iff.mpr ⟨low, narrow⟩),
        Decimal.integerDigits_eq, sign]
      exact minus_notMem_digitsOf integer.natAbs
    · have wide : 2 ^ 63 ≤ integer := Int.not_lt.mp narrow
      obtain ⟨code, equal, rounds⟩ := exists_ofInt_eq_float wide high
      rw [equal]
      exact minus_notMem_text_of_rounds rounds wide high

/-- Integers of 64 bits keep their order, also across `2 ^ 63`. -/
theorem value_ofInt_le {first second : Int} (low : -2 ^ 63 ≤ first) (order : first ≤ second)
    (high : second < 2 ^ 64) : (ofInt first).value ≤ (ofInt second).value := by
  have exact {integer : Int} (least : -2 ^ 63 ≤ integer) (narrow : integer < 2 ^ 63) :
      (ofInt integer).value = integer := by
    rw [ofInt_of_lt least narrow, value,
      toInt_ofInt_of_inRange (inRange_iff.mpr ⟨least, narrow⟩)]
  have cast : (first : ℚ) ≤ second := by exact_mod_cast order
  by_cases narrow : second < 2 ^ 63
  · rw [exact low (by omega), exact (by omega) narrow]
    exact cast
  obtain ⟨secondCode, secondEqual, secondRounds⟩ :=
    exists_ofInt_eq_float (Int.not_lt.mp narrow) high
  have secondValue : (ofInt second).value = Format.double.value secondCode := by
    rw [secondEqual]
    rfl
  rw [secondValue]
  by_cases narrowFirst : first < 2 ^ 63
  · rw [exact low narrowFirst]
    calc (first : ℚ)
      _ ≤ 2 ^ 63 := by exact_mod_cast narrowFirst.le
      _ ≤ Format.double.value secondCode := le_value_of_rounds secondRounds (Int.not_lt.mp narrow)
  · obtain ⟨firstCode, firstEqual, firstRounds⟩ :=
      exists_ofInt_eq_float (Int.not_lt.mp narrowFirst) (by omega)
    rw [firstEqual]
    exact (Format.value_strictMono .double).monotone (firstRounds.mono secondRounds cast)

theorem int_eq_ofInt (value : Int64) : Number.int value = .ofInt value.toInt := by
  rw [ofInt_of_lt value.le_toInt value.toInt_lt, Int64.ofInt_toInt]

/-- An integer of a type without a sign and of at most 64 bits is converted. -/
theorem converts_ofNat {n : Nat} (small : n < 2 ^ 64) : Converts n (.ofInt n) :=
  converts_ofInt (by omega) (by omega)

/-- An integer that 64 bits with a sign hold is converted to itself. -/
theorem converts_int {value : Int64} (same : value.toInt = integer) :
    Converts integer (.int value) := by
  have high := value.toInt_lt
  rw [int_eq_ofInt, same]
  exact converts_ofInt (same ▸ value.le_toInt) (by omega)

/-- The integers of every primitive type are converted without wrapping, and those of 64 bits
without a sign keep their order. -/
theorem integers_convert :
    (∀ value : Int8, Converts value.toInt (toNumber value)) ∧
    (∀ value : Int16, Converts value.toInt (toNumber value)) ∧
    (∀ value : Int32, Converts value.toInt (toNumber value)) ∧
    (∀ value : Int64, Converts value.toInt (toNumber value)) ∧
    (∀ value : UInt8, Converts value.toNat (toNumber value)) ∧
    (∀ value : UInt16, Converts value.toNat (toNumber value)) ∧
    (∀ value : UInt32, Converts value.toNat (toNumber value)) ∧
    (∀ value : UInt64, Converts value.toNat (toNumber value)) ∧
    (∀ value : USize, Converts value.toNat (toNumber value)) ∧
    ∀ first second : UInt64, first ≤ second →
      (toNumber first).value ≤ (toNumber second).value := by
  have natural {n : Nat} (small : n < 2 ^ 63) : Converts n (.int (.ofNat n)) :=
    converts_int (Int64.toInt_ofNat_of_lt small)
  refine ⟨fun value => converts_int value.toInt_toInt64,
    fun value => converts_int value.toInt_toInt64, fun value => converts_int value.toInt_toInt64,
    fun _ => converts_int rfl, fun value => natural (value.toNat_lt.trans (by decide)),
    fun value => natural (value.toNat_lt.trans (by decide)),
    fun value => natural (value.toNat_lt.trans (by decide)),
    fun value => converts_ofNat value.toNat_lt, ?_, ?_⟩
  · intro value
    rw [← value.toNat_toUInt64]
    exact converts_ofNat value.toUInt64.toNat_lt
  · intro first second order
    have high := second.toNat_lt
    have least := UInt64.le_iff_toNat_le.mp order
    exact value_ofInt_le (by omega) (by omega) (by omega)

/-- The order is kept where the doubles start, and the last integer is converted like all others. -/
theorem integers_convert_two_pow :
    (0x7FFFFFFFFFFFFFFF : UInt64) ≤ 0x8000000000000000 ∧
      (toNumber (0x7FFFFFFFFFFFFFFF : UInt64)).value ≤
        (toNumber (0x8000000000000000 : UInt64)).value ∧
      Converts 0xFFFFFFFFFFFFFFFF (toNumber (0xFFFFFFFFFFFFFFFF : UInt64)) ∧
      String.ofList (toNumber (0xFFFFFFFFFFFFFFFF : UInt64)).text = "18446744073709552000" := by
  have order : (0x7FFFFFFFFFFFFFFF : UInt64) ≤ 0x8000000000000000 := by decide
  obtain ⟨-, -, -, -, -, -, -, wide, -, ordered⟩ := integers_convert
  exact ⟨order, ordered _ _ order, wide 0xFFFFFFFFFFFFFFFF, by decide +kernel⟩

end Number

end FilterQuery
