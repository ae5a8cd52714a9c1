import FilterQuery.Json.Numeral
import FilterQuery.Proofs.Binary.Error
import FilterQuery.Proofs.Number.Whole

/-!
Scaling by powers of ten. The main statements bound the error of a significand that is converted to
a double and then multiplied or divided by powers of ten, and say when there is one rounding only.
-/

namespace FilterQuery

namespace Json.Numeral

open Binary Format

/-- The double for a power of ten. -/
theorem rounds_powerCode (power : Nat) : double.Rounds (10 ^ power) (powerCode power) := by
  have found := rounds_nearest_one double_isProper (Nat.pow 10 power)
  rw [Nat.pow_eq] at found
  push_cast at found
  exact found

/-- Powers of two are doubles. -/
theorem exists_value_two_pow (exponent : Nat) : ∃ code, double.value code = 2 ^ exponent := by
  obtain ⟨code, same⟩ :=
    exists_value double (show 1 ≤ 2 * double.fullSignificand by decide) exponent
  exact ⟨code, by rw [same, Nat.cast_one, one_mul]⟩

/-- A number that is at least one is rounded to such a number. -/
theorem one_le_value {number : ℚ} {code : Nat} (rounds : double.Rounds number code)
    (large : 1 ≤ number) : 1 ≤ double.value code := by
  obtain ⟨other, one⟩ := exists_value_two_pow 0
  rw [pow_zero] at one
  exact one ▸ rounds.value_le (one.le.trans large)

theorem one_le_value_powerCode (power : Nat) : 1 ≤ double.value (powerCode power) :=
  one_le_value (rounds_powerCode power) (one_le_pow₀ (by norm_num))

/-- The product is rounded. -/
theorem rounds_times (first second : Nat) :
    double.Rounds (double.value first * double.value second) (times first second) := by
  have positive : 0 < Nat.pow 2 (2 * double.scale) := by
    rw [Nat.pow_eq]
    positivity
  have found := rounds_nearest double_isProper (double.units first * double.units second) positive
  have same : (double.value first * double.value second : ℚ) =
      (double.units first * double.units second : Nat) / (Nat.pow 2 (2 * double.scale) : Nat) := by
    rw [Format.value, Format.value, div_mul_div_comm, ← pow_add, ← two_mul, Nat.pow_eq]
    push_cast
    rfl
  rwa [← same] at found

/-- The quotient is rounded. -/
theorem rounds_quotient {first second : Nat} (positive : 0 < double.value second) :
    double.Rounds (double.value first / double.value second) (quotient first second) := by
  have units : 0 < double.units second := by
    rw [Format.value] at positive
    by_contra zero
    simp [Nat.eq_zero_of_not_pos zero] at positive
  have found := rounds_nearest double_isProper (double.units first) units
  have same : (double.value first / double.value second : ℚ) =
      double.units first / double.units second := by
    rw [Format.value, Format.value, div_div_div_cancel_right₀ (by positivity)]
  rw [same]
  exact found

/-- Zero is found for no units. -/
theorem nearest_zero {denominator : Nat} (positive : 0 < denominator) :
    double.nearest 0 denominator = 0 := by
  refine (nearest_eq_iff double_isProper positive).mpr ?_
  simpa using rounds_value double 0

theorem value_powerCode_pos (power : Nat) : 0 < double.value (powerCode power) :=
  zero_lt_one.trans_le (one_le_value_powerCode power)

theorem times_zero (code : Nat) : times 0 code = 0 := by
  have found := rounds_times 0 code
  rw [value_zero, zero_mul] at found
  exact found.unique (by simpa using rounds_value double 0)

theorem quotient_zero (power : Nat) : quotient 0 (powerCode power) = 0 := by
  have found : double.Rounds (double.value 0 / double.value (powerCode power))
      (quotient 0 (powerCode power)) := rounds_quotient (value_powerCode_pos power)
  rw [value_zero, zero_div] at found
  exact found.unique (by simpa using rounds_value double 0)

/-- Zero stays zero. -/
theorem scaleDown_zero (power : Nat) : scaleDown 0 power = 0 := by
  rw [scaleDown]
  split
  · exact quotient_zero power
  · rfl

/-- A whole number is near its double. -/
theorem near_nearest_one {significand : Nat} (positive : 1 ≤ significand) :
    double.Near 2 0 significand (double.value (double.nearest significand 1)) :=
  (rounds_nearest_one double_isProper significand).near_of_one_le (by exact_mod_cast positive)

/-- The double of a positive whole number is not zero. -/
theorem nearest_one_ne_zero {significand : Nat} (positive : 1 ≤ significand) :
    double.nearest significand 1 ≠ 0 := by
  intro zero
  have large := one_le_value (rounds_nearest_one double_isProper significand) (by exact_mod_cast positive)
  rw [zero, value_zero] at large
  norm_num at large

theorem near_powerCode (power : Nat) :
    double.Near 2 0 (10 ^ power) (double.value (powerCode power)) :=
  (rounds_powerCode power).near_of_one_le (one_le_pow₀ (by norm_num))

/-- The smallest unit of doubles. -/
def unit : ℚ := 1 / 2 ^ double.scale

theorem unit_pos : 0 < unit := by
  rw [unit]
  positivity

/-- Few roundings do not double a number. -/
theorem spread_pow_le_two {steps : Nat} (few : steps ≤ 16) : double.spread ^ steps ≤ 2 := by
  refine (pow_le_pow_right₀ double.one_le_spread few).trans ?_
  rw [spread, fullSignificand, Nat.pow_eq]
  norm_num

/-- Few roundings do not double the smallest unit. -/
theorem unit_mul_le {steps : Nat} (few : steps ≤ 16) : unit * double.spread ^ steps ≤ unit * 2 :=
  mul_le_mul_of_nonneg_left (spread_pow_le_two few) unit_pos.le

/-- A number that is at most the smallest unit is near to zero. -/
theorem near_zero_of_le {exact : ℚ} (nonneg : 0 ≤ exact) (small : exact ≤ unit) :
    double.Near 8 (4 * unit) exact 0 := by
  have positive := unit_pos
  have scaled : 0 ≤ exact * double.spread ^ 8 :=
    mul_nonneg nonneg (pow_nonneg double.spread_pos.le 8)
  constructor <;> linarith

/-- What is found by one scaling step that starts from a whole number is near enough. -/
theorem near_of_first {exact : ℚ} {code : Nat} (nonneg : 0 ≤ exact)
    (near : double.Near 5 ((0 + unit) * double.spread ^ 5) exact (double.value code)) :
    double.Near 8 (4 * unit) exact (double.value code) := by
  refine near.mono (by decide) ?_ nonneg (value_nonneg _ _)
  have bound := unit_mul_le (show 5 ≤ 16 by decide)
  have positive := unit_pos
  rw [zero_add]
  linarith

/-- A finite code is that of the magnitude. -/
theorem val_of_finite? {code : Nat} {magnitude : Magnitude}
    (found : finite? code = some magnitude) : magnitude.val = code := by
  unfold finite? at found
  split at found
  · exact congrArg Fin.val (Option.some.inj found).symm
  · cases found

/-- A product with a power of ten is near, if it is finite. -/
theorem near_scaleUp {significand power : Nat} {magnitude : Magnitude}
    (found : scaleUp? (double.nearest significand 1) power = some magnitude) :
    double.Near 8 (4 * unit) (significand * 10 ^ power) (double.value magnitude) := by
  rcases Nat.eq_zero_or_pos significand with rfl | positive
  · have zero : magnitude.val = 0 := by
      rw [nearest_zero Nat.one_pos, scaleUp?, times_zero, if_pos rfl, ite_self] at found
      exact val_of_finite? found
    rw [Nat.cast_zero, zero_mul, zero, value_zero]
    exact near_zero_of_le le_rfl unit_pos.le
  · rw [scaleUp?] at found
    split at found
    · have near := (near_nearest_one positive).mul (near_powerCode power) (Nat.cast_nonneg _)
        (by positivity) (value_nonneg _ _) (value_nonneg _ _)
      rw [val_of_finite? found]
      exact near_of_first (by positivity)
        (near.trans (rounds_times _ _).near le_rfl unit_pos.le)
    · rw [if_neg (nearest_one_ne_zero positive)] at found
      cases found

/-- The error of one step down. -/
theorem near_quotient {exact slack : ℚ} {steps code : Nat}
    (near : double.Near steps slack exact (double.value code)) (nonneg : 0 ≤ exact)
    (slackNonneg : 0 ≤ slack) (power : Nat) :
    double.Near (steps + 2 + 1) ((slack + unit) * double.spread ^ (steps + 2 + 1))
      (exact / 10 ^ power) (double.value (quotient code (powerCode power))) := by
  have divided := near.div (near_powerCode power) slackNonneg nonneg (value_nonneg _ _)
    (one_le_pow₀ (by norm_num)) (one_le_value_powerCode power)
  exact divided.trans (rounds_quotient (value_powerCode_pos power)).near slackNonneg unit_pos.le

/-- What is found by two steps down that start from a whole number is near enough. -/
theorem near_quotient_quotient {significand : Nat} (positive : 1 ≤ significand)
    (first second : Nat) :
    double.Near 8 (4 * unit) (significand / 10 ^ (first + second))
      (double.value (quotient (quotient (double.nearest significand 1) (powerCode first))
        (powerCode second))) := by
  have slack : 0 ≤ (0 + unit) * double.spread ^ 5 :=
    mul_nonneg (by rw [zero_add]; exact unit_pos.le) (pow_nonneg double.spread_pos.le 5)
  have near := near_quotient (near_quotient (near_nearest_one positive) (Nat.cast_nonneg _) le_rfl
    first) (by positivity) slack second
  rw [div_div, ← pow_add] at near
  refine near.mono le_rfl ?_ (by positivity) (value_nonneg _ _)
  have eight := unit_mul_le (show 8 ≤ 16 by decide)
  have thirteen := unit_mul_le (show 13 ≤ 16 by decide)
  calc ((0 + unit) * double.spread ^ 5 + unit) * double.spread ^ 8
    _ = unit * double.spread ^ 13 + unit * double.spread ^ 8 := by ring
    _ ≤ 4 * unit := by linarith

/-- Powers of two below powers of ten. -/
theorem two_pow_le_ten_pow (power : Nat) : (2 : ℚ) ^ (3 * power) ≤ 10 ^ power := by
  rw [pow_mul]
  exact pow_le_pow_left₀ (by norm_num) (by norm_num) power

/-- A quotient by the greatest power is small. -/
theorem div_powerCode_le {number bound : ℚ} (nonneg : 0 ≤ number) (less : number ≤ bound) :
    number / double.value (powerCode greatestPower) ≤ bound / 2 ^ 924 := by
  obtain ⟨power, same⟩ := exists_value_two_pow 924
  have divisor : 2 ^ 924 ≤ double.value (powerCode greatestPower) := by
    rw [← same]
    refine (rounds_powerCode greatestPower).value_le ?_
    rw [same]
    exact two_pow_le_ten_pow greatestPower
  exact (div_le_div_of_nonneg_left nonneg (by positivity) divisor).trans
    (div_le_div_of_nonneg_right less (by positivity))

/-- One step down by the greatest power leaves few units. -/
theorem value_quotient_le {significand : Nat} (fits : significand < 2 ^ 64) :
    double.value (quotient (double.nearest significand 1) (powerCode greatestPower)) ≤
      2 ^ 214 / 2 ^ double.scale := by
  obtain ⟨bound, boundValue⟩ := exists_value_two_pow 64
  obtain ⟨rest, restUnits⟩ :=
    exists_units double (show 1 ≤ 2 * double.fullSignificand by decide) 214
  have restValue : double.value rest = 2 ^ 214 / 2 ^ double.scale := by
    rw [Format.value, restUnits, one_mul, Nat.cast_pow, Nat.cast_ofNat]
  have whole : double.value (double.nearest significand 1) ≤ 2 ^ 64 := by
    rw [← boundValue]
    refine (rounds_nearest_one double_isProper significand).le_value ?_
    rw [boundValue]
    exact_mod_cast fits.le
  rw [← restValue]
  refine (rounds_quotient (value_powerCode_pos greatestPower)).le_value ?_
  refine (div_powerCode_le (value_nonneg _ _) whole).trans ?_
  rw [restValue, div_le_div_iff₀ (by positivity) (by positivity), ← pow_add, ← pow_add]
  exact pow_le_pow_right₀ (by norm_num) (by decide)

/-- Two steps down by the greatest power leave nothing. -/
theorem quotient_quotient_eq_zero {significand : Nat} (fits : significand < 2 ^ 64) :
    quotient (quotient (double.nearest significand 1) (powerCode greatestPower))
      (powerCode greatestPower) = 0 := by
  refine (rounds_quotient (value_powerCode_pos greatestPower)).unique (rounds_zero ?_ ?_)
  · exact div_nonneg (value_nonneg _ _) (value_nonneg _ _)
  · have second := div_powerCode_le (value_nonneg _ _) (value_quotient_le fits)
    refine (mul_le_mul_of_nonneg_right second (by positivity)).trans ?_
    rw [div_div, ← pow_add, div_mul_eq_mul_div, ← pow_add, div_le_one (by positivity)]
    exact pow_le_pow_right₀ (by norm_num) (by decide)

/-- A whole number of 64 bits divided by more than two greatest powers is less than the smallest
unit. -/
theorem div_pow_le_unit {significand power : Nat} (fits : significand < 2 ^ 64)
    (far : 2 * greatestPower < power) : (significand / 10 ^ power : ℚ) ≤ unit := by
  rw [unit, div_le_div_iff₀ (by positivity) (by positivity), one_mul]
  calc (significand * 2 ^ double.scale : ℚ)
    _ ≤ 2 ^ 64 * 2 ^ double.scale :=
      mul_le_mul_of_nonneg_right (by exact_mod_cast fits.le) (by positivity)
    _ = 2 ^ (64 + double.scale) := (pow_add _ _ _).symm
    _ ≤ 2 ^ (3 * power) := by
      refine pow_le_pow_right₀ (by norm_num) ?_
      change 64 + 1074 ≤ 3 * power
      change 2 * 308 < power at far
      omega
    _ ≤ 10 ^ power := two_pow_le_ten_pow power

/-- A quotient by a power of ten is near. There are two steps down at most: a third one would start
from zero. -/
theorem near_scaleDown {significand : Nat} (fits : significand < 2 ^ 64) (power : Nat) :
    double.Near 8 (4 * unit) (significand / 10 ^ power)
      (double.value (scaleDown (double.nearest significand 1) power)) := by
  rcases Nat.eq_zero_or_pos significand with rfl | positive
  · rw [nearest_zero Nat.one_pos, scaleDown_zero, value_zero, Nat.cast_zero, zero_div]
    exact near_zero_of_le le_rfl unit_pos.le
  rw [scaleDown, if_neg (nearest_one_ne_zero positive)]
  split
  · exact near_of_first (by positivity)
      (near_quotient (near_nearest_one positive) (Nat.cast_nonneg _) le_rfl power)
  · rename_i beyond
    rw [scaleDown]
    split
    · have near := near_quotient_quotient positive greatestPower (power - greatestPower)
      rwa [Nat.add_sub_cancel' (Nat.le_of_not_le beyond)] at near
    · have left : scaleDown (quotient (quotient (double.nearest significand 1)
          (powerCode greatestPower)) (powerCode greatestPower))
          (power - greatestPower - greatestPower) = 0 := by
        rw [quotient_quotient_eq_zero fits, scaleDown_zero]
      rw [left, ite_self, value_zero]
      exact near_zero_of_le (by positivity) (div_pow_le_unit fits (by omega))

/-- What is found for a significand and a power of ten is near to their product. -/
theorem near_scale? {significand : Nat} {exponent : Int} {magnitude : Magnitude}
    (fits : significand < 2 ^ 64) (found : scale? significand exponent = some magnitude) :
    double.Near 8 (4 * unit) (significand * 10 ^ exponent) (double.value magnitude) := by
  cases exponent with
  | ofNat power =>
      rw [Int.ofNat_eq_natCast, zpow_natCast]
      exact near_scaleUp found
  | negSucc power =>
      rw [zpow_negSucc, ← div_eq_mul_inv, val_of_finite? found]
      exact near_scaleDown fits (power + 1)

/-- The scalings that round once: by no power of ten, of zero, and of a whole number of at most 53
bits by a power of ten that is a double itself. -/
inductive ScalesOnce : Nat → Int → Prop
  | unscaled {significand : Nat} (fits : significand < 2 ^ 64) : ScalesOnce significand 0
  | zero (exponent : Int) : ScalesOnce 0 exponent
  | up {significand power : Nat} (small : significand ≤ 2 ^ 53) (few : power ≤ 22) :
      ScalesOnce significand (.ofNat power)
  | down {significand power : Nat} (small : significand ≤ 2 ^ 53) (few : power + 1 ≤ 22) :
      ScalesOnce significand (.negSucc power)

/-- Where a scaling rounds once, 64 bits hold the whole number. -/
theorem ScalesOnce.lt {significand : Nat} {exponent : Int}
    (once : ScalesOnce significand exponent) : significand < 2 ^ 64 := by
  cases once with
  | unscaled fits => exact fits
  | zero => decide
  | up small | down small => omega

/-- Whole numbers of at most 53 bits are doubles. -/
theorem value_nearest_one {significand : Nat} (small : significand ≤ 2 ^ 53) :
    double.value (double.nearest significand 1) = significand := by
  obtain ⟨code, same⟩ :=
    exists_value double (show significand ≤ 2 * double.fullSignificand from small) 0
  rw [pow_zero, mul_one] at same
  rw [(rounds_nearest_one double_isProper significand).unique (same ▸ rounds_value double code), same]

/-- Small powers of ten are doubles. -/
theorem value_powerCode {power : Nat} (few : power ≤ 22) :
    double.value (powerCode power) = 10 ^ power := by
  have small : 5 ^ power ≤ 2 * double.fullSignificand :=
    (Nat.pow_le_pow_right (by decide) few).trans (by decide)
  obtain ⟨code, same⟩ := exists_value double small power
  rw [Nat.cast_pow, ← mul_pow, Nat.cast_ofNat, show (5 * 2 : ℚ) = 10 by norm_num] at same
  rw [(rounds_powerCode power).unique (same ▸ rounds_value double code), same]

/-- A product of a whole number and a power of ten that are doubles is rounded once. -/
theorem rounds_times_powerCode {significand power : Nat} (small : significand ≤ 2 ^ 53)
    (few : power ≤ 22) :
    double.Rounds (significand * 10 ^ power)
      (times (double.nearest significand 1) (powerCode power)) := by
  have product := rounds_times (double.nearest significand 1) (powerCode power)
  rwa [value_nearest_one small, value_powerCode few] at product

/-- A quotient of a whole number and a power of ten that are doubles is rounded once. -/
theorem rounds_quotient_powerCode {significand power : Nat} (small : significand ≤ 2 ^ 53)
    (few : power ≤ 22) :
    double.Rounds (significand / 10 ^ power)
      (quotient (double.nearest significand 1) (powerCode power)) := by
  rw [← value_nearest_one small, ← value_powerCode few]
  exact rounds_quotient (value_powerCode_pos power)

/-- The power of no ten changes nothing. -/
theorem times_powerCode_zero (code : Nat) : times code (powerCode 0) = code := by
  have product := rounds_times code (powerCode 0)
  rw [value_powerCode (by decide), pow_zero, mul_one] at product
  exact product.unique (rounds_value double code)

/-- A number that is not large rounds to a finite magnitude. -/
theorem exists_finite? {number : ℚ} {code : Nat} (rounds : double.Rounds number code)
    (small : number ≤ 2 ^ 142) :
    ∃ magnitude, finite? code = some magnitude ∧ double.Rounds number magnitude := by
  have room : (2 : ℚ) ^ 144 ≤ 2 ^ 2 ^ (double.exponentWidth - 1) :=
    pow_le_pow_right₀ (by norm_num) (by decide)
  have bound : code < double.infinityCode := by
    refine rounds.lt_infinityCode double_isProper (lt_of_lt_of_le ?_ room)
    linarith
  exact ⟨⟨code, bound⟩, dif_pos bound, rounds⟩

/-- A scaling that rounds once finds what the product rounds to. -/
theorem exists_scale? {significand : Nat} {exponent : Int}
    (once : ScalesOnce significand exponent) :
    ∃ magnitude, scale? significand exponent = some magnitude ∧
      double.Rounds (significand * 10 ^ exponent) magnitude := by
  cases once with
  | unscaled fits =>
      have bound : (significand : ℚ) ≤ 2 ^ 142 := by
        have whole : (significand : ℚ) < 2 ^ 64 := by exact_mod_cast fits
        linarith
      have step : scale? significand 0 = finite? (double.nearest significand 1) := by
        change scaleUp? _ 0 = _
        rw [scaleUp?, if_pos (Nat.zero_le _), times_powerCode_zero]
      rw [zpow_zero, mul_one, step]
      exact exists_finite? (rounds_nearest_one double_isProper significand) bound
  | zero =>
      have zero := rounds_value double 0
      rw [value_zero] at zero
      have found := exists_finite? zero (by positivity)
      rw [Nat.cast_zero, zero_mul]
      cases exponent with
      | ofNat power =>
          rwa [scale?, nearest_zero Nat.one_pos, scaleUp?, times_zero, if_pos rfl, ite_self]
      | negSucc power => rwa [scale?, nearest_zero Nat.one_pos, scaleDown_zero]
  | @up significand power small few =>
      rw [Int.ofNat_eq_natCast, zpow_natCast, ← Int.ofNat_eq_natCast, scale?, scaleUp?,
        if_pos (few.trans (by decide))]
      refine exists_finite? (rounds_times_powerCode small few) ?_
      calc (significand * 10 ^ power : ℚ)
        _ ≤ 2 ^ 53 * 10 ^ 22 := mul_le_mul (by exact_mod_cast small)
          (pow_le_pow_right₀ (by norm_num) few) (by positivity) (by positivity)
        _ ≤ 2 ^ 142 := by norm_num
  | @down significand power small few =>
      rw [zpow_negSucc, ← div_eq_mul_inv, scale?, scaleDown, if_pos (few.trans (by decide))]
      refine exists_finite? (rounds_quotient_powerCode small few) ?_
      calc (significand / 10 ^ (power + 1) : ℚ)
        _ ≤ significand := div_le_self (Nat.cast_nonneg _) (one_le_pow₀ (by norm_num))
        _ ≤ 2 ^ 53 := by exact_mod_cast small
        _ ≤ 2 ^ 142 := by norm_num

end Json.Numeral

end FilterQuery
