import FilterQuery.Proofs.Number.Canonical
import FilterQuery.Proofs.Number.Interchange
import FilterQuery.Proofs.Number.Whole

namespace FilterQuery

open Decimal
open Binary (Format)

def Binary.ofInt {format : Format} (integer : Int) : Binary format :=
  .ofRatio (integer < 0) integer.natAbs 1

namespace Number

/-- The twenty-first power of ten is a double. -/
theorem doublePower_sextillion : doublePower 21 = 10 ^ 21 := by
  obtain ⟨code, value⟩ := Format.exists_value .double
    (show 5 ^ 21 ≤ 2 * Format.double.fullSignificand by decide) 21
  have exact : Format.double.value code = 10 ^ 21 := by
    rw [value]
    norm_num
  have rounds : Format.double.Rounds ((1 : Nat) * 10 ^ (21 : Int)) code := by
    rw [Nat.cast_one, one_mul, zpow_ofNat, ← exact]
    exact Format.rounds_value .double code
  have small : 2 * ((1 : Nat) * 10 ^ (21 : Int) : ℚ) <
      2 ^ 2 ^ (Format.double.exponentWidth - 1) := by
    calc 2 * ((1 : Nat) * 10 ^ (21 : Int) : ℚ)
      _ ≤ 2 ^ 71 := by norm_num
      _ < 2 ^ 2 ^ (Format.double.exponentWidth - 1) := pow_lt_pow_right₀ (by norm_num) (by decide)
  have finite := rounds.lt_infinityCode Format.double_isProper small
  have found : (Binary.ofDecimal false 1 21 : Double) = .finite false ⟨code, finite⟩ :=
    Binary.ofDecimal_eq_of_rounds Format.double_isProper false rounds
  rw [doublePower, found]
  exact exact

section Whole

variable {code : Fin Format.double.infinityCode} (nonzero : code.val ≠ 0) {whole : Nat}
  (exact : Format.double.value code = whole)

include nonzero exact

/-- The shortest decimal of an integral double has no digits behind the point. -/
theorem exponent_shortest_nonneg : 0 ≤ (shortest .greater .double code).exponent := by
  have rounds : Format.double.Rounds (whole * 10 ^ (0 : Int)) code := by
    rw [zpow_zero, mul_one, ← exact]
    exact Format.rounds_value .double code
  have reached : (10 : ℚ) ^ (0 : Int) ≤ Format.double.value code := by
    have positive := Format.value_strictMono .double (Nat.pos_of_ne_zero nonzero)
    rw [Format.value_zero, exact] at positive
    rw [zpow_zero, exact]
    exact_mod_cast positive
  exact le_exponent_shortest .greater rounds reached

variable (small : whole < 10 ^ 21)

include small

/-- An integral double below `1e21` is printed in positional digits. -/
theorem isPositional_shortest : isPositional (shortest .greater .double code) = true := by
  have below : (shortest .greater .double code).leadingExponent < 21 := by
    by_contra above
    have large : doublePower 21 ≤ |(Binary.finite false code : Double).value| :=
      (doublePower_le_iff nonzero (by decide)).mpr (Int.not_lt.mp above)
    rw [abs_value_finite, doublePower_sextillion, exact] at large
    exact absurd small (Nat.not_lt.mpr (by exact_mod_cast large))
  have above : 0 ≤ (shortest .greater .double code).leadingExponent := by
    have some := length_digitsOf_pos (shortest .greater .double code).significand
    have integral := exponent_shortest_nonneg nonzero exact
    rw [leadingExponent, digits]
    omega
  rw [isPositional, Bool.and_eq_true, decide_eq_true_eq, decide_eq_true_eq]
  omega

/-- These are the digits of a natural number that rounds to the double. -/
theorem exists_magnitudeText_eq :
    ∃ printed : Nat, 0 < printed ∧ magnitudeText code = digitsOf printed ∧
      Format.double.Rounds printed code := by
  obtain ⟨places, exponent⟩ := Int.eq_ofNat_of_zero_le (exponent_shortest_nonneg nonzero exact)
  have positive := significand_shortest_pos .greater .double nonzero
  have own := rounds_shortest .greater .double code
  refine ⟨(shortest .greater .double code).significand * 10 ^ places, by positivity, ?_, ?_⟩
  · rw [magnitudeText, if_pos (isPositional_shortest nonzero exact small),
      digitsOf_mul_pow positive, positional, exponent]
    rfl
  · rw [Decimal.value, exponent, zpow_natCast] at own
    exact_mod_cast own

end Whole

/-- An integral double below `1e21` is printed as an integer that rounds to it. -/
theorem exists_text_eq_integerDigits {double : Double} (finite : double.isFinite = true)
    {integer : Int} (exact : double.value = integer) (small : |integer| < 10 ^ 21) :
    ∃ printed : Int, text (.float double) = integerDigits printed ∧
      Binary.Rounds printed double := by
  cases double with
  | nan => cases finite
  | infinite negative => cases finite
  | finite negative code =>
      by_cases zero : code.val = 0
      · refine ⟨0, ?_, ?_⟩
        · rw [text, doubleText, if_pos zero]
          rfl
        · have rounds := Format.rounds_value .double code
          rw [zero, Format.value_zero] at rounds
          simpa [Binary.Rounds, zero] using rounds
      · have whole : Format.double.value code = integer.natAbs := by
          rw [← abs_value_finite negative, exact, Nat.cast_natAbs, Int.cast_abs]
        obtain ⟨printed, positive, shown, rounds⟩ :=
          exists_magnitudeText_eq zero whole (by rw [Int.abs_eq_natAbs] at small; omega)
        refine ⟨signed negative printed, ?_, ?_⟩
        · rw [text, doubleText_finite zero, shown, integerDigits_signed negative positive]
        · cases negative <;> simpa [Binary.Rounds, signed] using rounds

/-- The double nearest to an integer of few bits has the value of the integer. -/
theorem exists_ofInt {integer : Int} (small : integer.natAbs ≤ 2 * Format.double.fullSignificand) :
    ∃ code : Fin Format.double.infinityCode,
      (Binary.ofInt integer : Double) = .finite (integer < 0) code ∧
        Format.double.value code = integer.natAbs := by
  have room : 2 * Format.double.fullSignificand < 2 ^ 64 := by decide
  have finite := Binary.isFinite_ofRatio_of_lt (integer < 0) (small.trans_lt room)
  rw [Binary.ofRatio, Binary.isFinite_ofCode, decide_eq_true_eq] at finite
  obtain ⟨code, value⟩ := Format.exists_value_natCast .double small
  have own := Format.rounds_value .double code
  rw [value] at own
  obtain rfl := (Format.rounds_nearest_one Format.double_isProper integer.natAbs).unique own
  exact ⟨⟨_, finite⟩, Binary.ofCode_of_lt _ finite, value⟩

/-- An integer of few bits is printed in its digits if it comes as a double. -/
theorem text_ofInt {integer : Int} (small : |integer| ≤ 2 ^ 53) :
    text (.float (.ofInt integer)) = integerDigits integer := by
  rw [Int.abs_eq_natAbs] at small
  have full : 2 * Format.double.fullSignificand = 2 ^ 53 := by decide
  by_cases last : integer.natAbs = 2 ^ 53
  · -- The next double is two away, so the middle to it is an integer that rounds down.
    obtain rfl | rfl : integer = 2 ^ 53 ∨ integer = -2 ^ 53 := by omega
    · decide +kernel
    · decide +kernel
  by_cases zero : integer = 0
  · rw [zero]
    decide +kernel
  obtain ⟨code, nearest, value⟩ := exists_ofInt (show integer.natAbs ≤ _ by omega)
  have nonzero : code.val ≠ 0 := by
    intro first
    rw [first, Format.value_zero] at value
    exact zero (Int.natAbs_eq_zero.mp (by exact_mod_cast value.symm))
  obtain ⟨printed, -, shown, rounds⟩ := exists_magnitudeText_eq nonzero value (by omega)
  have same : printed = integer.natAbs := rounds.eq_of_lt value (by omega)
  rw [nearest, text, doubleText_finite nonzero, shown, same, integerDigits_eq]

/-- Conditions on the number show these digits, whatever their field and their operator are. -/
def Shows (number : Number) (digits : List Char) : Prop :=
  ∀ field operator,
    (Condition.statement? ⟨field, operator, .number number⟩).map (Option.map Statement.text) =
      .ok (if field = "" then none
        else some (field.toList ++ ' ' :: operator.token.toList ++ ' ' :: digits))

/-- Conditions on a finite number show its text. -/
theorem shows_text {number : Number} (finite : number.isFinite = true) : number.Shows number.text :=
  fun _ _ => Condition.text_statement?_of_number (Value.term?_of_isFinite finite)

/-- Integers up to `2 ^ 53` are shown in their digits, whether they come as integers or as doubles, and
integral doubles below `1e21` are printed in the digits of an integer that rounds to them. -/
theorem integral_shows :
    (∀ integer : Int64, |integer.toInt| ≤ 2 ^ 53 →
      Shows (.int integer) (integerDigits integer.toInt) ∧
        Shows (.float (.ofInt integer.toInt)) (integerDigits integer.toInt)) ∧
      ∀ (double : Double) (integer : Int), double.isFinite = true → double.value = integer →
        |integer| < 10 ^ 21 →
          ∃ printed : Int, text (.float double) = integerDigits printed ∧
            Binary.Rounds printed double := by
  constructor
  · intro integer small
    refine ⟨shows_text rfl, ?_⟩
    rw [← text_ofInt small]
    apply shows_text
    rw [Int.abs_eq_natAbs] at small
    exact Binary.isFinite_ofRatio_of_lt _ (by omega)
  · intro double integer finite exact small
    exact exists_text_eq_integerDigits finite exact small

/-- The last integer in both ranges, and the double `2 ^ 62`, whose text is padded with zeros. -/
theorem integral_shows_two_pow :
    |(0x20000000000000 : Int64).toInt| ≤ 2 ^ 53 ∧
      Shows (.int 0x20000000000000) (integerDigits 9007199254740992) ∧
      Shows (.float (.ofInt 9007199254740992)) (integerDigits 9007199254740992) ∧
      (Binary.ofInt (2 ^ 62) : Double).value = (2 ^ 62 : Int) ∧
      String.ofList (text (.float (.ofInt (2 ^ 62)))) = "4611686018427388000" ∧
      ∃ printed : Int, text (.float (.ofInt (2 ^ 62))) = integerDigits printed ∧
        Binary.Rounds printed (.ofInt (2 ^ 62) : Double) := by
  have small : |(0x20000000000000 : Int64).toInt| ≤ 2 ^ 53 := by decide
  have exact : (Binary.ofInt (2 ^ 62) : Double).value = (2 ^ 62 : Int) := by decide +kernel
  obtain ⟨shown, shownToo⟩ := integral_shows.1 0x20000000000000 small
  exact ⟨small, shown, shownToo, exact, by decide +kernel,
    integral_shows.2 (.ofInt (2 ^ 62)) (2 ^ 62) (by decide +kernel) exact (by decide)⟩

end Number

end FilterQuery
