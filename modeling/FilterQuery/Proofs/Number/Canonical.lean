import FilterQuery.Proofs.Decimal.Form
import FilterQuery.Proofs.Decimal.Precision
import FilterQuery.Proofs.Number.Reading

/-!
The form of a number's text. The main statement says that integers, zeros and the doubles from
`1e-6` up to `1e21` are printed in positional digits and all other finite doubles with an exponent,
without superfluous zeros, with a minus for negative numbers only, and in 17 digits at most.
-/

namespace FilterQuery.Number

open Decimal

/-- The value of the double that is nearest to a power of ten. -/
def doublePower (power : Int) : ℚ := (Binary.ofDecimal false 1 power : Double).value

/-- The number is an integer, a zero or a double from `1e-6` up to `1e21`, which is left out. -/
def IsModerate : Number → Prop
  | .int _ => True
  | .float value =>
      value.value = 0 ∨ doublePower (-6) ≤ |value.value| ∧ |value.value| < doublePower 21

/-- The text of a number has the form for its size and no superfluous sign or digit. -/
structure Canonical (number : Number) : Prop where
  positional : number.IsModerate → number.text ∈ Form.positional
  scientific : ¬number.IsModerate → number.text ∈ Form.scientific
  negative : number.text.head? = some '-' ↔ number.value < 0
  zero : number.text = ['0'] ↔ number.value = 0
  signedZero : number.text ≠ ['-', '0']
  precision : ∀ value, number = .float value → (significantDigits number.text).length ≤ 17

section Finite

open Binary (Format)

variable {negative : Bool} {code : Fin Format.double.infinityCode}

theorem abs_value_finite (negative : Bool) (code : Fin Format.double.infinityCode) :
    |(Binary.finite negative code : Double).value| = Format.double.value code := by
  have positive := Format.value_nonneg .double code
  cases negative with
  | false => exact abs_of_nonneg positive
  | true => exact (abs_neg _).trans (abs_of_nonneg positive)

theorem value_finite_eq_zero_iff :
    (Binary.finite negative code : Double).value = 0 ↔ code.val = 0 := by
  rw [← abs_eq_zero, abs_value_finite]
  constructor
  · intro zero
    by_contra nonzero
    have positive := Format.value_strictMono .double (Nat.pos_of_ne_zero nonzero)
    rw [Format.value_zero, zero] at positive
    exact lt_irrefl 0 positive
  · intro zero
    rw [zero, Format.value_zero]

/-- A double other than zero is negative exactly if its sign is. -/
theorem value_finite_neg_iff (nonzero : code.val ≠ 0) :
    (Binary.finite negative code : Double).value < 0 ↔ negative = true := by
  have positive := Format.value_strictMono .double (Nat.pos_of_ne_zero nonzero)
  rw [Format.value_zero] at positive
  cases negative with
  | false => simpa [Binary.value] using positive.le
  | true => simpa [Binary.value] using positive

/-- The doubles nearest to the two powers of ten are finite and are printed as these powers. -/
theorem shortest_power : ∀ power ∈ [(-6 : Int), 21],
    Format.double.nearestDecimal 1 power < Format.double.infinityCode ∧
      shortest .greater .double (Format.double.nearestDecimal 1 power) = ⟨1, power⟩ := by
  decide +kernel

/-- A double reaches one of the two powers of ten exactly if its shortest decimal does. -/
theorem doublePower_le_iff (nonzero : code.val ≠ 0) {power : Int} (member : power ∈ [-6, 21]) :
    doublePower power ≤ |(Binary.finite negative code : Double).value| ↔
      power ≤ (shortest .greater .double code.val).leadingExponent := by
  obtain ⟨finite, reached⟩ := shortest_power power member
  rw [abs_value_finite, doublePower, Binary.ofDecimal, Binary.ofCode_of_lt false finite]
  change Format.double.value (Format.double.nearestDecimal 1 power) ≤ _ ↔ _
  rw [(Format.value_strictMono .double).le_iff_le, le_leadingExponent_shortest_iff reached nonzero]

/-- A double other than zero is moderate exactly if it is printed in positional digits. -/
theorem isModerate_finite_iff (nonzero : code.val ≠ 0) :
    IsModerate (.float (.finite negative code)) ↔
      isPositional (shortest .greater .double code.val) = true := by
  have first : (-6 : Int) ∈ [-6, 21] := by decide
  have second : (21 : Int) ∈ [-6, 21] := by decide
  rw [IsModerate, value_finite_eq_zero_iff, doublePower_le_iff nonzero first, ← not_le,
    doublePower_le_iff nonzero second, isPositional, Bool.and_eq_true, decide_eq_true_eq,
    decide_eq_true_eq]
  omega

/-- The text of a zero of either sign is canonical. -/
theorem canonical_zero (negative : Bool) (zero : code.val = 0) :
    Canonical (.float (.finite negative code)) := by
  have shown : text (.float (.finite negative code)) = ['0'] := by
    rw [text, doubleText, if_pos zero]
  have none : (Binary.finite negative code : Double).value = 0 := value_finite_eq_zero_iff.mpr zero
  have moderate : IsModerate (.float (.finite negative code)) := .inl none
  constructor
  case positional =>
    intro _
    rw [shown]
    exact integerDigits_mem_positional 0
  case scientific => exact fun other => absurd moderate other
  case negative =>
    rw [shown, value, none]
    decide
  case zero => exact ⟨fun _ => none, fun _ => shown⟩
  case signedZero =>
    rw [shown]
    decide
  case precision =>
    intro _ _
    rw [shown]
    decide

/-- A text behind a sign starts with a minus exactly if the sign is one. -/
theorem head?_signText_append {digits : List Char}
    (isDigit : ∀ c ∈ digits.head?, c.isDigit = true) :
    (signText negative ++ digits).head? = some '-' ↔ negative = true := by
  cases negative with
  | true => exact ⟨fun _ => rfl, fun _ => rfl⟩
  | false =>
      constructor
      · intro minus
        have digit := isDigit '-' minus
        cases digit
      · exact nofun

/-- The text of a double other than zero has the form for its size, and shows the digits of the
shortest decimal. -/
theorem forms_finite (negative : Bool) (nonzero : code.val ≠ 0) :
    (isPositional (shortest .greater .double code.val) = true →
        text (.float (.finite negative code)) ∈ Form.positional) ∧
      (¬isPositional (shortest .greater .double code.val) = true →
        text (.float (.finite negative code)) ∈ Form.scientific) ∧
      significantDigits (text (.float (.finite negative code))) =
        (shortest .greater .double code.val).digits := by
  have reduced := isReduced_shortest .greater .double nonzero
  rw [text, doubleText_finite nonzero, magnitudeText]
  split
  · rename_i placed
    exact ⟨fun _ => reduced.positional_mem negative, fun other => absurd placed other,
      reduced.significantDigits_positional negative⟩
  · rename_i outside
    refine ⟨fun placed => absurd placed outside, fun _ => ?_,
      reduced.significantDigits_scientific negative⟩
    apply reduced.scientific_mem negative
    rw [isPositional, Bool.and_eq_true, decide_eq_true_eq, decide_eq_true_eq] at outside
    omega

/-- The text of a double other than zero is canonical. -/
theorem canonical_finite (negative : Bool) (nonzero : code.val ≠ 0) :
    Canonical (.float (.finite negative code)) := by
  obtain ⟨placed, outside, shown⟩ := forms_finite negative nonzero
  have digits : significantDigits (text (.float (.finite negative code))) ≠ [] := by
    rw [shown]
    exact digits_ne_nil _
  have value : (Binary.finite negative code : Double).value ≠ 0 :=
    fun zero => nonzero (value_finite_eq_zero_iff.mp zero)
  constructor
  case positional => rwa [isModerate_finite_iff nonzero]
  case scientific => rwa [isModerate_finite_iff nonzero]
  case negative =>
    obtain ⟨spelling, spelled, -, -⟩ := exists_spelling_magnitudeText code.val
    rw [text, doubleText_finite nonzero, ← spelled,
      head?_signText_append spelling.isDigit_of_mem_head?]
    exact (value_finite_neg_iff nonzero).symm
  case zero =>
    constructor
    · intro zero
      rw [zero] at digits
      exact absurd (by decide) digits
    · intro zero
      exact absurd zero value
  case signedZero =>
    intro signed
    rw [signed] at digits
    exact digits (by decide)
  case precision =>
    intro _ _
    rw [shown]
    have wide : 2 * Format.double.fullSignificand < 10 ^ 16 := by decide
    exact length_digits_shortest_le .greater .double nonzero wide

end Finite

/-- The text of an integer is canonical. -/
theorem canonical_int (number : Int64) : Canonical (.int number) := by
  have back := readInteger?_integerDigits number.toInt
  constructor
  case positional => exact fun _ => integerDigits_mem_positional _
  case scientific => exact fun other => absurd trivial other
  case negative =>
    have digits : ∀ c ∈ (digitsOf number.toInt.natAbs).head?, c.isDigit = true :=
      fun c member => isDigit_of_mem_digitsOf (List.mem_of_mem_head? member)
    rw [text, integerDigits_eq, head?_signText_append digits, decide_eq_true_eq, value,
      Int.cast_lt_zero]
  case zero =>
    rw [text, value, Int.cast_eq_zero]
    constructor
    · intro zero
      rw [zero] at back
      exact (Option.some.inj back).symm
    · intro zero
      rw [zero]
      rfl
  case signedZero =>
    intro signed
    rw [text] at signed
    rw [signed] at back
    have zero : number.toInt = 0 := (Option.some.inj back).symm
    rw [zero] at signed
    exact absurd signed (by decide)
  case precision =>
    intro value equal
    cases equal

/-- The text of every finite number is canonical. -/
theorem canonical_of_isFinite (number : Number) (finite : number.isFinite = true) :
    number.Canonical := by
  cases number with
  | int value => exact canonical_int value
  | float value =>
      cases value with
      | nan => cases finite
      | infinite negative => cases finite
      | finite negative code =>
          by_cases zero : code.val = 0
          · exact canonical_zero negative zero
          · exact canonical_finite negative zero

/-- The greatest double below `1e21` has 16 digits, which do not round up to the next power. -/
theorem canonical_of_below_sextillion :
    (float (.ofCode false (Binary.Format.double.nearestDecimal 1 21 - 1))).isFinite = true ∧
      String.ofList (text (.float (.ofCode false (Binary.Format.double.nearestDecimal 1 21 - 1)))) =
        "999999999999999900000" ∧
      (float (.ofCode false (Binary.Format.double.nearestDecimal 1 21 - 1))).Canonical :=
  ⟨by decide +kernel, by decide +kernel, canonical_of_isFinite _ (by decide +kernel)⟩

end FilterQuery.Number
