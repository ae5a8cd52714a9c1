import FilterQuery.Proofs.Number.Canonical
import FilterQuery.Proofs.Number.Numeral
import FilterQuery.Value

/-!
Singles. A single becomes a number by way of its shortest digits, and the double that is nearest to
them has no shorter ones. The main statement says that the text of this number writes down the decimal
that the shortest text of the single writes down, and that the single is read back from it.
-/

namespace FilterQuery

open Decimal
open Binary (Format)

/-- The text writes down a rational number in decimal digits. -/
def WritesDown (text : List Char) (rational : ℚ) : Prop :=
  ∃ numeral : DecimalNumeral, numeral.text = text ∧ numeral.value = rational

/-- A spelling behind a sign writes down its value with this sign. -/
theorem writesDown_spelling (negative : Bool) (spelling : Spelling) :
    WritesDown (signText negative ++ spelling.text)
      (if negative then -spelling.value else spelling.value) := by
  obtain ⟨numeral, text, literal⟩ :=
    DecimalNumeral.read?_eq_some_iff.mp (spelling.read?_text negative)
  refine ⟨numeral, text, ?_⟩
  have sign : numeral.sign.isNegative = negative := congrArg Literal.negative literal
  have magnitude : numeral.magnitude = spelling.value := by
    rw [← Spelling.value_magnitude_literal negative, ← literal]
    rfl
  rw [DecimalNumeral.value, sign, magnitude]

/-- Zero is written down behind either sign. -/
theorem writesDown_zero (negative : Bool) : WritesDown (signText negative ++ ['0']) 0 := by
  have written := writesDown_spelling negative (.ofNat 0)
  have zero : (Spelling.ofNat 0).value = 0 := by
    rw [Spelling.value_of_isPlain (Spelling.isPlain_ofNat 0)]
    rfl
  rw [zero, neg_zero, ite_self] at written
  exact written

/-- The shortest text of a single, in positional digits. -/
def shortestText : Single → List Char
  | .nan => ['N', 'a', 'N']
  | .infinite negative => signText negative ++ ['i', 'n', 'f']
  | .finite negative code =>
      signText negative ++
        if code.val = 0 then ['0'] else (shortest .greater .single code.val).positional

theorem shortestText_finite {negative : Bool} {code : Fin Format.single.infinityCode}
    (nonzero : code.val ≠ 0) :
    shortestText (.finite negative code) =
      signText negative ++ (shortest .greater .single code).positional := by
  rw [shortestText, if_neg nonzero]

/-- The shortest digits of a single lie in the range where doubles have their full precision. -/
theorem value_shortest_single {code : Nat} (nonzero : code ≠ 0)
    (finite : code < Format.single.infinityCode) :
    (Format.double.fullSignificand / 2 ^ Format.double.scale : ℚ) ≤
        (shortest .greater .single code).value ∧
      2 * (shortest .greater .single code).value < 2 ^ 2 ^ (Format.double.exponentWidth - 1) := by
  have rounds := rounds_shortest .greater .single code
  constructor
  · have least : (1 / 2 ^ 149 : ℚ) ≤ Format.value .single code := by
      have unit : Format.value .single 1 = 1 / 2 ^ 149 := by
        rw [Format.value, Format.units_of_lt _ (by decide), Nat.cast_one]
        rfl
      rw [← unit]
      exact (Format.value_strictMono .single).monotone (Nat.pos_of_ne_zero nonzero)
    have below := rounds.between.1
    have previous := Format.value_nonneg .single (code - 1)
    have room : (Format.double.fullSignificand / 2 ^ Format.double.scale : ℚ) ≤ 1 / 2 ^ 150 := by
      change ((Nat.pow 2 52 : Nat) / 2 ^ 1074 : ℚ) ≤ 1 / 2 ^ 150
      rw [div_le_div_iff₀ (by positivity) (by positivity), Nat.pow_eq, Nat.cast_pow, one_mul,
        Nat.cast_ofNat, ← pow_add]
      exact pow_le_pow_right₀ (by norm_num) (by decide)
    linarith
  · have most := rounds.le_infinity Format.single_isProper finite
    calc 2 * (shortest .greater .single code).value
      _ ≤ 2 * 2 ^ 2 ^ 7 := mul_le_mul_of_nonneg_left most (by norm_num)
      _ = 2 ^ (2 ^ 7 + 1) := (pow_succ' 2 (2 ^ 7)).symm
      _ < 2 ^ 2 ^ (Format.double.exponentWidth - 1) := pow_lt_pow_right₀ (by norm_num) (by decide)

/-- The shortest digits of a single are those of the double that they round to. -/
theorem exists_double_of_single {code : Nat} (nonzero : code ≠ 0)
    (finite : code < Format.single.infinityCode) :
    ∃ wide : Fin Format.double.infinityCode, wide.val ≠ 0 ∧
      Format.double.Rounds (shortest .greater .single code).value wide ∧
        shortest .greater .double wide = shortest .greater .single code := by
  obtain ⟨normal, small⟩ := value_shortest_single nonzero finite
  have reduced := isReduced_shortest .greater .single nonzero
  have few : (shortest .greater .single code).digits.length ≤ 9 :=
    length_digits_shortest_le .greater .single nonzero (by decide)
  obtain ⟨wide, rounds, same⟩ := exists_shortest_eq .greater Format.double_isProper reduced
    (few.trans (by decide : 9 ≤ 15)) (by decide) (by decide) normal small
  refine ⟨wide, ?_, rounds, same⟩
  intro zero
  have digits := reduced.positive
  rw [← same, zero] at digits
  exact absurd digits (by decide +kernel)

namespace Number

/-- A number keeps the digits of a single: its text writes down what the shortest text of the single
writes down, in the same digits, and the single is read from it. -/
structure KeepsDigits (number : Number) (single : Single) : Prop where
  written : ∃ rational, WritesDown number.text rational ∧ WritesDown (shortestText single) rational
  digits : significantDigits number.text = significantDigits (shortestText single)
  read : ∃ reading : Single, Binary.read? number.text = some reading ∧ reading.isFinite = true ∧
    reading.value = single.value ∧ (single.isZero = false → reading = single)

section Finite

variable (negative : Bool) {code : Fin Format.single.infinityCode}

/-- A single zero becomes a zero. -/
theorem keepsDigits_zero (zero : code.val = 0) :
    (ofSingle (.finite negative code)).KeepsDigits (.finite negative code) := by
  have text : (ofSingle (.finite negative code)).text = ['0'] := by
    rw [ofSingle, if_pos zero]
    rfl
  have shown : shortestText (.finite negative code) = signText negative ++ ['0'] := by
    rw [shortestText, if_pos zero]
  have isZero : (Binary.finite negative code : Single).isZero = true := by
    simp [Binary.isZero, zero]
  constructor
  case written =>
    rw [text, shown]
    exact ⟨0, writesDown_zero false, writesDown_zero negative⟩
  case digits =>
    rw [text, shown]
    cases negative <;> rfl
  case read =>
    have read : Binary.read? ['0'] = some (Binary.ofCode false 0 : Single) := by decide
    refine ⟨.ofCode false 0, text ▸ read, rfl, ?_, ?_⟩
    · rw [Binary.value_of_isZero isZero]
      exact Binary.value_of_isZero rfl
    · intro nonzero
      rw [isZero] at nonzero
      cases nonzero

/-- Any other finite single becomes the double that its shortest digits round to. -/
theorem ofSingle_finite (nonzero : code.val ≠ 0) {wide : Fin Format.double.infinityCode}
    (rounds : Format.double.Rounds (shortest .greater .single code).value wide) :
    ofSingle (.finite negative code) = .float (.finite negative wide) := by
  rw [ofSingle, if_neg nonzero]
  exact congrArg float (Binary.ofDecimal_eq_of_rounds Format.double_isProper negative rounds)

/-- This double has the same shortest digits. -/
theorem keepsDigits_finite (nonzero : code.val ≠ 0) :
    (ofSingle (.finite negative code)).KeepsDigits (.finite negative code) := by
  obtain ⟨wide, positive, rounds, same⟩ := exists_double_of_single nonzero code.isLt
  have reduced := isReduced_shortest .greater .single nonzero
  have widened := ofSingle_finite negative nonzero rounds
  obtain ⟨spelling, spelled, denotes, -⟩ := exists_spelling_magnitudeText wide
  rw [same] at denotes
  have text : (ofSingle (.finite negative code)).text = signText negative ++ spelling.text := by
    rw [widened, Number.text, doubleText_finite positive, spelled]
  constructor
  case written =>
    obtain ⟨own, ownSpelled, ownDenotes, -⟩ :=
      exists_spelling_positional (shortest .greater .single code)
    refine ⟨_, text ▸ writesDown_spelling negative spelling, ?_⟩
    rw [shortestText_finite nonzero, ← ownSpelled, denotes, ← ownDenotes]
    exact writesDown_spelling negative own
  case digits =>
    rw [shortestText_finite nonzero, reduced.significantDigits_positional, widened,
      (forms_finite negative positive).2.2, same]
  case read =>
    have own := rounds_shortest .greater .single code
    rw [← denotes] at own
    refine ⟨.finite negative code, ?_, rfl, rfl, fun _ => rfl⟩
    rw [text]
    exact Binary.read?_spelling_of_rounds Format.single_isProper negative own

end Finite

/-- A single becomes the double that is read from its shortest text. -/
theorem exists_ofSingle (single : Single) :
    ∃ widened, ofSingle single = .float widened ∧ widened.isFinite = single.isFinite ∧
      Binary.read? (shortestText single) = some widened := by
  cases single with
  | nan => exact ⟨.nan, rfl, rfl, by decide⟩
  | infinite negative => exact ⟨.infinite negative, rfl, rfl, by cases negative <;> decide⟩
  | finite negative code =>
      by_cases zero : code.val = 0
      · refine ⟨.ofCode negative 0, ?_, rfl, ?_⟩
        · rw [ofSingle, if_pos zero]
        · rw [shortestText, if_pos zero]
          cases negative <;> decide
      · obtain ⟨wide, -, rounds, -⟩ := exists_double_of_single zero code.isLt
        refine ⟨.finite negative wide, ofSingle_finite negative zero rounds, rfl, ?_⟩
        obtain ⟨spelling, spelled, denotes, -⟩ :=
          exists_spelling_positional (shortest .greater .single code)
        rw [shortestText_finite zero, ← spelled]
        rw [← denotes] at rounds
        exact Binary.read?_spelling_of_rounds Format.double_isProper negative rounds

/-- Every finite single becomes a number that keeps its digits. -/
theorem keepsDigits_of_isFinite {single : Single} (finite : single.isFinite = true) :
    (ofSingle single).KeepsDigits single := by
  cases single with
  | nan => cases finite
  | infinite negative => cases finite
  | finite negative code =>
      by_cases zero : code.val = 0
      · exact keepsDigits_zero negative zero
      · exact keepsDigits_finite negative zero

/-- A single other than zero is known from the text of a number that keeps its digits. -/
theorem KeepsDigits.eq_of_text_eq {first second : Single} {number other : Number}
    (keeps : number.KeepsDigits first) (keepsOther : other.KeepsDigits second)
    (nonzero : first.isZero = false) (otherNonzero : second.isZero = false)
    (same : number.text = other.text) : first = second := by
  obtain ⟨reading, read, -, -, back⟩ := keeps.read
  obtain ⟨otherReading, otherRead, -, -, otherBack⟩ := keepsOther.read
  rw [same, otherRead, Option.some.injEq] at read
  rw [← back nonzero, ← otherBack otherNonzero, read]

end Number

/-- A number stands for a single: it is the double that is read from the shortest text of the single,
it keeps the digits of a finite single and tells it from others, and is left out of a filter if the
single is not finite. -/
structure StandsFor (number : Number) (single : Single) : Prop where
  parsed : ∃ widened, number = .float widened ∧ Binary.read? (shortestText single) = some widened
  keeps : single.isFinite = true → number.KeepsDigits single
  distinct : ∀ other : Single, single.isFinite = true → other.isFinite = true →
    single.isZero = false → other.isZero = false →
      (toNumber other).text = number.text → other = single
  finite : number.isFinite = single.isFinite
  omitted : single.isFinite = false → (Value.number number).term? = none

/-- The number that a single is converted to stands for it. -/
theorem standsFor_toNumber (single : Single) : StandsFor (toNumber single) single := by
  obtain ⟨widened, converted, finite, parsed⟩ := Number.exists_ofSingle single
  have alike : (toNumber single).isFinite = single.isFinite := by
    change (Number.ofSingle single).isFinite = single.isFinite
    rw [converted, ← finite]
    rfl
  constructor
  case parsed => exact ⟨widened, converted, parsed⟩
  case keeps => exact Number.keepsDigits_of_isFinite
  case distinct =>
    intro other finite otherFinite nonzero otherNonzero same
    exact (Number.keepsDigits_of_isFinite otherFinite).eq_of_text_eq
      (Number.keepsDigits_of_isFinite finite) otherNonzero nonzero same
  case finite => exact alike
  case omitted =>
    intro infinite
    rw [Value.term?, alike, infinite]
    rfl

/-- The smallest single is printed in the one digit that tells it from its neighbours. -/
example : String.ofList (toNumber (.ofCode false 1 : Single)).text = "1e-45" ∧
    (shortestText (.ofCode false 1)).length = 47 := by
  decide +kernel

end FilterQuery
