import FilterQuery.Proofs.Decimal.Numeral
import FilterQuery.Proofs.Number.Whole

namespace FilterQuery

open Decimal
open Binary (Format)

namespace DecimalNumeral

/-- The numeral is plain and its integer fits 64 bits with a sign. -/
def IsNarrow (numeral : DecimalNumeral) : Prop :=
  numeral.IsPlain ∧ -2 ^ 63 ≤ numeral.value ∧ numeral.value < 2 ^ 63

/-- A narrow numeral denotes its integer; any other numeral denotes the double of its sign whose
magnitude its own magnitude rounds to. -/
def Denotes (numeral : DecimalNumeral) : Number → Prop
  | .int value => numeral.IsPlain ∧ numeral.value = value.toInt
  | .float value => ¬numeral.IsNarrow ∧
      ∃ code, value = .finite numeral.sign.isNegative code ∧
        Format.double.Rounds numeral.magnitude code.val

variable {numeral : DecimalNumeral}

/-- A plain numeral denotes the integer of its sign and its digits. -/
theorem value_of_isPlain (plain : numeral.IsPlain) :
    numeral.value = (signed numeral.sign.isNegative (valueOf numeral.whole) : Int) := by
  have exact : numeral.magnitude = valueOf numeral.whole := by
    simp [magnitude, plain.1, plain.2, ExponentMark.exponent]
  rw [value, exact, signed]
  split
  · push_cast
    rfl
  · push_cast
    rfl

theorem isNarrow_iff (plain : numeral.IsPlain) : numeral.IsNarrow ↔
    Number.inRange (signed numeral.sign.isNegative (valueOf numeral.whole)) = true := by
  rw [IsNarrow, value_of_isPlain plain, Number.inRange_iff]
  constructor
  · rintro ⟨-, lower, upper⟩
    exact ⟨by exact_mod_cast lower, by exact_mod_cast upper⟩
  · rintro ⟨lower, upper⟩
    exact ⟨plain, by exact_mod_cast lower, by exact_mod_cast upper⟩

/-- A narrow numeral denotes its integer and nothing else. -/
theorem denotes_iff_of_isNarrow (narrow : numeral.IsNarrow) {number : Number} :
    numeral.Denotes number ↔
      number = .int (.ofInt (signed numeral.sign.isNegative (valueOf numeral.whole))) := by
  have plain := narrow.1
  have inside := (isNarrow_iff plain).mp narrow
  cases number with
  | float value => exact ⟨fun denotes => absurd narrow denotes.1, nofun⟩
  | int value =>
      rw [Denotes, value_of_isPlain plain, Number.int.injEq]
      constructor
      · rintro ⟨-, exact⟩
        have same : signed numeral.sign.isNegative (valueOf numeral.whole) = value.toInt := by
          exact_mod_cast exact
        rw [same, Int64.ofInt_toInt]
      · rintro rfl
        rw [Number.toInt_ofInt_of_inRange inside]
        exact ⟨plain, rfl⟩

/-- Other numerals denote the number found for their literal, if it is finite. -/
theorem denotes_iff_of_not_isNarrow (wide : ¬numeral.IsNarrow) {number : Number} :
    numeral.Denotes number ↔ ∃ value : Double, number = .float value ∧ value.isFinite = true ∧
      numeral.literal.toBinary .double = value := by
  have exact : numeral.magnitude =
      numeral.literal.magnitude.significand * 10 ^ numeral.literal.magnitude.exponent := rfl
  cases number with
  | int value =>
      constructor
      · rintro ⟨plain, same⟩
        have inside := (isNarrow_iff plain).not.mp wide
        rw [value_of_isPlain plain, Int.cast_inj] at same
        rw [same] at inside
        exact absurd (Number.inRange_toInt value) inside
      · rintro ⟨_, equal, _⟩
        cases equal
  | float value =>
      constructor
      · rintro ⟨-, code, rfl, rounds⟩
        refine ⟨_, rfl, rfl, ?_⟩
        rw [exact] at rounds
        exact Binary.ofDecimal_eq_of_rounds Format.double_isProper _ rounds
      · rintro ⟨found, equal, finite, nearest⟩
        cases equal
        cases value with
        | nan => cases finite
        | infinite negative => cases finite
        | finite negative code =>
            obtain ⟨same, rounds⟩ :=
              (Binary.ofDecimal_eq_finite_iff Format.double_isProper).mp nearest
            rw [← exact] at rounds
            exact ⟨wide, code, by rw [← same]; rfl, rounds⟩

/-- A numeral is not the name of a value that is no finite number, so the number nearest to its
literal is read. -/
theorem read?_binary (format : Format) (numeral : DecimalNumeral) :
    Binary.read? numeral.text = some (numeral.literal.toBinary format) := by
  obtain ⟨c, rest, split, start⟩ := numeral.start_body
  have lower : numeral.body.map Char.toLower = c :: rest.map Char.toLower := by
    rw [split, List.map_cons]
    rcases start with digit | rfl
    · rw [toLower_of_isDigit digit]
    · rfl
  have others : c ≠ 'i' ∧ c ≠ 'n' := by
    rcases start with digit | rfl
    · exact ⟨ne_of_isDigit digit rfl, ne_of_isDigit digit rfl⟩
    · decide
  have infinity : Binary.namesInfinity numeral.body = false := by
    simp [Binary.namesInfinity, lower, others.1]
  have nan : Binary.namesNan numeral.body = false := by
    simp [Binary.namesNan, lower, others.2]
  simp only [Binary.read?, takeSign_text, infinity, nan, Bool.false_eq_true, if_false, read?_text,
    Option.map_some]

/-- A finite number is only read from a numeral. -/
theorem exists_of_read?_binary {format : Format} {text : List Char} {value : Binary format}
    (found : (Binary.read? text).filter Binary.isFinite = some value) :
    ∃ numeral : DecimalNumeral, numeral.text = text := by
  obtain ⟨read, finite⟩ := Option.filter_eq_some_iff.mp found
  simp only [Binary.read?] at read
  split at read
  · cases read
    cases finite
  · split at read
    · cases read
      cases finite
    · obtain ⟨literal, written, -⟩ := Option.map_eq_some_iff.mp read
      obtain ⟨numeral, text, -⟩ := exists_of_read? written
      exact ⟨numeral, text⟩

/-- A numeral is read as the number that it denotes. -/
theorem read?_number_iff (numeral : DecimalNumeral) {number : Number} :
    Number.read? numeral.text = some number ↔ numeral.Denotes number := by
  rw [Number.read?, readInteger?_text]
  by_cases narrow : numeral.IsNarrow
  · have inside := (isNarrow_iff narrow.1).mp narrow
    rw [denotes_iff_of_isNarrow narrow, if_pos narrow.1, Option.filter_some, if_pos inside,
      Option.some.injEq, eq_comm]
  · have other : (if numeral.IsPlain then
        some (signed numeral.sign.isNegative (valueOf numeral.whole))
        else none).filter Number.inRange = none := by
      split
      · rename_i plain
        rw [Option.filter_some, if_neg ((isNarrow_iff plain).not.mp narrow)]
      · rfl
    rw [denotes_iff_of_not_isNarrow narrow, other, numeral.read?_binary, Option.map_eq_some_iff]
    simp only [Option.filter_eq_some_iff, Option.some.injEq]
    constructor
    · rintro ⟨value, ⟨nearest, finite⟩, rfl⟩
      exact ⟨value, rfl, finite, nearest⟩
    · rintro ⟨value, rfl, finite, nearest⟩
      exact ⟨value, ⟨nearest, finite⟩, rfl⟩

end DecimalNumeral

/-- A text is read as a number exactly if it is a numeral that denotes the number. -/
theorem Number.read?_eq_some_iff {text : List Char} {number : Number} :
    read? text = some number ↔
      ∃ numeral : DecimalNumeral, numeral.text = text ∧ numeral.Denotes number := by
  constructor
  · intro found
    have written : ∃ numeral : DecimalNumeral, numeral.text = text := by
      cases integer : (readInteger? text).filter inRange with
      | some value =>
          have read := (Option.filter_eq_some_iff.mp integer).1
          exact DecimalNumeral.exists_of_readInteger? read
      | none =>
          rw [read?, integer] at found
          obtain ⟨value, binary, -⟩ := Option.map_eq_some_iff.mp found
          exact DecimalNumeral.exists_of_read?_binary binary
    obtain ⟨numeral, rfl⟩ := written
    exact ⟨numeral, rfl, numeral.read?_number_iff.mp found⟩
  · rintro ⟨numeral, rfl, denotes⟩
    exact numeral.read?_number_iff.mpr denotes

end FilterQuery
