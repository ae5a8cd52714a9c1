import FilterQuery.Proofs.Binary.Value
import FilterQuery.Proofs.Decimal.Shortest
import FilterQuery.Proofs.Number.Text
import FilterQuery.Proofs.Text.Lower

namespace FilterQuery

open Decimal

theorem Decimal.toLower_of_isDigit {c : Char} (digit : c.isDigit = true) : c.toLower = c := by
  have last : c.toNat ≤ 57 := (Char.isDigit_iff_toNat.mp digit).2
  exact Text.toLower_of_outside (by omega)

/-- A spelling behind a sign is not the name of a value that is no finite number, so the number
nearest to its literal is read. -/
theorem Binary.read?_spelling {format : Binary.Format} (negative : Bool) (spelling : Spelling) :
    Binary.read? (signText negative ++ spelling.text) =
      some ((spelling.literal negative).toBinary format) := by
  have unsigned := takeSign_signText_append negative spelling.text_ne_nil
    spelling.isDigit_of_mem_head?
  obtain ⟨c, rest, split⟩ := List.exists_cons_of_ne_nil spelling.text_ne_nil
  have digit : c.isDigit = true := spelling.isDigit_of_mem_head? c (by simp [split])
  have lower : spelling.text.map Char.toLower = c :: rest.map Char.toLower := by
    rw [split, List.map_cons, toLower_of_isDigit digit]
  have first : c ≠ 'i' := ne_of_isDigit digit rfl
  have other : c ≠ 'n' := ne_of_isDigit digit rfl
  have infinity : namesInfinity spelling.text = false := by simp [namesInfinity, lower, first]
  have nan : namesNan spelling.text = false := by simp [namesNan, lower, other]
  simp only [read?, unsigned, infinity, nan, Bool.false_eq_true, if_false, Spelling.read?_text,
    Option.map_some]

/-- A spelling behind a sign reads as the finite number that it rounds to. -/
theorem Binary.read?_spelling_of_rounds {format : Binary.Format} (proper : format.IsProper)
    (negative : Bool) {spelling : Spelling} {code : Fin format.infinityCode}
    (rounds : format.Rounds spelling.value code) :
    Binary.read? (signText negative ++ spelling.text) = some (.finite negative code) := by
  rw [← Spelling.value_magnitude_literal negative] at rounds
  rw [read?_spelling]
  exact congrArg some (ofDecimal_eq_of_rounds proper negative rounds)

namespace Number

/-- The value of a number; one that is not finite counts as zero. -/
def value : Number → ℚ
  | .int value => value.toInt
  | .float value => value.value

theorem inRange_iff {value : Int} : inRange value = true ↔ -2 ^ 63 ≤ value ∧ value < 2 ^ 63 := by
  simp [inRange]

theorem inRange_toInt (value : Int64) : inRange value.toInt = true :=
  inRange_iff.mpr ⟨value.le_toInt, value.toInt_lt⟩

theorem toInt_ofInt_of_inRange {value : Int} (inside : inRange value = true) :
    (Int64.ofInt value).toInt = value :=
  Int64.toInt_ofInt_of_le (inRange_iff.mp inside).1 (inRange_iff.mp inside).2

/-- The text of an integer reads back as the integer. -/
theorem read?_integerDigits {value : Int} (inside : inRange value = true) :
    read? (integerDigits value) = some (.int (.ofInt value)) := by
  rw [read?, readInteger?_integerDigits, Option.filter_some, if_pos inside]

/-- A spelling behind a sign reads as an integer, or as the double that it rounds to. -/
theorem read?_spelling (negative : Bool) {spelling : Spelling}
    {code : Fin Binary.Format.double.infinityCode}
    (rounds : Binary.Format.double.Rounds spelling.value code) :
    read? (signText negative ++ spelling.text) =
      if spelling.IsPlain ∧ inRange (signed negative (valueOf spelling.whole)) = true then
        some (.int (.ofInt (signed negative (valueOf spelling.whole))))
      else some (.float (.finite negative code)) := by
  have double : ((Binary.read? (signText negative ++ spelling.text)).filter
      Binary.isFinite).map float = some (.float (.finite negative code)) := by
    rw [Binary.read?_spelling_of_rounds Binary.Format.double_isProper negative rounds,
      Option.filter_some, Binary.isFinite_finite, if_pos rfl, Option.map_some]
  rw [read?, Spelling.readInteger?_text, double]
  by_cases plain : spelling.IsPlain
  · rw [if_pos plain, Option.filter_some]
    by_cases inside : inRange (signed negative (valueOf spelling.whole)) = true
    · rw [if_pos inside, if_pos ⟨plain, inside⟩]
    · rw [if_neg inside, if_neg fun both => inside both.2]
  · rw [if_neg plain, if_neg fun both => plain both.1, Option.filter_none]

/-- A number reads its text as another one: both have the same text, an integer is itself, and a
double is the one that the value read rounds to. -/
structure Reads (number reading : Number) : Prop where
  read : read? number.text = some reading
  finite : reading.isFinite = true
  text : reading.text = number.text
  int : ∀ value, number = .int value → reading = .int value
  float : ∀ value, number = .float value → Binary.Rounds reading.value value

theorem reads_int (value : Int64) : Reads (.int value) (.int value) where
  read := by rw [text, read?_integerDigits (inRange_toInt value), Int64.ofInt_toInt]
  finite := rfl
  text := rfl
  int := fun _ equal => equal
  float := nofun

/-- A zero of either sign reads back as the integer. -/
theorem reads_zero (negative : Bool) {code : Fin Binary.Format.double.infinityCode}
    (zero : code.val = 0) : Reads (.float (.finite negative code)) (.int 0) where
  read := by
    rw [text, doubleText, if_pos zero]
    decide
  finite := rfl
  text := by
    rw [text, text, doubleText, if_pos zero]
    decide
  int := nofun
  float := fun _ equal => by
    cases equal
    have rounds := Binary.Format.rounds_value .double code
    rw [zero, Binary.Format.value_zero] at rounds
    simpa [Binary.Rounds, value, zero] using rounds

/-- The text of a double other than zero reads back as a double or as an integer. -/
theorem exists_reads_finite (negative : Bool) {code : Fin Binary.Format.double.infinityCode}
    (nonzero : code.val ≠ 0) : ∃ reading, Reads (.float (.finite negative code)) reading := by
  obtain ⟨spelling, spelled, denotes, canonical⟩ := exists_spelling_magnitudeText code.val
  have rounds : Binary.Format.double.Rounds spelling.value code := by
    rw [denotes]
    exact rounds_shortest .greater .double code
  have written : text (.float (.finite negative code)) = signText negative ++ spelling.text := by
    rw [text, doubleText_finite nonzero, spelled]
  have found := read?_spelling negative rounds
  by_cases whole : spelling.IsPlain ∧ inRange (signed negative (valueOf spelling.whole)) = true
  · obtain ⟨plain, inside⟩ := whole
    rw [if_pos ⟨plain, inside⟩, ← written] at found
    have digits : spelling.value = valueOf spelling.whole := Spelling.value_of_isPlain plain
    have positive : 0 < valueOf spelling.whole := by
      have some := rounds.pos nonzero
      rw [digits] at some
      exact_mod_cast some
    refine ⟨_, found, rfl, ?_, fun _ equal => (by cases equal), fun value equal => ?_⟩
    · rw [written, text, toInt_ofInt_of_inRange inside, integerDigits_signed negative positive,
        canonical (significand_shortest_pos .greater .double nonzero) plain,
        Spelling.text_of_isPlain plain]
    · cases equal
      rw [digits] at rounds
      rw [Number.value, toInt_ofInt_of_inRange inside]
      cases negative <;> simpa [Binary.Rounds, signed] using rounds
  · rw [if_neg whole, ← written] at found
    refine ⟨_, found, rfl, rfl, fun _ equal => (by cases equal), fun value equal => ?_⟩
    cases equal
    exact Binary.rounds_value (Binary.isFinite_finite negative code)

/-- The text of every finite number reads back. -/
theorem exists_reads {number : Number} (finite : number.isFinite = true) :
    ∃ reading, Reads number reading := by
  cases number with
  | int value => exact ⟨_, reads_int value⟩
  | float value =>
      cases value with
      | nan => cases finite
      | infinite negative => cases finite
      | finite negative code =>
          by_cases zero : code.val = 0
          · exact ⟨_, reads_zero negative zero⟩
          · exact exists_reads_finite negative zero

end Number

end FilterQuery
