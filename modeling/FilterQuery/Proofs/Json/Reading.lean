import FilterQuery.Proofs.Json.Numeral
import FilterQuery.Proofs.Json.Scaling
import FilterQuery.Proofs.Json.Significand
import FilterQuery.Proofs.Number.Interchange

namespace FilterQuery

open Decimal Binary

def Decimal.signedValue (negative : Bool) (magnitude : ℚ) : ℚ :=
  if negative then -magnitude else magnitude

/-- A sign does not change distances. -/
theorem Decimal.abs_signedValue_sub (negative : Bool) (first second : ℚ) :
    |signedValue negative first - signedValue negative second| = |first - second| := by
  cases negative with
  | false => rfl
  | true => rw [signedValue, signedValue, if_pos rfl, if_pos rfl, neg_sub_neg, abs_sub_comm]

/-- The number nearest to an integer of 64 bits has its sign, and is near to it. -/
theorem Number.exists_value_ofInt (negative : Bool) {magnitude : Nat}
    (small : magnitude < 2 ^ 64) :
    ∃ found, (ofInt (signed negative magnitude)).value = signedValue negative found ∧ 0 ≤ found ∧
      Format.double.Near 2 0 magnitude found := by
  cases inside : inRange (signed negative magnitude) with
  | true =>
      refine ⟨magnitude, ?_, Nat.cast_nonneg _, ?_⟩
      · rw [ofInt, if_pos inside, value, toInt_ofInt_of_inRange inside, signed, signedValue]
        split <;> simp
      · exact (Format.Near.refl _ _).mono (Nat.zero_le 2) le_rfl (Nat.cast_nonneg _)
          (Nat.cast_nonneg _)
  | false =>
      have positive : 1 ≤ magnitude := by
        by_contra zero
        obtain rfl : magnitude = 0 := by omega
        cases negative <;> exact absurd inside (by decide)
      have finite := isFinite_ofRatio_of_lt negative small
      rw [ofRatio, isFinite_ofCode, decide_eq_true_eq] at finite
      refine ⟨_, ?_, Format.value_nonneg _ _, Json.Numeral.near_nearest_one positive⟩
      rw [ofInt_signed inside, ofRatio, ofCode_of_lt negative finite]
      rfl

namespace Json

namespace Numeral

variable {negative : Bool} {spelling : Spelling}

/-- A literal without a mark has no exponent. -/
theorem getD_exponent (negative : Bool) (spelling : Spelling) :
    (ofSpelling negative spelling).exponent.getD 0 = spelling.exponent := by
  have marked := spelling.marked
  simp only [ofSpelling]
  split
  · rename_i empty
    rw [empty] at marked
    exact Option.some.inj marked
  · rfl

/-- What a literal is read as: an integer by digits alone if 64 bits with a sign hold it and it is
not a zero with a sign, or else a double that is scaled from the digits kept. -/
theorem content?_ofSpelling (negative : Bool) (spelling : Spelling) :
    (ofSpelling negative spelling).content? =
      let first := accumulate 0 spelling.whole
      let second := accumulate first.1 spelling.fraction
      if spelling.IsPlain ∧ first.2 = 0 ∧
          (negative = true → 0 < first.1 ∧ first.1 ≤ 0x8000000000000000) then
        some (.integer (signed negative first.1))
      else
        (scale? second.1 (first.2 - (spelling.fraction.length - second.2) + spelling.exponent)).map
          fun magnitude => .float (.finite negative magnitude) := by
  have plain : ((ofSpelling negative spelling).fraction.isEmpty &&
      (ofSpelling negative spelling).exponent.isNone) = decide spelling.IsPlain := by
    rw [Bool.eq_iff_iff]
    by_cases empty : spelling.mark = [] <;> simp [ofSpelling, Spelling.IsPlain, empty]
  rw [content?, plain, getD_exponent]
  dsimp only [ofSpelling]
  refine if_congr ?_ rfl rfl
  cases negative <;> simp [and_assoc]

/-- A literal is read as an integer of 64 bits, or by scaling a significand that is near to it. -/
theorem content?_cases {content : Decoding.Content}
    (found : (ofSpelling negative spelling).content? = some content) :
    (spelling.IsPlain ∧ valueOf spelling.whole < 2 ^ 64 ∧
      content = .integer (signed negative (valueOf spelling.whole))) ∨
    ∃ significand exponent magnitude, significand < 2 ^ 64 ∧
      scale? significand exponent = some magnitude ∧
      Format.double.Near 1 0 spelling.value (significand * 10 ^ exponent) ∧
      content = .float (.finite negative magnitude) := by
  have first := kept_accumulate spelling.wholeDigits (show 0 < 2 ^ 64 by decide)
  have second := kept_accumulate spelling.fractionDigits first.fits
  rw [content?_ofSpelling] at found
  dsimp only at found
  split at found
  · rename_i integer
    obtain ⟨plain, complete, -⟩ := integer
    rw [complete] at first
    have same := first.eq
    rw [Nat.mul_zero, Nat.zero_add] at same
    have fits := first.fits
    rw [same] at found fits
    exact .inl ⟨plain, fits, (Option.some.inj found).symm⟩
  · obtain ⟨magnitude, scaled, rfl⟩ := Option.map_eq_some_iff.mp found
    refine .inr ⟨_, _, magnitude, second.fits, scaled, ?_, rfl⟩
    have near := (near_kept spelling.fractionDigits first second).mul
      (.refl _ (10 ^ (spelling.exponent - spelling.fraction.length))) (Nat.cast_nonneg _)
      (by positivity) (by positivity) (by positivity)
    have ten : (10 : ℚ) ≠ 0 := by norm_num
    rw [Nat.cast_mul, Nat.cast_pow, Nat.cast_ofNat, mul_assoc, ← zpow_natCast,
      ← zpow_add₀ ten] at near
    convert near using 3
    · rfl
    · push_cast
      ring

/-- All digits of a literal are read if 64 bits hold the number that they denote. -/
theorem content?_of_lt (small : valueOf (spelling.whole ++ spelling.fraction) < 2 ^ 64) :
    (ofSpelling negative spelling).content? =
      if spelling.IsPlain ∧ (negative = true → 0 < valueOf spelling.whole ∧
          valueOf spelling.whole ≤ 0x8000000000000000) then
        some (.integer (signed negative (valueOf spelling.whole)))
      else
        (scale? (valueOf (spelling.whole ++ spelling.fraction))
          (spelling.exponent - spelling.fraction.length)).map
            fun magnitude => .float (.finite negative magnitude) := by
  rw [valueOf_append] at small
  have wholeSmall : 10 ^ spelling.whole.length * 0 + valueOf spelling.whole < 2 ^ 64 := by
    have grown := Nat.le_mul_of_pos_left (valueOf spelling.whole)
      (Nat.pow_pos (n := spelling.fraction.length) (show 0 < 10 by decide))
    omega
  have first := accumulate_of_lt spelling.wholeDigits wholeSmall
  rw [Nat.mul_zero, Nat.zero_add] at first
  have second := accumulate_of_lt spelling.fractionDigits small
  rw [← valueOf_append] at second
  rw [content?_ofSpelling]
  simp only [first, second, true_and]
  congr 3
  ring_nf

/-- The number that a literal is read as is near to what it writes down. -/
theorem exists_near_value {content : Decoding.Content}
    (found : (ofSpelling negative spelling).content? = some content) :
    ∃ number magnitude, content.value? = .ok (.number number) ∧ number.isFinite = true ∧
      number.value = signedValue negative magnitude ∧
      Format.double.Near 9 (8 * unit) spelling.value magnitude := by
  have unitNonneg : 0 ≤ unit := unit_pos.le
  have denoted := spelling.value_nonneg
  rcases content?_cases found with ⟨plain, small, rfl⟩ | ⟨_, _, magnitude, fits, scaled, near, rfl⟩
  · obtain ⟨magnitude, same, nonneg, near⟩ := Number.exists_value_ofInt negative small
    rw [← Spelling.value_of_isPlain plain] at near
    exact ⟨_, magnitude, rfl, Number.isFinite_ofInt small, same,
      near.mono (by decide) (by positivity) denoted nonneg⟩
  · refine ⟨_, _, rfl, rfl, rfl, ?_⟩
    have error := near.trans (near_scale? fits scaled) le_rfl (by positivity)
    refine error.mono le_rfl ?_ denoted (Format.value_nonneg _ _)
    have few := mul_le_mul_of_nonneg_left (spread_pow_le_two (show 1 + 8 ≤ 16 by decide)) unitNonneg
    rw [zero_add]
    linarith

/-- Of the integers that 64 bits with a sign hold, only a zero with a sign is not read as one. -/
theorem valueOf_eq_zero (inside : Number.inRange (signed negative (valueOf spelling.whole)) = true)
    (other : ¬(negative = true → 0 < valueOf spelling.whole ∧
      valueOf spelling.whole ≤ 0x8000000000000000)) : valueOf spelling.whole = 0 := by
  have range := Number.inRange_iff.mp inside
  rw [Classical.not_imp] at other
  rw [signed, if_pos other.1] at range
  omega

/-- A double that a plain zero rounds to has the text of the integer. -/
theorem text_eq_of_zero (negative : Bool) {magnitude : Magnitude} (plain : spelling.IsPlain)
    (zero : valueOf spelling.whole = 0) (rounds : Format.double.Rounds spelling.value magnitude) :
    (Number.int (.ofInt (signed negative (valueOf spelling.whole)))).text =
      (Number.float (.finite negative magnitude)).text := by
  have none : magnitude.val = 0 := by
    rw [Spelling.value_of_isPlain plain, zero, Nat.cast_zero] at rounds
    exact rounds.unique (by simpa using Format.rounds_value .double 0)
  rw [zero, Number.text, Number.text, Number.doubleText, if_pos none]
  cases negative <;> decide

/-- A literal that scales once is read as a number of the same text as the one that is read from
its text. -/
theorem exists_same_text (negative : Bool)
    (once : ScalesOnce (valueOf (spelling.whole ++ spelling.fraction))
      (spelling.exponent - spelling.fraction.length)) :
    ∃ content number reading, (ofSpelling negative spelling).content? = some content ∧
      content.value? = .ok (.number number) ∧ number.isFinite = true ∧
      Number.read? (signText negative ++ spelling.text) = some reading ∧
      reading.text = number.text := by
  rw [content?_of_lt once.lt]
  split
  · rename_i integer
    have small : valueOf spelling.whole < 2 ^ 64 := by
      have fits := once.lt
      rwa [integer.1.1, List.append_nil] at fits
    have read := Number.read?_of_isPlain (.ofNegative negative) integer.1 small
    rw [Sign.text_ofNegative, Sign.isNegative_ofNegative] at read
    exact ⟨_, _, _, rfl, rfl, Number.isFinite_ofInt small, read, rfl⟩
  · rename_i other
    obtain ⟨magnitude, scaled, rounds⟩ := exists_scale? once
    have read := Number.read?_spelling negative rounds
    rw [scaled]
    split at read
    · rename_i integer
      have zero := valueOf_eq_zero integer.2 fun positive => other ⟨integer.1, positive⟩
      exact ⟨_, _, _, rfl, rfl, rfl, read, text_eq_of_zero negative integer.1 zero rounds⟩
    · exact ⟨_, _, _, rfl, rfl, rfl, read, rfl⟩

end Numeral

open Numeral

/-- The error of nine roundings. -/
theorem abs_signedValue_sub_le (negative : Bool) {exact found : ℚ} (nonneg : 0 ≤ exact)
    (near : Format.double.Near 9 (8 * unit) exact found) :
    |signedValue negative found - signedValue negative exact| ≤ exact / 2 ^ 48 + 1 / 2 ^ 1071 := by
  have spread : Format.double.spread ^ 9 - 1 ≤ 1 / 2 ^ 48 := by
    rw [Format.spread, Format.fullSignificand, Nat.pow_eq]
    norm_num
  have units : 8 * unit = 1 / 2 ^ 1071 := by
    rw [unit, show Format.double.scale = 3 + 1071 from rfl, pow_add]
    generalize (2 : ℚ) ^ 1071 = power
    rw [mul_one_div, div_mul_eq_div_div]
    norm_num
  have scaled := mul_le_mul_of_nonneg_left spread nonneg
  rw [abs_signedValue_sub, ← units]
  rw [mul_one_div] at scaled
  linarith [near.abs_sub_le]

/-- A literal with content is decoded as the value of this content. -/
theorem decodeValue_of_content? {negative : Bool} {spelling : Spelling} (strict : spelling.IsStrict)
    {content : Decoding.Content} {value : Value}
    (found : (ofSpelling negative spelling).content? = some content)
    (read : content.value? = .ok value) :
    decodeValue (signText negative ++ spelling.text) = .ok value := by
  rw [decodeValue_literal negative strict, found]
  dsimp only
  rw [read]
  rfl

/-- A literal that is decoded is decoded as a number that differs from what the literal writes down
by at most `2 ^ -48` of it and a few units of the smallest double. If one rounding leads to the
number, conditions on it have the same result as conditions on the text of the literal. -/
theorem decodeValue_literal_near (negative : Bool) {spelling : Spelling}
    (strict : spelling.IsStrict) :
    (∀ value, decodeValue (signText negative ++ spelling.text) = .ok value →
      ∃ number, value = .number number ∧ number.isFinite = true ∧
        |number.value - signedValue negative spelling.value| ≤
          spelling.value / 2 ^ 48 + 1 / 2 ^ 1071) ∧
    (ScalesOnce (valueOf (spelling.whole ++ spelling.fraction))
        (spelling.exponent - spelling.fraction.length) →
      ∃ value, decodeValue (signText negative ++ spelling.text) = .ok value ∧
        ∀ field operator,
          (Condition.statement? ⟨field, operator, value⟩).map (Option.map Statement.text) =
            (Condition.statement? ⟨field, operator,
              .text (String.ofList (signText negative ++ spelling.text))⟩).map
                (Option.map Statement.text)) := by
  refine ⟨fun value decoded => ?_, fun once => ?_⟩
  · cases found : (ofSpelling negative spelling).content? with
    | none =>
        rw [decodeValue_literal negative strict, found] at decoded
        cases decoded
    | some content =>
        obtain ⟨number, magnitude, read, finite, same, near⟩ := exists_near_value found
        rw [decodeValue_of_content? strict found read] at decoded
        refine ⟨number, (Except.ok.inj decoded).symm, finite, ?_⟩
        rw [same]
        exact abs_signedValue_sub_le negative spelling.value_nonneg near
  · obtain ⟨content, number, reading, found, read, finite, back, same⟩ :=
      exists_same_text negative once
    refine ⟨.number number, decodeValue_of_content? strict found read, fun field operator => ?_⟩
    have own := Value.term?_of_isFinite finite
    have other := (Sign.ofNegative negative).term?_text spelling
    rw [Sign.text_ofNegative, back] at other
    rw [Condition.text_statement?_of_number own, Condition.text_statement?_of_number other, same]

/-- The literal -1.5 is decoded, and one rounding leads to its number. -/
theorem decodeValue_literal_near_of_fraction :
    ∃ value, decodeValue ['-', '1', '.', '5'] = .ok value ∧
      (∃ number, value = .number number ∧ number.isFinite = true ∧
        |number.value - -(3 / 2)| ≤ 3 / 2 / 2 ^ 48 + 1 / 2 ^ 1071) ∧
      ∀ field operator,
        (Condition.statement? ⟨field, operator, value⟩).map (Option.map Statement.text) =
          (Condition.statement? ⟨field, operator, .text "-1.5"⟩).map
            (Option.map Statement.text) := by
  let spelling : Spelling :=
    ⟨['1'], ['5'], [], 0, by decide, List.forall_mem_singleton.mpr rfl,
      List.forall_mem_singleton.mpr rfl, rfl⟩
  have denoted : spelling.value = 3 / 2 := by
    have digits : valueOf ['1', '5'] = 15 := by decide
    simp only [Spelling.value, spelling, List.singleton_append, digits]
    norm_num
  have near := decodeValue_literal_near true (show spelling.IsStrict by decide)
  obtain ⟨value, decoded, same⟩ :=
    near.2 (show ScalesOnce 15 (.negSucc 0) from .down (by decide) (by decide))
  have bound := near.1 value decoded
  rw [denoted] at bound
  exact ⟨value, decoded, bound, same⟩

/-- The literal 3e23 takes two roundings, and is not decoded as the double nearest to it. -/
theorem decodeValue_three_e23 :
    (decodeValue "3e23".toList).toOption.map (fun value =>
        (Condition.statement? ⟨"a", .equal, value⟩).map (Option.map Statement.text)) =
      some (.ok (some "a = 2.9999999999999997e+23".toList)) ∧
    (Condition.statement? ⟨"a", .equal, .text "3e23"⟩).map (Option.map Statement.text) =
      .ok (some "a = 3e+23".toList) := by
  decide +kernel

end Json

end FilterQuery
