import FilterQuery.Proofs.Decimal.Sign

namespace FilterQuery

namespace Binary

variable {format : Format}

/-- An integer of 64 bits is not too large for a double. -/
theorem isFinite_ofRatio_of_lt (negative : Bool) {magnitude : Nat} (small : magnitude < 2 ^ 64) :
    (ofRatio negative magnitude 1 : Double).isFinite = true := by
  rw [ofRatio, isFinite_ofCode, decide_eq_true_eq]
  refine (Format.rounds_nearest Format.double_isProper magnitude Nat.one_pos).lt_infinityCode
    Format.double_isProper ?_
  have bound : (magnitude : ℚ) < 2 ^ 64 := by exact_mod_cast small
  have room : (2 : ℚ) ^ 65 ≤ 2 ^ 2 ^ (Format.double.exponentWidth - 1) :=
    pow_le_pow_right₀ (by norm_num) (by decide)
  refine lt_of_lt_of_le ?_ room
  rw [Nat.cast_one, div_one]
  linarith

/-- A decimal without an exponent is a ratio with the denominator one. -/
theorem ofDecimal_zero (proper : format.IsProper) (negative : Bool) (significand : Nat) :
    (ofDecimal negative significand 0 : Binary format) = ofRatio negative significand 1 := by
  have nearest : format.nearestDecimal significand 0 = format.nearest significand 1 := by
    unfold Format.nearestDecimal
    split
    · rename_i zero
      refine ((Format.nearest_eq_iff proper Nat.one_pos).mpr ?_).symm
      simpa [zero] using Format.rounds_value format 0
    · change (if format.scale + 2 < 0 then format.infinityCode
        else format.nearest (significand * Nat.pow 10 0) 1) = _
      rw [if_neg (Nat.not_lt_zero _), Nat.pow_eq, pow_zero, Nat.mul_one]
  rw [ofDecimal, ofRatio, nearest]

end Binary

namespace Number

open Decimal

/-- An integer outside the range of 64 bits with a sign has the sign of its digits. -/
theorem ofInt_signed {negative : Bool} {magnitude : Nat}
    (outside : inRange (signed negative magnitude) = false) :
    ofInt (signed negative magnitude) = .float (.ofRatio negative magnitude 1) := by
  have range : ¬(-2 ^ 63 ≤ signed negative magnitude ∧ signed negative magnitude < 2 ^ 63) := by
    rw [← inRange_iff, outside]
    exact Bool.false_ne_true
  have sign : decide (signed negative magnitude < 0) = negative := by
    cases negative with
    | false => simp [signed]
    | true =>
        have positive : 0 < magnitude := by
          simp only [signed, if_true] at range
          omega
        simpa [signed] using positive
  have size : (signed negative magnitude).natAbs = magnitude := by
    cases negative <;> simp [signed]
  rw [ofInt, if_neg (by simp [outside]), sign, size]

/-- The number nearest to an integer of 64 bits is finite. -/
theorem isFinite_ofInt {negative : Bool} {magnitude : Nat} (small : magnitude < 2 ^ 64) :
    (ofInt (signed negative magnitude)).isFinite = true := by
  cases inside : inRange (signed negative magnitude) with
  | true => simp [ofInt, inside, isFinite]
  | false =>
      rw [ofInt_signed inside]
      exact Binary.isFinite_ofRatio_of_lt negative small

/-- Plain digits are read as the number nearest to their integer, if 64 bits hold its magnitude. -/
theorem read?_of_isPlain (sign : Sign) {spelling : Spelling} (plain : spelling.IsPlain)
    (small : valueOf spelling.whole < 2 ^ 64) :
    read? (sign.text ++ spelling.text) =
      some (.ofInt (signed sign.isNegative (valueOf spelling.whole))) := by
  rw [read?_append]
  cases inside : inRange (signed sign.isNegative (valueOf spelling.whole)) with
  | true => rw [if_pos ⟨plain, rfl⟩, ofInt, if_pos inside]
  | false =>
      have unmarked : spelling.exponent = 0 := by
        have marked := spelling.marked
        rw [plain.2] at marked
        exact (Option.some.inj marked).symm
      have double : (spelling.literal sign.isNegative).toBinary .double =
          .ofRatio sign.isNegative (valueOf spelling.whole) 1 := by
        rw [← Binary.ofDecimal_zero Binary.Format.double_isProper]
        simp [Literal.toBinary, Literal.magnitude, Spelling.literal, plain.1,
          unmarked]
      rw [if_neg (by simp), double, if_pos (Binary.isFinite_ofRatio_of_lt _ small),
        ofInt_signed inside]

end Number

end FilterQuery
