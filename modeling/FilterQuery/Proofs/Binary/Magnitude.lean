import FilterQuery.Binary.Format
import Mathlib.Tactic

namespace FilterQuery.Binary.Format

variable {format : Format}

/-- Significands and exponents of at least two bits. -/
structure IsProper (format : Format) : Prop where
  precision : 2 ≤ format.precision
  exponentWidth : 2 ≤ format.exponentWidth

theorem double_isProper : double.IsProper := ⟨by decide, by decide⟩

theorem single_isProper : single.IsProper := ⟨by decide, by decide⟩

theorem two_mul_fullSignificand (positive : 1 ≤ format.precision) :
    2 * format.fullSignificand = 2 ^ format.precision := by
  rw [fullSignificand, Nat.pow_eq, mul_comm, ← pow_succ, Nat.sub_add_cancel positive]

theorem fullSignificand_even (proper : format.IsProper) : format.fullSignificand % 2 = 0 := by
  have split : format.precision - 1 = format.precision - 2 + 1 := by
    have bits := proper.precision
    omega
  rw [fullSignificand, Nat.pow_eq, split, pow_succ, Nat.mul_mod_left]

/-- The magnitudes of one band are whole numbers of a power of two; the first magnitude of the next
band is one of them. -/
theorem units_band {exponent significand : Nat}
    (full : exponent = 0 ∨ format.fullSignificand ≤ significand)
    (bound : significand ≤ 2 * format.fullSignificand) :
    format.units (exponent * format.fullSignificand + significand) =
      significand * 2 ^ exponent := by
  have positive := format.fullSignificand_pos
  rcases Nat.lt_or_ge significand format.fullSignificand with below | above
  · have first : exponent = 0 := full.resolve_right (Nat.not_le.mpr below)
    rw [first, zero_mul, zero_add, units_of_lt format below, pow_zero, mul_one]
  · obtain ⟨offset, rfl⟩ := Nat.exists_eq_add_of_le above
    have shifted : exponent * format.fullSignificand + (format.fullSignificand + offset) =
        offset + format.fullSignificand * (exponent + 1) := by ring
    rw [units, shifted, Nat.add_mul_div_left _ _ positive, Nat.add_mul_mod_self_left]
    rcases Nat.lt_or_ge offset format.fullSignificand with inside | outside
    · simp [Nat.div_eq_of_lt inside, Nat.mod_eq_of_lt inside]
    · have last : offset = format.fullSignificand := by omega
      simp [last, Nat.div_self positive, Nat.add_comm 1, pow_succ]
      ring

/-- Each code stands in one band. -/
theorem exists_band (format : Format) (code : Nat) :
    ∃ exponent significand, code = exponent * format.fullSignificand + significand ∧
      (exponent = 0 ∨ format.fullSignificand ≤ significand) ∧
      significand < 2 * format.fullSignificand := by
  have positive := format.fullSignificand_pos
  have split := Nat.div_add_mod' code format.fullSignificand
  have rest := Nat.mod_lt code positive
  rcases Nat.eq_zero_or_pos (code / format.fullSignificand) with first | later
  · rw [first, zero_mul, zero_add] at split
    exact ⟨0, code, by simp, Or.inl rfl, by omega⟩
  · obtain ⟨exponent, band⟩ := Nat.exists_eq_add_of_le later
    rw [band] at split
    refine ⟨exponent, format.fullSignificand + code % format.fullSignificand, ?_,
      Or.inr (Nat.le_add_right _ _), by omega⟩
    conv_lhs => rw [← split]
    ring

/-- The magnitudes grow with their codes. -/
theorem units_strictMono (format : Format) : StrictMono format.units := by
  refine strictMono_nat_of_lt_succ fun code => ?_
  obtain ⟨exponent, significand, rfl, full, bound⟩ := exists_band format code
  rw [add_assoc, units_band full bound.le,
    units_band (full.imp_right (le_add_right ·)) (Nat.succ_le_of_lt bound), add_mul, one_mul]
  exact Nat.lt_add_of_pos_right (by positivity)

/-- The magnitude behind the finite ones is a power of two. -/
theorem units_infinityCode (proper : format.IsProper) :
    format.units format.infinityCode = 2 ^ (2 ^ (format.exponentWidth - 1) + format.scale) := by
  have width : 2 ^ format.exponentWidth = 2 * 2 ^ (format.exponentWidth - 1) := by
    rw [← pow_succ', Nat.sub_add_cancel (by have := proper.exponentWidth; omega)]
  have many : 2 ≤ 2 ^ (format.exponentWidth - 1) :=
    Nat.le_self_pow (by have := proper.exponentWidth; omega) 2
  have bits := proper.precision
  have code : format.infinityCode =
      (2 ^ format.exponentWidth - 2) * format.fullSignificand + format.fullSignificand := by
    rw [infinityCode, Nat.pow_eq, ← Nat.succ_mul]
    congr 1
    omega
  rw [code, units_band (Or.inr le_rfl) (by omega), fullSignificand, Nat.pow_eq, ← pow_add, scale,
    Nat.pow_eq]
  congr 1
  omega

def value (format : Format) (code : Nat) : ℚ := format.units code / 2 ^ format.scale

@[simp] theorem value_zero (format : Format) : format.value 0 = 0 := by simp [value]

theorem value_strictMono (format : Format) : StrictMono format.value := by
  intro first second less
  have units : (format.units first : ℚ) < format.units second := by
    exact_mod_cast units_strictMono format less
  exact div_lt_div_of_pos_right units (by positivity)

theorem value_nonneg (format : Format) (code : Nat) : 0 ≤ format.value code := by
  rw [← value_zero format]
  exact (value_strictMono format).monotone (Nat.zero_le code)

theorem value_infinityCode (proper : format.IsProper) :
    format.value format.infinityCode = 2 ^ 2 ^ (format.exponentWidth - 1) := by
  rw [value, units_infinityCode proper, pow_add, Nat.cast_mul]
  push_cast
  exact mul_div_cancel_right₀ _ (by positivity)

end FilterQuery.Binary.Format
