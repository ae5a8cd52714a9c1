import FilterQuery.Decimal.Shortest
import FilterQuery.Proofs.Binary.Rounding
import FilterQuery.Proofs.Decimal.Value

namespace FilterQuery.Decimal

open Binary (Format)

namespace Interval

/-- The weight of a format's smallest unit in half decimal units. -/
def weight (format : Format) : Nat := 2 * 5 ^ (format.scale + 1)

/-- The interval around a magnitude contains the points that its neighbours enclose. -/
theorem contains_around_iff (format : Format) (code point : Nat) :
    (around format code).contains point = true ↔
      format.Encloses (weight format) point code := by
  have doubled (units : Nat) :
      units * weight format = 2 * (units * Nat.pow 5 (format.scale + 1)) := by
    rw [weight, Nat.pow_eq]
    ring
  rcases Nat.mod_two_eq_zero_or_one code with even | odd
  · have closed : (code % 2 == 0) = true := by simp [even]
    simp only [contains, around, closed, if_true, Bool.and_eq_true, decide_eq_true_eq]
    refine ⟨fun inside => ⟨?_, by omega⟩, fun encloses => ?_⟩
    · rw [doubled, doubled]
      omega
    · have between := encloses.between
      rw [doubled, doubled] at between
      omega
  · have ends : (code % 2 == 0) = false := by simp [odd]
    simp only [contains, around, ends, Bool.false_eq_true, if_false, Bool.and_eq_true,
      decide_eq_true_eq]
    refine ⟨fun inside => ⟨?_, fun _ => ?_⟩, fun encloses => ?_⟩
    · rw [doubled, doubled]
      omega
    · rw [doubled, doubled]
      omega
    · have inside := encloses.inside odd
      rw [doubled, doubled] at inside
      omega

/-- A decimal unit is this weight of the smallest unit of the format. -/
theorem rounds_iff_contains {format : Format} {number : ℚ} {point : Nat}
    (counted : number * 10 ^ (format.scale + 1) = point) (code : Nat) :
    format.Rounds number code ↔ (around format code).contains point = true := by
  rw [contains_around_iff]
  refine Format.rounds_iff_encloses (by rw [weight]; positivity) ?_ code
  rw [← counted, weight, show (10 : ℚ) = 2 * 5 by norm_num, mul_pow]
  push_cast
  ring

/-- The centre of the interval around a magnitude is the magnitude in decimal units. -/
theorem value_mul_pow (format : Format) (code : Nat) :
    format.value code * 10 ^ (format.scale + 1) = (around format code).centre := by
  rw [Format.value, around, Nat.pow_eq, show (10 : ℚ) = 2 * 5 by norm_num, mul_pow]
  push_cast
  field_simp
  ring

/-- The interval around a magnitude contains its centre. -/
theorem contains_centre (format : Format) (code : Nat) :
    (around format code).contains (around format code).centre = true :=
  (rounds_iff_contains (value_mul_pow format code) code).mp (Format.rounds_value format code)

variable {tie : Tie} {interval : Interval}

/-- A multiple of a step is only taken if the interval contains it. -/
theorem contains_of_multiple? {step multiple : Nat}
    (found : interval.multiple? tie step = some multiple) :
    interval.contains (multiple * step) = true := by
  unfold multiple? at found
  dsimp only at found
  generalize (if interval.centre % step = 0 then interval.centre / step
    else interval.centre / step + 1) = above at found
  cases below : interval.contains (interval.centre / step * step) <;>
    cases next : interval.contains (above * step) <;>
      simp only [below, next, Option.some.injEq, reduceCtorEq] at found
  · exact found ▸ next
  · exact found ▸ below
  · split at found
    · exact found ▸ below
    · exact found ▸ next

/-- The coarsest multiple that is found lies in an interval that contains its centre. -/
theorem contains_coarsest (tie : Tie) (centred : interval.contains interval.centre = true)
    (power : Nat) :
    interval.contains ((interval.coarsest tie power).1 * 10 ^ (interval.coarsest tie power).2) =
      true := by
  induction power with
  | zero => simpa [coarsest] using centred
  | succ power inductionHypothesis =>
      unfold coarsest
      split
      · rename_i multiple found
        exact contains_of_multiple? found
      · exact inductionHypothesis

end Interval

/-- The shortest decimal of a magnitude rounds back to the magnitude. -/
theorem rounds_shortest (tie : Tie) (format : Format) (code : Nat) :
    format.Rounds (shortest tie format code).value code := by
  have inside := Interval.contains_coarsest tie (Interval.contains_centre format code)
    ((digitsOf (Interval.around format code).centre).length - 1)
  rw [shortest, value_reduce]
  refine (Interval.rounds_iff_contains ?_ code).mpr inside
  rw [value, zpow_sub₀ (by norm_num), zpow_natCast, zpow_natCast]
  push_cast
  field_simp

/-- The shortest decimal of a magnitude other than zero is not zero. -/
theorem significand_shortest_pos (tie : Tie) (format : Format) {code : Nat} (nonzero : code ≠ 0) :
    0 < (shortest tie format code).significand := by
  have positive := (rounds_shortest tie format code).pos nonzero
  by_contra none
  have zero : (shortest tie format code).significand = 0 := by omega
  rw [value, zero, Nat.cast_zero, zero_mul] at positive
  exact lt_irrefl 0 positive

end FilterQuery.Decimal
