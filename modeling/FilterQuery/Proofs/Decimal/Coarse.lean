import FilterQuery.Proofs.Binary.Error
import FilterQuery.Proofs.Decimal.Form

/-!
Coarse decimals. The search for a shortest decimal runs down the powers of ten, so it stops at the
latest where some decimal of the power rounds to the magnitude. The main statements say that the
shortest decimal is a multiple of every power of ten of which a multiple rounds to the magnitude, and
that a decimal is the shortest one if no other multiple of such a power does.
-/

namespace FilterQuery.Decimal

open Binary (Format)

namespace Interval

variable {tie : Tie} {interval : Interval}

/-- What lies between two points of an interval belongs to it. -/
theorem contains_of_between {first point last : Nat} (start : interval.contains first = true)
    (stop : interval.contains last = true) (above : first ≤ point) (below : point ≤ last) :
    interval.contains point = true := by
  unfold contains at *
  split at start
  · rename_i closed
    simp only [closed, if_true, Bool.and_eq_true, decide_eq_true_eq] at start stop ⊢
    omega
  · rename_i ends
    simp only [ends, if_false, Bool.and_eq_true, decide_eq_true_eq, Bool.false_eq_true] at start stop ⊢
    omega

/-- If the interval contains a multiple of a step, it contains one of those next to its centre. -/
theorem exists_multiple?_of_contains (centred : interval.contains interval.centre = true)
    {step multiple : Nat} (positive : 0 < step)
    (inside : interval.contains (multiple * step) = true) :
    ∃ found, interval.multiple? tie step = some found := by
  have split := Nat.div_add_mod' interval.centre step
  have next := Nat.add_one_mul (interval.centre / step) step
  have neighbour : interval.contains (interval.centre / step * step) = true ∨
      interval.contains ((if interval.centre % step = 0 then interval.centre / step
        else interval.centre / step + 1) * step) = true := by
    rcases Nat.lt_or_ge (interval.centre / step) multiple with upper | lower
    · apply Or.inr
      have order := Nat.mul_le_mul_right step (Nat.succ_le_of_lt upper)
      have rest := Nat.mod_lt interval.centre positive
      rw [Nat.succ_eq_add_one] at order
      apply contains_of_between centred inside
      · split <;> omega
      · split <;> omega
    · apply Or.inl
      exact contains_of_between inside centred (Nat.mul_le_mul_right step lower) (by omega)
  unfold multiple?
  dsimp only
  rcases neighbour with lower | upper
  · rw [lower]
    split <;> simp_all
  · rw [upper]
    split <;> simp_all

/-- The power of ten that is found is not below one with a multiple in the interval. -/
theorem le_snd_coarsest {power : Nat}
    (found : ∃ multiple, interval.multiple? tie (10 ^ power) = some multiple) :
    ∀ limit, power ≤ limit → power ≤ (interval.coarsest tie limit).2 := by
  intro limit
  induction limit with
  | zero =>
      intro within
      omega
  | succ limit inductionHypothesis =>
      intro within
      unfold coarsest
      split
      · exact within
      · rename_i none
        rcases within.eq_or_lt with rfl | less
        · obtain ⟨multiple, some⟩ := found
          rw [Nat.pow_eq, some] at none
          cases none
        · exact inductionHypothesis (Nat.le_of_lt_succ less)

end Interval

/-- Zeros that are dropped raise the exponent. -/
theorem exponent_le_reduce (decimal : Decimal) : decimal.exponent ≤ decimal.reduce.exponent :=
  Int.le_add_of_nonneg_right (Int.natCast_nonneg _)

/-- If a multiple of a power of ten rounds to a magnitude that reaches this power, the shortest
decimal of the magnitude is a multiple of the power as well. -/
theorem le_exponent_shortest (tie : Tie) {format : Format} {code count : Nat} {power : Int}
    (rounds : format.Rounds (count * 10 ^ power) code) (reached : 10 ^ power ≤ format.value code) :
    power ≤ (shortest tie format code).exponent := by
  let interval := Interval.around format code
  have least : ((interval.coarsest tie ((digitsOf interval.centre).length - 1)).2 : Int) -
      (format.scale + 1 : Nat) ≤ (shortest tie format code).exponent := exponent_le_reduce _
  rcases Int.lt_or_le (power + (format.scale + 1 : Nat)) 0 with small | whole
  · omega
  obtain ⟨units, shifted⟩ := Int.eq_ofNat_of_zero_le whole
  have scaled : (10 : ℚ) ^ power * 10 ^ (format.scale + 1) = 10 ^ units := by
    rw [← zpow_natCast, ← zpow_natCast, ← zpow_add₀ (by norm_num), shifted]
  have inside : interval.contains (count * 10 ^ units) = true := by
    refine (Interval.rounds_iff_contains ?_ code).mp rounds
    rw [mul_assoc, scaled]
    push_cast
    rfl
  have within : 10 ^ units ≤ interval.centre := by
    have centre := mul_le_mul_of_nonneg_right reached
      (show (0 : ℚ) ≤ 10 ^ (format.scale + 1) by positivity)
    rw [scaled, Interval.value_mul_pow] at centre
    exact_mod_cast centre
  have found : ∃ multiple, interval.multiple? tie (10 ^ units) = some multiple :=
    Interval.exists_multiple?_of_contains (Interval.contains_centre format code) (by positivity)
      inside
  have digits := (Nat.pow_lt_pow_iff_right (by decide)).mp
    (within.trans_lt (lt_pow_length_digitsOf interval.centre))
  have coarse := Interval.le_snd_coarsest found ((digitsOf interval.centre).length - 1) (by omega)
  omega

/-- A decimal is a multiple of each power of ten up to its own. -/
theorem exists_value_eq {decimal : Decimal} {power : Int} (whole : power ≤ decimal.exponent) :
    ∃ count : Nat, decimal.value = count * 10 ^ power := by
  obtain ⟨places, split⟩ := Int.eq_ofNat_of_zero_le (Int.sub_nonneg_of_le whole)
  have exponent : decimal.exponent = places + power := by omega
  refine ⟨decimal.significand * 10 ^ places, ?_⟩
  rw [value, exponent, zpow_add₀ (by norm_num), zpow_natCast]
  push_cast
  ring

/-- A reduced decimal is known from its value. -/
theorem IsReduced.eq_of_value_eq {first second : Decimal} (left : first.IsReduced)
    (right : second.IsReduced) (same : first.value = second.value) : first = second := by
  wlog order : first.exponent ≤ second.exponent generalizing first second
  · exact (this right left same.symm (Int.le_of_lt (Int.not_le.mp order))).symm
  obtain ⟨places, split⟩ := Int.eq_ofNat_of_zero_le (Int.sub_nonneg_of_le order)
  have exponent : second.exponent = places + first.exponent := by omega
  have significand : first.significand = second.significand * 10 ^ places := by
    rw [value, value, exponent, zpow_add₀ (by norm_num), zpow_natCast, ← mul_assoc] at same
    exact_mod_cast mul_right_cancel₀ (by positivity) same
  cases places with
  | zero =>
      obtain ⟨_, _⟩ := first
      obtain ⟨_, _⟩ := second
      simp_all
  | succ places =>
      -- The first significand would end in a zero.
      rw [IsReduced, significand, pow_succ, ← mul_assoc, Nat.mul_mod_left] at left
      exact absurd rfl left

/-- A reduced decimal is the shortest one of the magnitude that it rounds to, if among the multiples
of some power of ten no other rounds to the magnitude. -/
theorem shortest_eq_of_unique (tie : Tie) {format : Format} {code : Nat} {decimal : Decimal}
    {power : Int} (reduced : decimal.IsReduced) (rounds : format.Rounds decimal.value code)
    (whole : power ≤ decimal.exponent) (reached : 10 ^ power ≤ format.value code)
    (unique : ∀ count : Nat, format.Rounds (count * 10 ^ power) code →
      count * 10 ^ power = decimal.value) :
    shortest tie format code = decimal := by
  have nonzero : code ≠ 0 := by
    rintro rfl
    have positive : (0 : ℚ) < 10 ^ power := by positivity
    rw [Format.value_zero] at reached
    exact absurd reached (not_le.mpr positive)
  obtain ⟨count, exact⟩ := exists_value_eq whole
  rw [exact] at rounds
  obtain ⟨found, multiple⟩ := exists_value_eq (le_exponent_shortest tie rounds reached)
  apply (isReduced_shortest tie format nonzero).eq_of_value_eq reduced
  rw [multiple]
  apply unique
  rw [← multiple]
  exact rounds_shortest tie format code

/-- Multiples of a power of ten are the same if they are less than the power apart. -/
theorem mul_pow_eq_of_abs_sub_lt {first second : Nat} {power : Int}
    (near : |(first * 10 ^ power - second * 10 ^ power : ℚ)| < 10 ^ power) :
    (first * 10 ^ power : ℚ) = second * 10 ^ power := by
  have positive : (0 : ℚ) < 10 ^ power := by positivity
  rw [← sub_mul, abs_mul, abs_of_pos positive] at near
  have step : |(first - second : ℚ)| < 1 := by
    by_contra far
    exact absurd near (not_lt.mpr (le_mul_of_one_le_left positive.le (not_lt.mp far)))
  have same : (first : Int) - second = 0 := by
    rw [← Int.abs_lt_one_iff]
    exact_mod_cast step
  rw [show first = second by omega]

/-- A reduced decimal is the shortest one of the magnitude that it rounds to, if the numbers that
round to the magnitude lie closer together than the multiples of some power of ten. -/
theorem shortest_eq_of_gap (tie : Tie) {format : Format} {code : Nat} {decimal : Decimal}
    {power : Int} (reduced : decimal.IsReduced) (rounds : format.Rounds decimal.value code)
    (whole : power ≤ decimal.exponent) (reached : 10 ^ power ≤ format.value code)
    (gap : format.value code / format.fullSignificand + 1 / 2 ^ format.scale < 10 ^ power) :
    shortest tie format code = decimal := by
  apply shortest_eq_of_unique tie reduced rounds whole reached
  intro count other
  obtain ⟨own, exact⟩ := exists_value_eq whole
  rw [exact] at rounds ⊢
  apply mul_pow_eq_of_abs_sub_lt
  refine lt_of_le_of_lt ?_ gap
  have left := other.abs_sub_le_half
  have right := rounds.abs_sub_le_half
  rw [abs_sub_comm] at right
  exact (abs_sub_le _ (format.value code) _).trans (by linarith)

section Digits

variable {format : Format} {code : Nat} {decimal : Decimal}

/-- A number that has the full precision of the format is rounded to a magnitude between its half and
its double, and the numbers that round there are closer together than three units of its last place. -/
theorem gap_of_normal (rounds : format.Rounds decimal.value code)
    (wide : 4 ≤ format.fullSignificand)
    (normal : format.fullSignificand / 2 ^ format.scale ≤ decimal.value) :
    decimal.value ≤ 2 * format.value code ∧
      format.value code / format.fullSignificand + 1 / 2 ^ format.scale ≤
        3 * decimal.value / format.fullSignificand := by
  have full : (4 : ℚ) ≤ format.fullSignificand := by exact_mod_cast wide
  have positive : (0 : ℚ) < format.fullSignificand := by linarith
  have unit : (1 / 2 ^ format.scale : ℚ) ≤ decimal.value / format.fullSignificand := by
    rw [le_div_iff₀ positive, one_div_mul_eq_div]
    exact normal
  have share (number : ℚ) (nonneg : 0 ≤ number) : number / format.fullSignificand ≤ number / 4 :=
    div_le_div_of_nonneg_left nonneg (by norm_num) full
  have nonneg : 0 ≤ decimal.value := le_trans (by positivity) normal
  have found := share (format.value code) (Format.value_nonneg format code)
  have own := share decimal.value nonneg
  obtain ⟨lower, upper⟩ := abs_le.mp rounds.abs_sub_le_half
  constructor
  · linarith
  · have most : format.value code ≤ 2 * decimal.value := by linarith
    have part := div_le_div_of_nonneg_right most positive.le
    calc format.value code / format.fullSignificand + 1 / 2 ^ format.scale
      _ ≤ 2 * decimal.value / format.fullSignificand + decimal.value / format.fullSignificand :=
        add_le_add part unit
      _ = 3 * decimal.value / format.fullSignificand := by ring

/-- A format keeps decimals of so few digits that four times as many powers of ten fit in a full
significand: they are the shortest decimals of what they round to. -/
theorem shortest_eq_of_few_digits (tie : Tie) {count : Nat} (reduced : decimal.IsReduced)
    (rounds : format.Rounds decimal.value code) (few : decimal.digits.length ≤ count)
    (many : 2 ≤ count) (wide : 4 * 10 ^ count ≤ format.fullSignificand)
    (normal : format.fullSignificand / 2 ^ format.scale ≤ decimal.value) :
    shortest tie format code = decimal := by
  -- The last of so many digits of the decimal, counted from its first.
  let power : Int := decimal.leadingExponent + 1 - count
  have positive : (0 : ℚ) < 10 ^ power := by positivity
  have full : (4 * 10 ^ count : ℚ) ≤ format.fullSignificand := by exact_mod_cast wide
  have most : decimal.value < 10 ^ count * 10 ^ power := by
    have bound := value_lt_pow_leadingExponent decimal
    rwa [show decimal.leadingExponent + 1 = count + power by omega, zpow_add₀ (by norm_num),
      zpow_natCast] at bound
  have least : 2 * 10 ^ power ≤ decimal.value := by
    have bound := pow_leadingExponent_le reduced.positive
    have order : power + 1 ≤ decimal.leadingExponent := by omega
    have step := (zpow_le_zpow_right₀ (by norm_num : (1 : ℚ) ≤ 10) order).trans bound
    rw [zpow_add₀ (by norm_num), zpow_one] at step
    linarith
  obtain ⟨half, gap⟩ := gap_of_normal rounds
    (le_trans (Nat.le_mul_of_pos_right 4 (by positivity)) wide) normal
  have whole : power ≤ decimal.exponent := by
    change decimal.exponent + decimal.digits.length - 1 + 1 - count ≤ decimal.exponent
    omega
  apply shortest_eq_of_gap tie reduced rounds whole
  case reached => linarith
  case gap =>
    apply gap.trans_lt
    rw [div_lt_iff₀ (lt_of_lt_of_le (by positivity) full)]
    have scaled := mul_le_mul_of_nonneg_left full positive.le
    linarith

/-- Such a decimal rounds to a finite magnitude if it is not too large. -/
theorem exists_shortest_eq (tie : Tie) (proper : format.IsProper) {count : Nat}
    (reduced : decimal.IsReduced) (few : decimal.digits.length ≤ count) (many : 2 ≤ count)
    (wide : 4 * 10 ^ count ≤ format.fullSignificand)
    (normal : format.fullSignificand / 2 ^ format.scale ≤ decimal.value)
    (small : 2 * decimal.value < 2 ^ 2 ^ (format.exponentWidth - 1)) :
    ∃ code : Fin format.infinityCode, format.Rounds decimal.value code ∧
      shortest tie format code = decimal := by
  have nonneg : 0 ≤ decimal.value := le_trans (by positivity) normal
  obtain ⟨code, rounds⟩ := Format.exists_rounds proper nonneg
  exact ⟨⟨code, rounds.lt_infinityCode proper small⟩, rounds,
    shortest_eq_of_few_digits tie reduced rounds few many wide normal⟩

end Digits

end FilterQuery.Decimal
