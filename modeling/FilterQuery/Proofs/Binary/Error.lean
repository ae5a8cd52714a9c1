import FilterQuery.Proofs.Binary.Rounding

namespace FilterQuery.Binary.Format

variable {format : Format}

/-- A number of few bits times a power of two is a magnitude. -/
theorem exists_units (format : Format) {significand : Nat}
    (small : significand ≤ 2 * format.fullSignificand) (exponent : Nat) :
    ∃ code, format.units code = significand * 2 ^ exponent := by
  induction exponent generalizing significand with
  | zero => exact ⟨0 * format.fullSignificand + significand, units_band (Or.inl rfl) small⟩
  | succ exponent ih =>
      rcases Nat.lt_or_ge significand format.fullSignificand with below | full
      · obtain ⟨code, units⟩ := ih (Nat.mul_le_mul_left 2 below.le)
        exact ⟨code, by rw [units, pow_succ']; ring⟩
      · exact ⟨_, units_band (Or.inr full) small⟩

theorem exists_value (format : Format) {significand : Nat}
    (small : significand ≤ 2 * format.fullSignificand) (exponent : Nat) :
    ∃ code, format.value code = significand * 2 ^ exponent := by
  obtain ⟨code, units⟩ := exists_units format small (exponent + format.scale)
  refine ⟨code, ?_⟩
  rw [value, units, pow_add]
  push_cast
  rw [← mul_assoc, mul_div_cancel_right₀ _ (by positivity)]

/-- A natural number of few bits is a magnitude. -/
theorem exists_value_natCast (format : Format) {whole : Nat}
    (small : whole ≤ 2 * format.fullSignificand) : ∃ code, format.value code = whole := by
  obtain ⟨code, value⟩ := exists_value format small 0
  rw [pow_zero, mul_one] at value
  exact ⟨code, value⟩

/-- A natural number that rounds to one of the natural numbers below twice the full significand is
this one. -/
theorem Rounds.eq_of_lt {number whole code : Nat}
    (rounds : format.Rounds number code) (exact : format.value code = whole)
    (small : whole < 2 * format.fullSignificand) : number = whole := by
  rcases Nat.lt_trichotomy number whole with less | same | greater
  · obtain ⟨own, value⟩ := exists_value_natCast format (less.le.trans small.le)
    have most := rounds.le_value value.ge
    rw [exact, value, Nat.cast_le] at most
    omega
  · exact same
  · obtain ⟨next, value⟩ := exists_value_natCast format (Nat.succ_le_of_lt small)
    have least := rounds.value_le (value.le.trans (by exact_mod_cast greater))
    rw [exact, value, Nat.cast_le] at least
    omega

/-- The gap behind a magnitude is at most a unit of its last place. -/
theorem value_succ_le (format : Format) (code : Nat) :
    format.value (code + 1) ≤
      format.value code + (format.value code / format.fullSignificand + 1 / 2 ^ format.scale) := by
  have positive : (0 : ℚ) < format.fullSignificand := by
    exact_mod_cast format.fullSignificand_pos
  obtain ⟨exponent, significand, rfl, full, bound⟩ := exists_band format code
  have here := units_band full bound.le
  have next : format.units (exponent * format.fullSignificand + significand + 1) =
      (significand + 1) * 2 ^ exponent := by
    rw [add_assoc]
    exact units_band (full.imp_right (le_add_right ·)) (Nat.succ_le_of_lt bound)
  have step : (format.fullSignificand * 2 ^ exponent : ℚ) ≤
      significand * 2 ^ exponent + format.fullSignificand := by
    rcases full with first | full
    · rw [first, pow_zero, mul_one, mul_one]
      exact le_add_of_nonneg_left (Nat.cast_nonneg _)
    · have scaled : (format.fullSignificand * 2 ^ exponent : ℚ) ≤ significand * 2 ^ exponent :=
        mul_le_mul_of_nonneg_right (by exact_mod_cast full) (by positivity)
      linarith
  rw [value, value, here, next]
  push_cast
  rw [div_div, mul_comm (2 ^ format.scale : ℚ), ← div_div, ← add_div, ← add_div]
  refine div_le_div_of_nonneg_right ?_ (by positivity)
  have unit : (2 : ℚ) ^ exponent ≤
      significand * 2 ^ exponent / format.fullSignificand + 1 := by
    rw [div_add_one positive.ne', le_div_iff₀ positive]
    linarith
  linarith

/-- A number is at most half a unit of the last place away from what it rounds to. -/
theorem Rounds.abs_sub_le_half {number : ℚ} {code : Nat} (rounds : format.Rounds number code) :
    |number - format.value code| ≤
      (format.value code / format.fullSignificand + 1 / 2 ^ format.scale) / 2 := by
  obtain ⟨below, above⟩ := rounds.between
  have gap := value_succ_le format code
  have before : format.value code - format.value (code - 1) ≤
      format.value code / format.fullSignificand + 1 / 2 ^ format.scale := by
    have nonneg := value_nonneg format code
    cases code with
    | zero =>
        rw [Nat.zero_sub, sub_self]
        positivity
    | succ code =>
        rw [Nat.add_sub_cancel]
        have previous := value_succ_le format code
        have order : format.value code / format.fullSignificand ≤
            format.value (code + 1) / format.fullSignificand :=
          div_le_div_of_nonneg_right ((value_strictMono format).monotone (Nat.le_succ code))
            (by positivity)
        linarith
  rw [abs_le]
  constructor <;> linarith

/-- The greatest ratio of a number to its rounding in units of the last place, with some room. -/
def spread (format : Format) : ℚ := 1 + 1 / format.fullSignificand

theorem one_le_spread (format : Format) : 1 ≤ format.spread :=
  le_add_of_nonneg_right (by positivity)

theorem spread_pos (format : Format) : 0 < format.spread :=
  zero_lt_one.trans_le format.one_le_spread

/-- A number and what is found for it in so many roundings differ by a factor for each rounding and,
where they are small, by some slack. -/
structure Near (format : Format) (steps : Nat) (slack exact found : ℚ) : Prop where
  above : exact ≤ found * format.spread ^ steps + slack
  below : found ≤ exact * format.spread ^ steps + slack

namespace Near

variable {first second : Nat} {slack more exact found other result : ℚ}

/-- The error is small in relation to the number, but for the slack. -/
theorem abs_sub_le (near : format.Near first slack exact found) :
    |found - exact| ≤ exact * (format.spread ^ first - 1) + slack := by
  have grow : 0 ≤ format.spread ^ first - 1 := sub_nonneg.mpr (one_le_pow₀ format.one_le_spread)
  obtain ⟨above, below⟩ := near
  rw [abs_le]
  constructor
  · rcases le_total exact found with greater | less
    · linarith
    · have scaled := mul_le_mul_of_nonneg_right less grow
      linarith
  · linarith

/-- More errors and more slack are allowed. -/
theorem mono {steps count : Nat} (near : format.Near steps slack exact found)
    (fewer : steps ≤ count) (less : slack ≤ more) (exactNonneg : 0 ≤ exact)
    (foundNonneg : 0 ≤ found) : format.Near count more exact found := by
  have grow := pow_le_pow_right₀ format.one_le_spread fewer
  have above := mul_le_mul_of_nonneg_left grow foundNonneg
  have below := mul_le_mul_of_nonneg_left grow exactNonneg
  exact ⟨by linarith [near.above], by linarith [near.below]⟩

/-- A number is near to itself. -/
theorem refl (format : Format) (number : ℚ) : format.Near 0 0 number number :=
  ⟨by simp, by simp⟩

/-- Whole numbers between the same multiples of a unit are near, if these have the full
precision. -/
theorem of_between {count exact found : Nat} (unit : Nat) (full : format.fullSignificand ≤ count)
    (exactBetween : count * unit ≤ exact ∧ exact ≤ (count + 1) * unit)
    (foundBetween : count * unit ≤ found ∧ found ≤ (count + 1) * unit) :
    format.Near 1 0 exact found := by
  have positive : (0 : ℚ) < format.fullSignificand := by
    exact_mod_cast format.fullSignificand_pos
  have bound {first second : Nat} (least : count * unit ≤ first)
      (most : second ≤ (count + 1) * unit) : (second : ℚ) ≤ first * format.spread ^ 1 + 0 := by
    have share : (unit : ℚ) ≤ first * (1 / format.fullSignificand) := by
      rw [mul_one_div, le_div_iff₀ positive, mul_comm]
      exact_mod_cast (Nat.mul_le_mul_right unit full).trans least
    have whole : (second : ℚ) ≤ count * unit + unit := by
      rw [← add_one_mul]
      exact_mod_cast most
    have below : (count * unit : ℚ) ≤ first := by exact_mod_cast least
    rw [pow_one, spread]
    linarith
  exact ⟨bound foundBetween.1 exactBetween.2, bound exactBetween.1 foundBetween.2⟩

/-- Errors in a row. -/
theorem trans (left : format.Near first slack exact found)
    (right : format.Near second more found result) (positive : 0 ≤ slack)
    (positiveMore : 0 ≤ more) :
    format.Near (first + second) ((slack + more) * format.spread ^ (first + second)) exact
      result := by
  have wide (count : Nat) : 1 ≤ format.spread ^ count := one_le_pow₀ format.one_le_spread
  have bound {part : ℚ} (nonneg : 0 ≤ part) (one other : Nat) :
      part * format.spread ^ one ≤ part * format.spread ^ (one + other) := by
    rw [pow_add, ← mul_assoc]
    exact le_mul_of_one_le_right (mul_nonneg nonneg (zero_le_one.trans (wide one))) (wide other)
  have slackBound := bound positive 0 (first + second)
  have moreBound := bound positiveMore 0 (first + second)
  rw [pow_zero, mul_one, zero_add] at slackBound moreBound
  constructor
  · have scaled := mul_le_mul_of_nonneg_right right.above (zero_le_one.trans (wide first))
    have moreScaled := bound positiveMore first second
    calc exact
      _ ≤ found * format.spread ^ first + slack := left.above
      _ ≤ (result * format.spread ^ second + more) * format.spread ^ first + slack := by linarith
      _ = result * format.spread ^ (first + second) + more * format.spread ^ first + slack := by
        rw [pow_add]
        ring
      _ ≤ _ := by linarith
  · have scaled := mul_le_mul_of_nonneg_right left.below (zero_le_one.trans (wide second))
    have slackScaled := bound positive second first
    rw [add_comm second] at slackScaled
    calc result
      _ ≤ found * format.spread ^ second + more := right.below
      _ ≤ (exact * format.spread ^ first + slack) * format.spread ^ second + more := by linarith
      _ = exact * format.spread ^ (first + second) + slack * format.spread ^ second + more := by
        rw [pow_add]
        ring
      _ ≤ _ := by linarith

/-- Errors of a product. -/
theorem mul (left : format.Near first 0 exact found) (right : format.Near second 0 other result)
    (exactNonneg : 0 ≤ exact) (otherNonneg : 0 ≤ other) (foundNonneg : 0 ≤ found)
    (resultNonneg : 0 ≤ result) :
    format.Near (first + second) 0 (exact * other) (found * result) := by
  have wide (count : Nat) : 0 ≤ format.spread ^ count := pow_nonneg format.spread_pos.le count
  obtain ⟨above, below⟩ := left
  obtain ⟨aboveOther, belowOther⟩ := right
  rw [add_zero] at above below aboveOther belowOther
  constructor
  · calc exact * other
      _ ≤ found * format.spread ^ first * (result * format.spread ^ second) :=
        mul_le_mul above aboveOther otherNonneg (mul_nonneg foundNonneg (wide first))
      _ = found * result * format.spread ^ (first + second) + 0 := by
        rw [pow_add]
        ring
  · calc found * result
      _ ≤ exact * format.spread ^ first * (other * format.spread ^ second) :=
        mul_le_mul below belowOther resultNonneg (mul_nonneg exactNonneg (wide first))
      _ = exact * other * format.spread ^ (first + second) + 0 := by
        rw [pow_add]
        ring

/-- A quotient by a number that is not small. The other case of the lemma is the same with the parts
exchanged. -/
theorem div_le {steps stepsOther : Nat} {bound divisor divisorBound : ℚ} (nonneg : 0 ≤ slack)
    (boundNonneg : 0 ≤ bound) (above : exact ≤ bound * format.spread ^ steps + slack)
    (large : 1 ≤ divisor) (positive : 0 < divisorBound)
    (below : divisorBound ≤ divisor * format.spread ^ stepsOther + 0) :
    exact / divisor ≤ bound / divisorBound * format.spread ^ (steps + stepsOther) + slack := by
  have wide (count : Nat) : 0 ≤ format.spread ^ count := pow_nonneg format.spread_pos.le count
  have divisorPos : 0 < divisor := zero_lt_one.trans_le large
  have inverse : 1 / divisor ≤ format.spread ^ stepsOther / divisorBound := by
    rw [div_le_div_iff₀ divisorPos positive]
    linarith
  have less : slack / divisor ≤ slack := div_le_self nonneg large
  calc exact / divisor
    _ ≤ (bound * format.spread ^ steps + slack) / divisor :=
      div_le_div_of_nonneg_right above divisorPos.le
    _ = bound * format.spread ^ steps * (1 / divisor) + slack / divisor := by ring
    _ ≤ bound * format.spread ^ steps * (format.spread ^ stepsOther / divisorBound) + slack :=
      add_le_add (mul_le_mul_of_nonneg_left inverse (mul_nonneg boundNonneg (wide steps))) less
    _ = bound / divisorBound * format.spread ^ (steps + stepsOther) + slack := by
      rw [pow_add]
      ring

/-- Errors of a quotient by a number that is not small. -/
theorem div (left : format.Near first slack exact found)
    (right : format.Near second 0 other result) (nonneg : 0 ≤ slack) (exactNonneg : 0 ≤ exact)
    (foundNonneg : 0 ≤ found) (large : 1 ≤ other) (resultLarge : 1 ≤ result) :
    format.Near (first + second) slack (exact / other) (found / result) where
  above := div_le nonneg foundNonneg left.above large (zero_lt_one.trans_le resultLarge) right.below
  below := div_le nonneg exactNonneg left.below resultLarge (zero_lt_one.trans_le large) right.above

end Near

/-- Rounding is near, with the smallest unit as slack. -/
theorem Rounds.near {number : ℚ} {code : Nat} (rounds : format.Rounds number code) :
    format.Near 1 (1 / 2 ^ format.scale) number (format.value code) := by
  let ratio : ℚ := 1 / format.fullSignificand
  let unit : ℚ := 1 / 2 ^ format.scale
  have ratioNonneg : 0 ≤ ratio := by positivity
  have unitNonneg : 0 ≤ unit := by positivity
  have ratioLe : ratio ≤ 1 := by
    have full : (1 : ℚ) ≤ format.fullSignificand := by exact_mod_cast format.fullSignificand_pos
    exact (div_le_one (by positivity)).mpr full
  have nonneg := value_nonneg format code
  have half : |number - format.value code| ≤ (format.value code * ratio + unit) / 2 := by
    have distance := rounds.abs_sub_le_half
    rwa [div_eq_mul_one_div (format.value code)] at distance
  obtain ⟨lower, upper⟩ := abs_le.mp half
  have share : 0 ≤ format.value code * ratio := mul_nonneg nonneg ratioNonneg
  constructor
  · rw [pow_one]
    change number ≤ format.value code * (1 + ratio) + unit
    linarith
  · rw [pow_one]
    change format.value code ≤ number * (1 + ratio) + unit
    have room : 0 ≤ ratio * (1 - ratio) := mul_nonneg ratioNonneg (by linarith)
    calc format.value code
      _ ≤ format.value code + format.value code * (ratio * (1 - ratio)) / 2 :=
        le_add_of_nonneg_right (by positivity)
      _ = format.value code * (1 - ratio / 2) * (1 + ratio) := by ring
      _ ≤ (number + unit / 2) * (1 + ratio) :=
        mul_le_mul_of_nonneg_right (by linarith) (by linarith)
      _ = number * (1 + ratio) + unit * (1 + ratio) / 2 := by ring
      _ ≤ number * (1 + ratio) + unit := by
        have scaled := mul_le_mul_of_nonneg_left ratioLe unitNonneg
        linarith

/-- A number that is not small is rounded without slack. -/
theorem Rounds.near_of_one_le {number : ℚ} {code : Nat} (rounds : double.Rounds number code)
    (large : 1 ≤ number) : double.Near 2 0 number (double.value code) := by
  let ratio : ℚ := 1 / double.fullSignificand
  let unit : ℚ := 1 / 2 ^ double.scale
  have ratioNonneg : 0 ≤ ratio := by positivity
  have ratioLe : ratio ≤ 1 / 2 := by
    simp only [ratio, fullSignificand, Nat.pow_eq]
    norm_num
  have unitLe : unit ≤ ratio / 2 := by
    have bits : (2 : ℚ) ^ 53 ≤ 2 ^ double.scale := pow_le_pow_right₀ (by norm_num) (by decide)
    have same : ratio / 2 = 1 / 2 ^ 53 := by
      simp only [ratio, fullSignificand, Nat.pow_eq]
      norm_num
    rw [same]
    exact one_div_le_one_div_of_le (by positivity) bits
  have near : number ≤ double.value code * (1 + ratio) ^ 1 + unit := rounds.near.above
  have nonneg := value_nonneg double code
  have scaled := mul_le_mul_of_nonneg_left ratioLe nonneg
  have half : 1 / 2 ≤ double.value code := by
    rw [pow_one] at near
    linarith
  have distance := rounds.abs_sub_le_half
  rw [div_eq_mul_one_div (double.value code)] at distance
  change |number - double.value code| ≤ (double.value code * ratio + unit) / 2 at distance
  have share := mul_le_mul_of_nonneg_right half ratioNonneg
  obtain ⟨lower, upper⟩ := abs_le.mp distance
  constructor
  · change number ≤ double.value code * (1 + ratio) ^ 2 + 0
    have square : 0 ≤ double.value code * ratio ^ 2 := by positivity
    linarith
  · change double.value code ≤ number * (1 + ratio) ^ 2 + 0
    have factor : 1 ≤ (1 - ratio) * (1 + ratio) ^ 2 := by
      have room : 0 ≤ ratio * (1 - ratio - ratio ^ 2) := by
        refine mul_nonneg ratioNonneg ?_
        have square := mul_le_mul_of_nonneg_left ratioLe ratioNonneg
        linarith
      linarith
    calc double.value code
      _ ≤ double.value code * ((1 - ratio) * (1 + ratio) ^ 2) :=
        le_mul_of_one_le_right nonneg factor
      _ = double.value code * (1 - ratio) * (1 + ratio) ^ 2 := by ring
      _ ≤ number * (1 + ratio) ^ 2 :=
        mul_le_mul_of_nonneg_right (by linarith) (by positivity)
      _ = number * (1 + ratio) ^ 2 + 0 := (add_zero _).symm

end FilterQuery.Binary.Format
