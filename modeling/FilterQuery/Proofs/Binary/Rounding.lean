import FilterQuery.Proofs.Binary.Magnitude

/-!
Rounding to a binary format. A number rounds to the magnitude that is nearest to it, and a number
in the middle of two magnitudes to the one with the even code. The main statements say that this
magnitude is unique and that the nearest magnitude of a ratio and of a decimal are found.
-/

namespace FilterQuery.Binary

/-- The rounded quotient is one of the two natural numbers next to the quotient. -/
theorem roundQuotient_bounds (numerator denominator : Nat) :
    numerator / denominator ≤ roundQuotient numerator denominator ∧
      roundQuotient numerator denominator ≤ numerator / denominator + 1 := by
  unfold roundQuotient
  dsimp only
  split <;> omega

/-- A multiple of a step is at most half a step away from a count, and less than that if it is an
odd multiple. -/
structure NearMultiple (count step multiple : Nat) : Prop where
  between : 2 * (multiple * step) ≤ 2 * count + step ∧ 2 * count ≤ 2 * (multiple * step) + step
  inside : multiple % 2 = 1 →
    2 * (multiple * step) < 2 * count + step ∧ 2 * count < 2 * (multiple * step) + step

theorem nearMultiple_roundQuotient (numerator : Nat) {denominator : Nat}
    (positive : 0 < denominator) :
    NearMultiple numerator denominator (roundQuotient numerator denominator) := by
  have split := Nat.div_add_mod' numerator denominator
  have rest := Nat.mod_lt numerator positive
  unfold roundQuotient
  dsimp only
  split
  · exact ⟨by omega, by omega⟩
  · have next := Nat.add_one_mul (numerator / denominator) denominator
    exact ⟨by omega, by omega⟩

namespace Format

variable {format : Format}

/-- A number rounds to the magnitude with this code: it lies between the middles to the two
neighbours, and in such a middle only if the code is even. -/
structure Rounds (format : Format) (number : ℚ) (code : Nat) : Prop where
  between : format.value (code - 1) + format.value code ≤ 2 * number ∧
    2 * number ≤ format.value code + format.value (code + 1)
  inside : code % 2 = 1 → format.value (code - 1) + format.value code < 2 * number ∧
    2 * number < format.value code + format.value (code + 1)

/-- The same with the number and the magnitudes as counts: the weight of a unit times the units of
a magnitude is its count. -/
structure Encloses (format : Format) (weight count code : Nat) : Prop where
  between : (format.units (code - 1) + format.units code) * weight ≤ 2 * count ∧
    2 * count ≤ (format.units code + format.units (code + 1)) * weight
  inside : code % 2 = 1 → (format.units (code - 1) + format.units code) * weight < 2 * count ∧
    2 * count < (format.units code + format.units (code + 1)) * weight

theorem rounds_iff_encloses {number : ℚ} {weight count : Nat} (positive : 0 < weight)
    (counted : number * 2 ^ format.scale * weight = count) (code : Nat) :
    format.Rounds number code ↔ format.Encloses weight count code := by
  have factor : (0 : ℚ) < 2 ^ format.scale * weight := by positivity
  have sum (first second : Nat) :
      (format.value first + format.value second) * (2 ^ format.scale * weight) =
        ((format.units first + format.units second) * weight : Nat) := by
    rw [value, value]
    push_cast
    field_simp
  have twice : 2 * number * (2 ^ format.scale * weight) = (2 * count : Nat) := by
    push_cast
    linear_combination 2 * counted
  have lower (first second : Nat) : format.value first + format.value second ≤ 2 * number ↔
      (format.units first + format.units second) * weight ≤ 2 * count := by
    rw [← mul_le_mul_iff_of_pos_right factor, sum, twice, Nat.cast_le]
  have upper (first second : Nat) : 2 * number ≤ format.value first + format.value second ↔
      2 * count ≤ (format.units first + format.units second) * weight := by
    rw [← mul_le_mul_iff_of_pos_right factor, sum, twice, Nat.cast_le]
  refine ⟨fun rounds => ⟨?_, ?_⟩, fun encloses => ⟨?_, ?_⟩⟩
  · simpa only [lower, upper] using rounds.between
  · simpa only [← not_le, lower, upper] using rounds.inside
  · simpa only [lower, upper] using encloses.between
  · simpa only [← not_le, lower, upper] using encloses.inside

/-- A number rounds to one magnitude only. -/
theorem Rounds.unique {number : ℚ} {first second : Nat} (left : format.Rounds number first)
    (right : format.Rounds number second) : first = second := by
  by_contra different
  wlog less : first < second generalizing first second
  · exact this right left (Ne.symm different) (by omega)
  have above := left.between.2
  have below := right.between.1
  have step : format.value first ≤ format.value (second - 1) :=
    (value_strictMono format).monotone (by omega)
  rcases Nat.lt_or_ge (first + 1) second with apart | adjacent
  · have next : format.value (first + 1) < format.value second := value_strictMono format apart
    linarith
  · -- The number is the middle of two neighbours, and one of them has an odd code.
    obtain rfl : second = first + 1 := by omega
    rcases Nat.mod_two_eq_zero_or_one first with even | odd
    · have strict := (right.inside (by omega)).1
      rw [Nat.add_sub_cancel] at strict
      linarith
    · have strict := (left.inside odd).2
      rw [Nat.add_sub_cancel] at below
      linarith

/-- Of two numbers the lower one rounds to the lower magnitude, or both round to the same. -/
theorem Rounds.mono {lower upper : ℚ} {first second : Nat} (below : format.Rounds lower first)
    (above : format.Rounds upper second) (order : lower ≤ upper) : first ≤ second := by
  rcases order.eq_or_lt with rfl | less
  · exact (below.unique above).le
  · by_contra crossed
    have start : format.value second ≤ format.value (first - 1) :=
      (value_strictMono format).monotone (by omega)
    have stop : format.value (second + 1) ≤ format.value first :=
      (value_strictMono format).monotone (by omega)
    have left := below.between.1
    have right := above.between.2
    linarith

/-- No magnitude is nearer to a number than the one that it rounds to. -/
theorem Rounds.abs_sub_le {number : ℚ} {code : Nat} (rounds : format.Rounds number code)
    (other : Nat) : |number - format.value code| ≤ |number - format.value other| := by
  obtain ⟨below, above⟩ := rounds.between
  rcases Nat.lt_trichotomy other code with less | rfl | greater
  · have left : format.value other ≤ format.value (code - 1) :=
      (value_strictMono format).monotone (by omega)
    have order : format.value (code - 1) ≤ format.value code :=
      (value_strictMono format).monotone (by omega)
    refine abs_le.mpr ⟨?_, ?_⟩ <;> have distance := le_abs_self (number - format.value other) <;>
      linarith
  · exact le_rfl
  · have right : format.value (code + 1) ≤ format.value other :=
      (value_strictMono format).monotone (by omega)
    have order : format.value code ≤ format.value (code + 1) :=
      (value_strictMono format).monotone (by omega)
    refine abs_le.mpr ⟨?_, ?_⟩ <;> have distance := neg_abs_le (number - format.value other) <;>
      linarith

/-- Rounding does not pass a magnitude from above. -/
theorem Rounds.value_le {number : ℚ} {code other : Nat} (rounds : format.Rounds number code)
    (below : format.value other ≤ number) : format.value other ≤ format.value code := by
  by_contra less
  have nearest := rounds.abs_sub_le other
  rw [abs_of_nonneg (sub_nonneg.mpr below), abs_of_nonneg (by linarith)] at nearest
  linarith

/-- Rounding does not pass a magnitude from below. -/
theorem Rounds.le_value {number : ℚ} {code other : Nat} (rounds : format.Rounds number code)
    (above : number ≤ format.value other) : format.value code ≤ format.value other := by
  by_contra greater
  have nearest := rounds.abs_sub_le other
  rw [abs_of_nonpos (sub_nonpos.mpr above), abs_of_nonpos (by linarith)] at nearest
  linarith

/-- A magnitude rounds to itself. -/
theorem rounds_value (format : Format) (code : Nat) : format.Rounds (format.value code) code := by
  have above : format.value code < format.value (code + 1) := value_strictMono format (by omega)
  have below : format.value (code - 1) ≤ format.value code :=
    (value_strictMono format).monotone (by omega)
  refine ⟨⟨by linarith, by linarith⟩, fun odd => ?_⟩
  have strict : format.value (code - 1) < format.value code := value_strictMono format (by omega)
  exact ⟨by linarith, by linarith⟩

/-- A number that rounds to a magnitude other than zero is positive. -/
theorem Rounds.pos {number : ℚ} {code : Nat} (rounds : format.Rounds number code)
    (nonzero : code ≠ 0) : 0 < number := by
  have previous := value_nonneg format (code - 1)
  have positive := value_strictMono format (Nat.pos_of_ne_zero nonzero)
  rw [value_zero] at positive
  have below := rounds.between.1
  linarith

/-- The bits beyond the precision are cut so that a quotient fits one band. -/
theorem excess_band (proper : format.IsProper) (quotient : Nat) :
    (quotient.log2 + 1 - format.precision = 0 ∨
      format.fullSignificand ≤ quotient / 2 ^ (quotient.log2 + 1 - format.precision)) ∧
    quotient / 2 ^ (quotient.log2 + 1 - format.precision) < 2 * format.fullSignificand := by
  have bits := proper.precision
  have high : quotient < 2 ^ (quotient.log2 + 1) := Nat.lt_log2_self
  refine ⟨?_, ?_⟩
  · rcases Nat.eq_zero_or_pos (quotient.log2 + 1 - format.precision) with none | some
    · exact Or.inl none
    · have nonzero : quotient ≠ 0 := by
        rintro rfl
        rw [Nat.log2_zero] at some
        omega
      have exponent : format.precision - 1 + (quotient.log2 + 1 - format.precision) =
          quotient.log2 := by omega
      refine Or.inr ((Nat.le_div_iff_mul_le (by positivity)).mpr ?_)
      rw [fullSignificand, Nat.pow_eq, ← pow_add, exponent]
      exact Nat.log2_self_le nonzero
  · rw [two_mul_fullSignificand (by omega), Nat.div_lt_iff_lt_mul (by positivity), ← pow_add]
    exact high.trans_le (Nat.pow_le_pow_right (by decide) (by omega))

/-- The magnitude above one in a band is at least a step of the band away. -/
theorem step_le_units_succ {exponent significand : Nat}
    (full : exponent = 0 ∨ format.fullSignificand ≤ significand)
    (bound : significand ≤ 2 * format.fullSignificand) :
    (significand + 1) * 2 ^ exponent ≤
      format.units (exponent * format.fullSignificand + significand + 1) := by
  have positive := format.fullSignificand_pos
  rcases Nat.lt_or_ge significand (2 * format.fullSignificand) with inside | last
  · rw [add_assoc, units_band (full.imp_right (le_add_right ·)) inside]
  · have band : exponent * format.fullSignificand + significand + 1 =
        (exponent + 1) * format.fullSignificand + (format.fullSignificand + 1) := by
      rw [add_mul]
      omega
    rw [band, units_band (Or.inr (by omega)) (by omega), pow_succ', ← mul_assoc]
    exact Nat.mul_le_mul_right _ (by omega)

/-- The magnitude below one in a band is a step of the band away, unless the band starts there. -/
theorem units_pred_add_step {exponent significand : Nat}
    (full : exponent = 0 ∨ format.fullSignificand ≤ significand)
    (bound : significand < 2 * format.fullSignificand) :
    format.units (exponent * format.fullSignificand + (significand + 1) - 1) + 2 ^ exponent =
      (significand + 1) * 2 ^ exponent := by
  rw [← add_assoc, Nat.add_sub_cancel, units_band full bound.le, add_mul, one_mul]

section Band

variable {exponent significand weight count : Nat}

/-- The middle above a magnitude in a band is at least half a step of the band away. -/
theorem near_le_middle_above (weight : Nat)
    (full : exponent = 0 ∨ format.fullSignificand ≤ significand)
    (bound : significand ≤ 2 * format.fullSignificand) :
    2 * (significand * (weight * 2 ^ exponent)) + weight * 2 ^ exponent ≤
      (format.units (exponent * format.fullSignificand + significand) +
        format.units (exponent * format.fullSignificand + significand + 1)) * weight := by
  have next := Nat.mul_le_mul_right weight (step_le_units_succ full bound)
  rw [units_band full bound, add_mul]
  calc 2 * (significand * (weight * 2 ^ exponent)) + weight * 2 ^ exponent
    _ = significand * 2 ^ exponent * weight + (significand + 1) * 2 ^ exponent * weight := by ring
    _ ≤ _ := Nat.add_le_add_left next _

/-- The middle below a magnitude in a band is not above a count that is at most half a step of the
band away, if the count is not below the band. -/
theorem middle_below_le (positive : 0 < weight)
    (full : exponent = 0 ∨ format.fullSignificand ≤ significand)
    (bound : significand ≤ 2 * format.fullSignificand)
    (reached : exponent = 0 ∨ format.fullSignificand * (weight * 2 ^ exponent) ≤ count)
    (near : NearMultiple count (weight * 2 ^ exponent) significand) :
    (format.units (exponent * format.fullSignificand + significand - 1) +
        format.units (exponent * format.fullSignificand + significand)) * weight ≤ 2 * count ∧
      (significand % 2 = 1 →
        (format.units (exponent * format.fullSignificand + significand - 1) +
          format.units (exponent * format.fullSignificand + significand)) * weight <
            2 * count) := by
  obtain ⟨between, inside⟩ := near
  have some := format.fullSignificand_pos
  have centre : format.units (exponent * format.fullSignificand + significand) * weight =
      significand * (weight * 2 ^ exponent) := by
    rw [units_band full bound]
    ring
  rw [add_mul]
  cases significand with
  | zero =>
      have first : exponent = 0 := by omega
      simp [first]
  | succ previous =>
      by_cases start : exponent ≠ 0 ∧ previous + 1 = format.fullSignificand
      · -- The step below the start of a band is shorter; the count is not below the start.
        have reached := reached.resolve_left start.1
        rw [← start.2, ← centre] at reached
        have less := Nat.mul_lt_mul_of_pos_right (units_strictMono format
          (show exponent * format.fullSignificand + (previous + 1) - 1 <
            exponent * format.fullSignificand + (previous + 1) by omega)) positive
        omega
      · have fullPrevious : exponent = 0 ∨ format.fullSignificand ≤ previous := by omega
        have step := units_pred_add_step fullPrevious (by omega)
        have steps : format.units (exponent * format.fullSignificand + (previous + 1) - 1) *
            weight + weight * 2 ^ exponent = (previous + 1) * (weight * 2 ^ exponent) := by
          linear_combination weight * step
        omega

/-- A count is enclosed by the neighbours of a magnitude in a band if it is at most half a step of
the band away, and not below the band. -/
theorem encloses_band (proper : format.IsProper) (positive : 0 < weight)
    (full : exponent = 0 ∨ format.fullSignificand ≤ significand)
    (bound : significand ≤ 2 * format.fullSignificand)
    (reached : exponent = 0 ∨ format.fullSignificand * (weight * 2 ^ exponent) ≤ count)
    (near : NearMultiple count (weight * 2 ^ exponent) significand) :
    format.Encloses weight count (exponent * format.fullSignificand + significand) := by
  have parity : (exponent * format.fullSignificand + significand) % 2 = significand % 2 := by
    rw [Nat.add_mod, Nat.mul_mod, fullSignificand_even proper, mul_zero, Nat.zero_mod, zero_add,
      Nat.mod_mod]
  have above := near_le_middle_above weight full bound
  have below := middle_below_le positive full bound reached near
  refine ⟨⟨below.1, near.between.2.trans above⟩, fun odd => ?_⟩
  rw [parity] at odd
  exact ⟨below.2 odd, (near.inside odd).2.trans_le above⟩

end Band

/-- A ratio rounds to the magnitude found for it. -/
theorem rounds_nearest (proper : format.IsProper) (numerator : Nat) {denominator : Nat}
    (positive : 0 < denominator) :
    format.Rounds (numerator / denominator) (format.nearest numerator denominator) := by
  let count := numerator * 2 ^ format.scale
  let exponent := (count / denominator).log2 + 1 - format.precision
  have step : 0 < denominator * 2 ^ exponent := by positivity
  have counted : (numerator / denominator : ℚ) * 2 ^ format.scale * denominator = count := by
    have nonzero : (denominator : ℚ) ≠ 0 := by positivity
    simp only [count, Nat.cast_mul, Nat.cast_pow, Nat.cast_ofNat]
    field_simp
  obtain ⟨full, bound⟩ := excess_band proper (count / denominator)
  change exponent = 0 ∨ format.fullSignificand ≤ count / denominator / 2 ^ exponent at full
  change count / denominator / 2 ^ exponent < 2 * format.fullSignificand at bound
  rw [Nat.div_div_eq_div_mul] at full bound
  obtain ⟨lower, upper⟩ := roundQuotient_bounds count (denominator * 2 ^ exponent)
  refine (rounds_iff_encloses positive counted _).mpr ?_
  exact encloses_band proper positive (full.imp_right lower.trans')
    (upper.trans (Nat.succ_le_of_lt bound))
    (full.imp_right ((Nat.le_div_iff_mul_le step).mp ·)) (nearMultiple_roundQuotient count step)

/-- A whole number is a ratio with the denominator one. -/
theorem rounds_nearest_one (proper : format.IsProper) (number : Nat) :
    format.Rounds number (format.nearest number 1) := by
  have found := rounds_nearest proper number Nat.one_pos
  rwa [Nat.cast_one, div_one] at found

/-- Every number that is not negative rounds to a magnitude. -/
theorem exists_rounds (proper : format.IsProper) {number : ℚ} (nonneg : 0 ≤ number) :
    ∃ code, format.Rounds number code := by
  have found := rounds_nearest proper number.num.toNat number.pos
  have numerator : ((number.num.toNat : Int) : ℚ) = number.num := by
    rw [Int.toNat_of_nonneg (Rat.num_nonneg.mpr nonneg)]
  rw [← Int.cast_natCast, numerator, Rat.num_div_den] at found
  exact ⟨_, found⟩

/-- The magnitude found for a ratio is the one that the ratio rounds to. -/
theorem nearest_eq_iff (proper : format.IsProper) {numerator denominator code : Nat}
    (positive : 0 < denominator) :
    format.nearest numerator denominator = code ↔
      format.Rounds (numerator / denominator) code := by
  have found := rounds_nearest proper numerator positive
  exact ⟨fun equal => equal ▸ found, fun rounds => found.unique rounds⟩

/-- A number that rounds to a finite magnitude is at most the magnitude behind the finite ones. -/
theorem Rounds.le_infinity {number : ℚ} {code : Nat} (proper : format.IsProper)
    (rounds : format.Rounds number code) (finite : code < format.infinityCode) :
    number ≤ 2 ^ 2 ^ (format.exponentWidth - 1) := by
  have self := (value_strictMono format).monotone finite.le
  have next := (value_strictMono format).monotone (Nat.succ_le_of_lt finite)
  rw [value_infinityCode proper] at self next
  have above := rounds.between.2
  linarith

/-- A number below a power of two that the format holds rounds to a finite magnitude. -/
theorem Rounds.lt_infinityCode (proper : format.IsProper) {number : ℚ} {code : Nat}
    (rounds : format.Rounds number code)
    (small : 2 * number < 2 ^ 2 ^ (format.exponentWidth - 1)) : code < format.infinityCode := by
  by_contra large
  have above := (value_strictMono format).monotone (Nat.le_of_not_lt large)
  rw [value_infinityCode proper] at above
  have below := rounds.between.1
  have previous := value_nonneg format (code - 1)
  linarith

/-- Less than half of the smallest unit rounds to zero. -/
theorem rounds_zero {number : ℚ} (positive : 0 ≤ number)
    (small : number * 2 ^ (format.scale + 1) ≤ 1) : format.Rounds number 0 := by
  have unit : format.value 1 = 1 / 2 ^ format.scale := by
    have some := format.fullSignificand_pos
    have first : format.units (0 * format.fullSignificand + 1) = 1 * 2 ^ 0 :=
      units_band (Or.inl rfl) (by omega)
    rw [zero_mul, zero_add, pow_zero, mul_one] at first
    rw [value, first, Nat.cast_one]
  refine ⟨⟨by simpa using positive, ?_⟩, by simp⟩
  rw [value_zero, zero_add, unit, le_div_iff₀ (by positivity)]
  calc 2 * number * 2 ^ format.scale = number * 2 ^ (format.scale + 1) := by ring
    _ ≤ 1 := small

/-- The powers of ten that are not computed do not round to a finite magnitude. -/
theorem Rounds.power_le (proper : format.IsProper) {significand power code : Nat}
    (rounds : format.Rounds (significand * 10 ^ power) code)
    (finite : code < format.infinityCode) (nonzero : 0 < significand) :
    power ≤ format.scale + 2 := by
  by_contra large
  have bits := proper.precision
  have width : 2 ^ (format.exponentWidth - 1) < power := by
    rw [scale, Nat.pow_eq] at large
    omega
  have whole : 2 ^ 2 ^ (format.exponentWidth - 1) < significand * 10 ^ power :=
    calc 2 ^ 2 ^ (format.exponentWidth - 1)
      _ < 2 ^ power := Nat.pow_lt_pow_right (by decide) width
      _ ≤ 10 ^ power := Nat.pow_le_pow_left (by decide) power
      _ ≤ significand * 10 ^ power := Nat.le_mul_of_pos_left _ nonzero
  exact absurd (rounds.le_infinity proper finite) (not_le.mpr (by exact_mod_cast whole))

/-- The negative powers of ten that are not computed round to zero. -/
theorem rounds_zero_of_lt {significand power : Nat}
    (small : format.scale + significand.log2 + 3 < power) :
    format.Rounds (significand / 10 ^ (power + 1)) 0 := by
  have whole : significand * 2 ^ (format.scale + 1) ≤ 10 ^ (power + 1) :=
    calc significand * 2 ^ (format.scale + 1)
      _ ≤ 2 ^ (significand.log2 + 1) * 2 ^ (format.scale + 1) :=
        Nat.mul_le_mul_right _ Nat.lt_log2_self.le
      _ = 2 ^ (significand.log2 + 1 + (format.scale + 1)) := (pow_add _ _ _).symm
      _ ≤ 2 ^ (power + 1) := Nat.pow_le_pow_right (by decide) (by omega)
      _ ≤ 10 ^ (power + 1) := Nat.pow_le_pow_left (by decide) _
  refine rounds_zero (by positivity) ?_
  rw [div_mul_eq_mul_div, div_le_one (by positivity)]
  exact_mod_cast whole

/-- The magnitude found for a decimal is the one that the decimal rounds to, unless the decimal is
too large. -/
theorem nearestDecimal_eq_of_rounds (proper : format.IsProper) {significand code : Nat}
    {exponent : Int} (rounds : format.Rounds (significand * 10 ^ exponent) code)
    (finite : code < format.infinityCode) :
    format.nearestDecimal significand exponent = code := by
  unfold nearestDecimal
  split
  · rename_i zero
    rw [zero, Nat.cast_zero, zero_mul] at rounds
    exact (rounds_zero le_rfl (by simp)).unique rounds
  · rename_i nonzero
    cases exponent with
    | ofNat power =>
        rw [Int.ofNat_eq_natCast, zpow_natCast] at rounds
        have near := rounds.power_le proper finite (Nat.pos_of_ne_zero nonzero)
        dsimp only
        rw [if_neg (Nat.not_lt.mpr near)]
        refine (nearest_eq_iff proper Nat.one_pos).mpr ?_
        simpa using rounds
    | negSucc power =>
        rw [zpow_negSucc, ← div_eq_mul_inv] at rounds
        dsimp only
        split
        · rename_i small
          exact (rounds_zero_of_lt small).unique rounds
        · refine (nearest_eq_iff proper (Nat.pow_pos (by decide))).mpr ?_
          simpa [Nat.pow_eq] using rounds

/-- A decimal rounds to the magnitude found for it, unless the decimal is too large. -/
theorem rounds_nearestDecimal (proper : format.IsProper) {significand : Nat} {exponent : Int}
    (finite : format.nearestDecimal significand exponent < format.infinityCode) :
    format.Rounds (significand * 10 ^ exponent) (format.nearestDecimal significand exponent) := by
  unfold nearestDecimal at finite ⊢
  split at finite
  · rename_i zero
    rw [if_pos zero, zero, Nat.cast_zero, zero_mul]
    exact rounds_zero le_rfl (by simp)
  · rename_i nonzero
    rw [if_neg nonzero]
    cases exponent with
    | ofNat power =>
        rw [Int.ofNat_eq_natCast, zpow_natCast]
        dsimp only at finite ⊢
        split at finite
        · exact absurd finite (lt_irrefl _)
        · rename_i near
          rw [if_neg near]
          have rounds := rounds_nearest proper (significand * Nat.pow 10 power) Nat.one_pos
          simpa [Nat.pow_eq] using rounds
    | negSucc power =>
        rw [zpow_negSucc, ← div_eq_mul_inv]
        dsimp only
        split
        · rename_i small
          exact rounds_zero_of_lt small
        · have positive : 0 < Nat.pow 10 (power + 1) := Nat.pow_pos (by decide)
          have rounds := rounds_nearest proper significand positive
          simpa [Nat.pow_eq] using rounds

end Format

end FilterQuery.Binary
