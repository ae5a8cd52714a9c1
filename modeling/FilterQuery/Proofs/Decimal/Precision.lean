import FilterQuery.Proofs.Decimal.Coarse

namespace FilterQuery.Decimal

open Binary (Format)

namespace Interval

variable {tie : Tie} {interval : Interval} {distance : Nat}

/-- The interval extends at least this far to both sides of its centre. -/
structure Reaches (interval : Interval) (distance : Nat) : Prop where
  below : interval.low + distance ≤ interval.centre
  above : interval.centre + distance ≤ interval.high

/-- The points nearer to the centre than the interval extends belong to it. -/
theorem Reaches.contains (reaches : interval.Reaches distance) {point : Nat}
    (below : interval.centre < point + distance) (above : point < interval.centre + distance) :
    interval.contains point = true := by
  have low := reaches.below
  have high := reaches.above
  unfold Interval.contains
  split
  · simp only [Bool.and_eq_true, decide_eq_true_eq]
    omega
  · simp only [Bool.and_eq_true, decide_eq_true_eq]
    omega

/-- The multiple of a step that is nearest to the centre is less than half a step away, or just as
far, so the interval contains it. -/
theorem Reaches.exists_multiple? (reaches : interval.Reaches distance) {step : Nat}
    (positive : 0 < step) (fine : step < 2 * distance) :
    ∃ multiple, interval.multiple? tie step = some multiple := by
  have split := Nat.div_add_mod' interval.centre step
  have rest := Nat.mod_lt interval.centre positive
  have next := Nat.add_one_mul (interval.centre / step) step
  have centred : interval.contains interval.centre = true :=
    reaches.contains (by omega) (by omega)
  by_cases nearer : 2 * (interval.centre % step) ≤ step
  · have lower : interval.contains (interval.centre / step * step) = true :=
      reaches.contains (by omega) (by omega)
    exact exists_multiple?_of_contains centred positive lower
  · have upper : interval.contains ((interval.centre / step + 1) * step) = true :=
      reaches.contains (by omega) (by omega)
    exact exists_multiple?_of_contains centred positive upper

/-- A multiple that is taken is at most the one above the centre. -/
theorem multiple?_le {step multiple : Nat} (found : interval.multiple? tie step = some multiple) :
    multiple ≤ interval.centre / step + 1 := by
  unfold multiple? at found
  dsimp only at found
  have above : (if interval.centre % step = 0 then interval.centre / step
      else interval.centre / step + 1) ≤ interval.centre / step + 1 := by
    split <;> omega
  split at found
  · rw [Option.some.injEq] at found
    rw [← found]
    split
    · omega
    · exact above
  · rw [Option.some.injEq] at found
    omega
  · rw [Option.some.injEq] at found
    rw [← found]
    exact above
  · cases found

theorem fst_coarsest_le (tie : Tie) (interval : Interval) (limit : Nat) :
    (interval.coarsest tie limit).1 ≤
      interval.centre / 10 ^ (interval.coarsest tie limit).2 + 1 := by
  induction limit with
  | zero =>
      rw [coarsest, pow_zero, Nat.div_one]
      omega
  | succ limit inductionHypothesis =>
      unfold coarsest
      split
      · rename_i multiple found
        exact multiple?_le found
      · exact inductionHypothesis

/-- An interval around a magnitude reaches as many units as both neighbours are away; it is counted
in half units. -/
theorem reaches_around {format : Format} {code unit : Nat}
    (below : format.units (code - 1) + unit ≤ format.units code)
    (above : format.units code + unit ≤ format.units (code + 1)) :
    (around format code).Reaches (unit * 5 ^ (format.scale + 1)) := by
  have left := Nat.mul_le_mul_right (5 ^ (format.scale + 1)) below
  have right := Nat.mul_le_mul_right (5 ^ (format.scale + 1)) above
  rw [Nat.add_mul] at left right
  constructor
  · change (format.units (code - 1) + format.units code) * 5 ^ (format.scale + 1) +
        unit * 5 ^ (format.scale + 1) ≤ 2 * format.units code * 5 ^ (format.scale + 1)
    rw [Nat.add_mul, Nat.mul_assoc]
    omega
  · change 2 * format.units code * 5 ^ (format.scale + 1) + unit * 5 ^ (format.scale + 1) ≤
      (format.units code + format.units (code + 1)) * 5 ^ (format.scale + 1)
    rw [Nat.add_mul, Nat.mul_assoc]
    omega

/-- A magnitude other than zero is at least a step of its band away from both neighbours, and at most
two full significands of such steps above zero. -/
theorem exists_step (format : Format) {code : Nat} (nonzero : code ≠ 0) :
    ∃ step, 0 < step ∧ format.units (code - 1) + step ≤ format.units code ∧
      format.units code + step ≤ format.units (code + 1) ∧
      format.units code ≤ 2 * format.fullSignificand * step := by
  obtain ⟨previous, rfl⟩ := Nat.exists_eq_succ_of_ne_zero nonzero
  obtain ⟨exponent, significand, rfl, full, bound⟩ := Format.exists_band format previous
  have next : exponent = 0 ∨ format.fullSignificand ≤ significand + 1 :=
    full.imp_right (le_add_right ·)
  have below := Format.units_band full bound.le
  have centre := Format.units_band next bound
  have above := Format.step_le_units_succ next bound
  refine ⟨2 ^ exponent, by positivity, ?_, ?_, ?_⟩
  · rw [Nat.succ_eq_add_one, Nat.add_sub_cancel, add_assoc, below, centre, ← Nat.succ_mul]
  · rw [Nat.succ_eq_add_one, add_assoc, centre, ← Nat.succ_mul]
    exact above
  · rw [Nat.succ_eq_add_one, add_assoc, centre]
    exact Nat.mul_le_mul_right _ bound

/-- Among the powers of ten that the search runs through there is one below two steps that counts
the centre by ten times the number of such steps at most. -/
theorem exists_power {centre count : Nat} (positive : 0 < distance) (some : 0 < count)
    (most : centre ≤ count * (2 * distance)) :
    ∃ power, power ≤ (digitsOf centre).length - 1 ∧ 10 ^ power < 2 * distance ∧
      centre ≤ 10 * count * 10 ^ power := by
  have fine : 10 ^ Nat.log 10 (2 * distance - 1) ≤ 2 * distance - 1 :=
    Nat.pow_log_le_self 10 (by omega)
  have coarse : 2 * distance - 1 < 10 ^ (Nat.log 10 (2 * distance - 1) + 1) :=
    Nat.lt_pow_succ_log_self (by decide) _
  rw [pow_succ'] at coarse
  rcases Nat.le_total (Nat.log 10 (2 * distance - 1)) ((digitsOf centre).length - 1) with
    within | beyond
  · refine ⟨Nat.log 10 (2 * distance - 1), within, by omega, ?_⟩
    calc centre
      _ ≤ count * (2 * distance) := most
      _ ≤ count * (10 * 10 ^ Nat.log 10 (2 * distance - 1)) :=
        Nat.mul_le_mul_left _ (by omega)
      _ = 10 * count * 10 ^ Nat.log 10 (2 * distance - 1) := by ring
  · -- The search starts below: its first power of ten already counts the centre by one digit.
    have small : 10 ^ ((digitsOf centre).length - 1) ≤ 10 ^ Nat.log 10 (2 * distance - 1) :=
      Nat.pow_le_pow_right (by decide) beyond
    refine ⟨(digitsOf centre).length - 1, le_rfl, by omega, ?_⟩
    calc centre
      _ ≤ 10 ^ ((digitsOf centre).length - 1 + 1) := by
        rw [Nat.sub_add_cancel (length_digitsOf_pos centre)]
        exact (lt_pow_length_digitsOf centre).le
      _ = 10 * 1 * 10 ^ ((digitsOf centre).length - 1) := by rw [pow_succ', mul_one]
      _ ≤ 10 * count * 10 ^ ((digitsOf centre).length - 1) :=
        Nat.mul_le_mul_right _ (Nat.mul_le_mul_left _ some)

/-- The multiple that the search finds counts no more than ten times the steps up to the centre. -/
theorem Reaches.fst_coarsest_le (reaches : interval.Reaches distance) (positive : 0 < distance)
    {count : Nat} (counts : 0 < count) (most : interval.centre ≤ count * (2 * distance)) :
    (interval.coarsest tie ((digitsOf interval.centre).length - 1)).1 ≤ 10 * count + 1 := by
  obtain ⟨power, within, fine, counted⟩ := exists_power positive counts most
  have multiple : ∃ multiple, interval.multiple? tie (10 ^ power) = some multiple :=
    reaches.exists_multiple? (by positivity) fine
  have found := le_snd_coarsest multiple ((digitsOf interval.centre).length - 1) within
  apply (Interval.fst_coarsest_le tie interval _).trans
  apply Nat.add_le_add_right
  apply Nat.div_le_of_le_mul
  calc interval.centre
    _ ≤ 10 * count * 10 ^ power := counted
    _ ≤ 10 * count * 10 ^ (interval.coarsest tie ((digitsOf interval.centre).length - 1)).2 :=
      Nat.mul_le_mul_left _ (Nat.pow_le_pow_right (by decide) found)
    _ = _ := mul_comm _ _

end Interval

/-- A shortest significand is at most twenty full significands and one. -/
theorem significand_shortest_le (tie : Tie) (format : Format) {code : Nat} (nonzero : code ≠ 0) :
    (shortest tie format code).significand ≤ 20 * format.fullSignificand + 1 := by
  obtain ⟨step, positive, below, above, most⟩ := Interval.exists_step format nonzero
  have full := format.fullSignificand_pos
  have reaches := Interval.reaches_around below above
  have steps : (Interval.around format code).centre ≤
      2 * format.fullSignificand * (2 * (step * 5 ^ (format.scale + 1))) := by
    calc 2 * format.units code * 5 ^ (format.scale + 1)
      _ ≤ 2 * (2 * format.fullSignificand * step) * 5 ^ (format.scale + 1) :=
        Nat.mul_le_mul_right _ (Nat.mul_le_mul_left 2 most)
      _ = 2 * format.fullSignificand * (2 * (step * 5 ^ (format.scale + 1))) := by ring
  calc (shortest tie format code).significand
    _ ≤ ((Interval.around format code).coarsest tie
        ((digitsOf (Interval.around format code).centre).length - 1)).1 :=
      significand_reduce_le _
    _ ≤ 10 * (2 * format.fullSignificand) + 1 :=
      reaches.fst_coarsest_le (by positivity) (by omega) steps
    _ = 20 * format.fullSignificand + 1 := by ring

/-- A shortest decimal has one digit more than the full significands need that the format can count
twice over. -/
theorem length_digits_shortest_le (tie : Tie) (format : Format) {code count : Nat}
    (nonzero : code ≠ 0) (wide : 2 * format.fullSignificand < 10 ^ count) :
    (shortest tie format code).digits.length ≤ count + 1 := by
  apply (length_digitsOf_le_iff (Nat.succ_pos count)).mpr
  have bound := significand_shortest_le tie format nonzero
  rw [pow_succ]
  omega

end FilterQuery.Decimal
