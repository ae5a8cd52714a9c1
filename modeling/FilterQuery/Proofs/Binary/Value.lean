import FilterQuery.Binary.Number
import FilterQuery.Proofs.Binary.Rounding

namespace FilterQuery.Binary

variable {format : Format}

/-- The value of a number; one that is not finite counts as zero. -/
def value : Binary format → ℚ
  | .finite negative code => if negative then -format.value code else format.value code
  | .nan | .infinite _ => 0

def isZero : Binary format → Bool
  | .finite _ code => code.val == 0
  | .nan | .infinite _ => false

theorem value_of_isZero {number : Binary format} (zero : number.isZero = true) :
    number.value = 0 := by
  cases number with
  | nan => cases zero
  | infinite negative => cases zero
  | finite negative code =>
      have first : code.val = 0 := by simpa [isZero] using zero
      simp [value, first]

/-- A rational rounds to a finite number: behind the sign it rounds to the number's magnitude. -/
def Rounds (rational : ℚ) : Binary format → Prop
  | .finite negative code => format.Rounds (if negative then -rational else rational) code
  | .nan | .infinite _ => False

/-- The value of a finite number rounds to the number. -/
theorem rounds_value {number : Binary format} (finite : number.isFinite = true) :
    Rounds number.value number := by
  cases number with
  | nan => cases finite
  | infinite negative => cases finite
  | finite negative code =>
      have magnitude := Format.rounds_value format code
      cases negative <;> simpa [Rounds, value] using magnitude

/-- A rational rounds to one number other than zero at most. -/
theorem Rounds.unique {rational : ℚ} {first second : Binary format} (left : Rounds rational first)
    (right : Rounds rational second) (nonzero : first.isZero = false)
    (otherNonzero : second.isZero = false) : first = second := by
  cases first with
  | nan => cases left
  | infinite negative => cases left
  | finite negative code =>
      cases second with
      | nan => cases right
      | infinite negative => cases right
      | finite otherNegative otherCode =>
          have positive := Format.Rounds.pos left (by simpa [isZero] using nonzero)
          have otherPositive := Format.Rounds.pos right (by simpa [isZero] using otherNonzero)
          have sign : negative = otherNegative := by
            cases negative <;> cases otherNegative <;> simp at positive otherPositive ⊢ <;> linarith
          subst sign
          exact congrArg _ (Fin.ext (Format.Rounds.unique left right))

/-- The number found for a decimal with a sign is the one that it rounds to. -/
theorem ofDecimal_eq_of_rounds (proper : format.IsProper) (negative : Bool) {significand : Nat}
    {exponent : Int} {code : Fin format.infinityCode}
    (rounds : format.Rounds (significand * 10 ^ exponent) code) :
    ofDecimal negative significand exponent = finite negative code := by
  rw [ofDecimal, Format.nearestDecimal_eq_of_rounds proper rounds code.isLt,
    ofCode_of_lt negative code.isLt]

/-- A finite number is found for a decimal with a sign exactly if it has this sign and the decimal
rounds to its magnitude. -/
theorem ofDecimal_eq_finite_iff (proper : format.IsProper) {negative sign : Bool}
    {significand : Nat} {exponent : Int} {code : Fin format.infinityCode} :
    (ofDecimal negative significand exponent : Binary format) = finite sign code ↔
      negative = sign ∧ format.Rounds (significand * 10 ^ exponent) code := by
  constructor
  · intro found
    have bounded : format.nearestDecimal significand exponent < format.infinityCode := by
      by_contra large
      rw [ofDecimal, ofCode, dif_neg large] at found
      cases found
    have rounds := Format.rounds_nearestDecimal proper bounded
    rw [ofDecimal, ofCode_of_lt negative bounded, finite.injEq] at found
    obtain ⟨same, rfl⟩ := found
    exact ⟨same, rounds⟩
  · rintro ⟨rfl, rounds⟩
    exact ofDecimal_eq_of_rounds proper negative rounds

end FilterQuery.Binary
