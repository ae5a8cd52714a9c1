/-!
Binary floating point formats. The magnitudes of a format are numbered from zero upwards, and each
is a whole number of the format's smallest unit, so all comparisons are made on natural numbers.
-/

namespace FilterQuery.Binary

/-- A binary interchange format: the bits of its significands and the bits of its exponents. -/
structure Format where
  precision : Nat
  exponentWidth : Nat

@[reducible] def Format.double : Format := ⟨53, 11⟩

@[reducible] def Format.single : Format := ⟨24, 8⟩

/-- The smallest unit of the format is 2 to the power of minus this scale. -/
def Format.scale (format : Format) : Nat :=
  Nat.pow 2 (format.exponentWidth - 1) + format.precision - 3

/-- The least significand with the format's full precision. -/
def Format.fullSignificand (format : Format) : Nat := Nat.pow 2 (format.precision - 1)

/-- The code that follows the codes of all finite magnitudes. -/
def Format.infinityCode (format : Format) : Nat :=
  (Nat.pow 2 format.exponentWidth - 1) * format.fullSignificand

/-- The bit of the sign in an encoded number. -/
def Format.signBit (format : Format) : Nat :=
  Nat.pow 2 format.exponentWidth * format.fullSignificand

/-- The magnitude with this code, counted in the format's smallest unit. -/
def Format.units (format : Format) (code : Nat) : Nat :=
  let band := code / format.fullSignificand
  let offset := code % format.fullSignificand
  if band = 0 then offset else (format.fullSignificand + offset) * Nat.pow 2 (band - 1)

/-- The quotient rounded to the nearest natural number, a tie going to the even neighbour. -/
def roundQuotient (numerator denominator : Nat) : Nat :=
  let quotient := numerator / denominator
  let twice := 2 * (numerator % denominator)
  if twice < denominator ∨ (twice = denominator ∧ quotient % 2 = 0) then quotient
  else quotient + 1

/-- The code of the magnitude nearest to a ratio, a tie going to the even code. A code beyond the
finite ones means that the ratio is too large for the format. -/
def Format.nearest (format : Format) (numerator denominator : Nat) : Nat :=
  let scaled := numerator * Nat.pow 2 format.scale
  let excess := (scaled / denominator).log2 + 1 - format.precision
  excess * format.fullSignificand + roundQuotient scaled (denominator * Nat.pow 2 excess)

/-- The code of the magnitude nearest to `significand * 10 ^ exponent`. Powers of ten far outside
the format's range are answered without being computed. -/
def Format.nearestDecimal (format : Format) (significand : Nat) (exponent : Int) : Nat :=
  if significand = 0 then 0
  else
    match exponent with
    | .ofNat power =>
        if format.scale + 2 < power then format.infinityCode
        else format.nearest (significand * Nat.pow 10 power) 1
    | .negSucc power =>
        if format.scale + significand.log2 + 3 < power then 0
        else format.nearest significand (Nat.pow 10 (power + 1))

theorem Format.fullSignificand_pos (format : Format) : 0 < format.fullSignificand :=
  Nat.pow_pos (by decide)

@[simp] theorem Format.units_zero (format : Format) : format.units 0 = 0 := by
  simp [units]

/-- Codes below two full significands count the smallest unit itself. -/
theorem Format.units_of_lt (format : Format) {code : Nat} (h : code < format.fullSignificand) :
    format.units code = code := by
  simp [units, Nat.div_eq_of_lt h, Nat.mod_eq_of_lt h]

end FilterQuery.Binary
