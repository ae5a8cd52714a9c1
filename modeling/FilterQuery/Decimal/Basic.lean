namespace FilterQuery

/-- The magnitude `significand * 10 ^ exponent`. -/
structure Decimal where
  significand : Nat
  exponent : Int
deriving DecidableEq

namespace Decimal

/-- The digits of a natural number, most significant first. -/
def digitsOf (n : Nat) : List Char := Nat.toDigits 10 n

/-- The natural number that a row of digits denotes; an empty row denotes zero. -/
def valueOf (digits : List Char) : Nat := Nat.ofDigitChars 10 digits 0

/-- The significand without its last zeros, and how many there were. The limit bounds the count. -/
def dropZeros : Nat → Nat → Nat × Nat
  | 0, n => (n, 0)
  | limit + 1, n =>
      if n % 10 = 0 then
        let rest := dropZeros limit (n / 10)
        (rest.1, rest.2 + 1)
      else (n, 0)

/-- The same magnitude with a significand that does not end in a zero. -/
def reduce (decimal : Decimal) : Decimal :=
  let rest := dropZeros decimal.significand.log2 decimal.significand
  ⟨rest.1, decimal.exponent + rest.2⟩

def digits (decimal : Decimal) : List Char := digitsOf decimal.significand

/-- The power of ten of the first digit. -/
def leadingExponent (decimal : Decimal) : Int :=
  decimal.exponent + decimal.digits.length - 1

theorem eq_dropZeros_mul_pow (limit n : Nat) :
    n = (dropZeros limit n).1 * Nat.pow 10 (dropZeros limit n).2 := by
  induction limit generalizing n with
  | zero => simp [dropZeros]
  | succ limit ih =>
      unfold dropZeros
      split
      · have step := ih (n / 10)
        change n = (dropZeros limit (n / 10)).1 *
          (Nat.pow 10 (dropZeros limit (n / 10)).2 * 10)
        rw [← Nat.mul_assoc, ← step]
        omega
      · simp

theorem valueOf_digitsOf (n : Nat) : valueOf (digitsOf n) = n :=
  Nat.ofDigitChars_toDigits (by decide) (by decide)

end Decimal

end FilterQuery
