import FilterQuery.Proofs.Decimal.Spelling
import Mathlib.Tactic

namespace FilterQuery.Decimal

def value (decimal : Decimal) : ℚ := decimal.significand * 10 ^ decimal.exponent

/-- Zeros that are moved into the exponent do not change the value. -/
theorem value_reduce (decimal : Decimal) : decimal.reduce.value = decimal.value := by
  have split := eq_dropZeros_mul_pow decimal.significand.log2 decimal.significand
  rw [Nat.pow_eq] at split
  have cast : (decimal.significand : ℚ) =
      (dropZeros decimal.significand.log2 decimal.significand).1 *
        10 ^ (dropZeros decimal.significand.log2 decimal.significand).2 := by
    exact_mod_cast split
  rw [value, value, cast, reduce, zpow_add₀ (by norm_num), zpow_natCast]
  ring

/-- A row of digits denotes the first digits, shifted, and the others. -/
theorem valueOf_append (first second : List Char) :
    valueOf (first ++ second) = 10 ^ second.length * valueOf first + valueOf second := by
  rw [valueOf, Nat.ofDigitChars_append, Nat.ofDigitChars_eq_ofDigitChars_zero]
  rfl

theorem valueOf_zeros (count : Nat) : valueOf (zeros count) = 0 := by
  rw [valueOf, zeros, Nat.ofDigitChars_replicate_zero, Nat.mul_zero]

/-- Zeros at the end multiply by powers of ten. -/
theorem valueOf_append_zeros (digits : List Char) (count : Nat) :
    valueOf (digits ++ zeros count) = valueOf digits * 10 ^ count := by
  rw [valueOf_append, valueOf_zeros, zeros, List.length_replicate]
  ring

/-- The digits of a positive multiple of a power of ten end in zeros. -/
theorem digitsOf_mul_pow {n : Nat} (positive : 0 < n) (count : Nat) :
    digitsOf (n * 10 ^ count) = digitsOf n ++ zeros count := by
  induction count with
  | zero => simp [zeros]
  | succ count ih =>
      have step := Nat.toDigits_append_toDigits (b := 10) (n := n * 10 ^ count) (d := 0)
        (by decide) (by positivity) (by decide)
      have shifted : 10 * (n * 10 ^ count) + 0 = n * 10 ^ (count + 1) := by ring
      rw [shifted, Nat.toDigits_zero] at step
      rw [digitsOf, ← step, ← digitsOf, ih, zeros, zeros, List.replicate_succ', List.append_assoc]

namespace Spelling

/-- The rational number that a spelling writes down. -/
def value (spelling : Spelling) : ℚ :=
  valueOf (spelling.whole ++ spelling.fraction) *
    10 ^ (spelling.exponent - spelling.fraction.length)

theorem value_nonneg (spelling : Spelling) : 0 ≤ spelling.value := by
  rw [value]
  positivity

/-- A literal denotes what its spelling writes down. -/
theorem value_magnitude_literal (negative : Bool) (spelling : Spelling) :
    (spelling.literal negative).magnitude.value = spelling.value := rfl

/-- A spelling by digits alone writes down what the digits denote. -/
theorem value_of_isPlain {spelling : Spelling} (plain : spelling.IsPlain) :
    spelling.value = valueOf spelling.whole := by
  have marked := spelling.marked
  rw [plain.2] at marked
  have exponent : spelling.exponent = 0 := (Option.some.inj marked).symm
  simp [value, plain.1, exponent]

end Spelling

/-- Digits around a point are a spelling of what they denote together, in units of the last. -/
theorem exists_spelling_point {whole fraction : List Char} (nonempty : whole ≠ [])
    (pointed : fraction ≠ []) (wholeDigits : ∀ c ∈ whole, c.isDigit = true)
    (fractionDigits : ∀ c ∈ fraction, c.isDigit = true) :
    ∃ spelling : Spelling, spelling.text = whole ++ '.' :: fraction ∧
      spelling.value = value ⟨valueOf (whole ++ fraction), -fraction.length⟩ ∧
      ¬spelling.IsPlain := by
  refine ⟨⟨whole, fraction, [], 0, nonempty, wholeDigits, fractionDigits, rfl⟩, ?_, ?_, ?_⟩
  · simp [Spelling.text, Spelling.point, pointed]
  · simp [Spelling.value, value]
  · exact fun plain => pointed plain.1

/-- Digits with zeros behind them are a spelling by digits alone. They are the digits of what they
denote, unless this is zero. -/
theorem exists_spelling_whole (significand power : Nat) :
    ∃ spelling : Spelling, spelling.text = positional ⟨significand, power⟩ ∧
      spelling.value = value ⟨significand, power⟩ ∧
      (0 < significand → digitsOf (valueOf spelling.whole) = spelling.whole) := by
  have padded : ∀ c ∈ digitsOf significand ++ zeros power, c.isDigit = true := by
    intro c member
    exact (List.mem_append.mp member).elim isDigit_of_mem_digitsOf isDigit_of_mem_zeros
  have nonempty : digitsOf significand ++ zeros power ≠ [] :=
    List.append_ne_nil_of_left_ne_nil (digitsOf_ne_nil _) _
  refine ⟨⟨digitsOf significand ++ zeros power, [], [], 0, nonempty, padded, by simp, rfl⟩,
    ?_, ?_, fun positive => ?_⟩
  · rw [Spelling.text_of_isPlain ⟨rfl, rfl⟩]
    rfl
  · simp [Spelling.value, value, valueOf_append_zeros, valueOf_digitsOf]
  · simp only [valueOf_append_zeros, valueOf_digitsOf]
    exact digitsOf_mul_pow positive power

/-- Digits with the point among them are a spelling with a fraction. -/
theorem exists_spelling_inner {significand power : Nat}
    (inner : power + 1 < (digitsOf significand).length) :
    ∃ spelling : Spelling, spelling.text = positional ⟨significand, .negSucc power⟩ ∧
      spelling.value = value ⟨significand, .negSucc power⟩ ∧ ¬spelling.IsPlain := by
  let place := (digitsOf significand).length - (power + 1)
  have whole : (digitsOf significand).take place ≠ [] := by
    intro empty
    have length := congrArg List.length empty
    rw [List.length_take, List.length_nil] at length
    omega
  have places : ((digitsOf significand).drop place).length = power + 1 := by
    rw [List.length_drop]
    omega
  have fraction : (digitsOf significand).drop place ≠ [] := by
    intro empty
    rw [empty] at places
    cases places
  obtain ⟨spelling, text, denotes, pointed⟩ := exists_spelling_point whole fraction
    (fun c member => isDigit_of_mem_digitsOf (List.mem_of_mem_take member))
    (fun c member => isDigit_of_mem_digitsOf (List.mem_of_mem_drop member))
  rw [List.take_append_drop, valueOf_digitsOf, places] at denotes
  refine ⟨spelling, ?_, denotes, pointed⟩
  rw [text]
  simp [positional, Decimal.digits, inner, place]

/-- Digits behind a zero, the point and further zeros are a spelling with a fraction. -/
theorem exists_spelling_outer {significand power : Nat}
    (outer : ¬power + 1 < (digitsOf significand).length) :
    ∃ spelling : Spelling, spelling.text = positional ⟨significand, .negSucc power⟩ ∧
      spelling.value = value ⟨significand, .negSucc power⟩ ∧ ¬spelling.IsPlain := by
  let fraction := zeros (power + 1 - (digitsOf significand).length) ++ digitsOf significand
  have nonempty : fraction ≠ [] := List.append_ne_nil_of_right_ne_nil _ (digitsOf_ne_nil _)
  have places : fraction.length = power + 1 := by
    rw [List.length_append, zeros, List.length_replicate]
    omega
  obtain ⟨spelling, text, denotes, pointed⟩ := exists_spelling_point
    (List.cons_ne_nil '0' []) nonempty
    (fun c member => by rw [List.mem_singleton.mp member]; rfl)
    (fun c member => (List.mem_append.mp member).elim isDigit_of_mem_zeros isDigit_of_mem_digitsOf)
  have padded : valueOf (['0'] ++ fraction) = significand := by
    rw [valueOf_append, valueOf_append (zeros _), valueOf_zeros, valueOf_digitsOf]
    simp [valueOf, Nat.ofDigitChars_cons]
  rw [padded, places] at denotes
  refine ⟨spelling, ?_, denotes, pointed⟩
  rw [text]
  simp [positional, Decimal.digits, outer, fraction]

/-- A decimal in positional digits is a spelling of its value. If the digits stand alone, they are
the digits of what they denote, unless this is zero. -/
theorem exists_spelling_positional (decimal : Decimal) :
    ∃ spelling : Spelling, spelling.text = decimal.positional ∧ spelling.value = decimal.value ∧
      (0 < decimal.significand → spelling.IsPlain →
        digitsOf (valueOf spelling.whole) = spelling.whole) := by
  obtain ⟨significand, exponent⟩ := decimal
  cases exponent with
  | ofNat power =>
      obtain ⟨spelling, text, denotes, canonical⟩ := exists_spelling_whole significand power
      exact ⟨spelling, text, denotes, fun positive _ => canonical positive⟩
  | negSucc power =>
      obtain ⟨spelling, text, denotes, pointed⟩ :
          ∃ spelling : Spelling, spelling.text = positional ⟨significand, .negSucc power⟩ ∧
            spelling.value = value ⟨significand, .negSucc power⟩ ∧ ¬spelling.IsPlain := by
        by_cases inner : power + 1 < (digitsOf significand).length
        · exact exists_spelling_inner inner
        · exact exists_spelling_outer inner
      exact ⟨spelling, text, denotes, fun _ plain => absurd plain pointed⟩

/-- The mark of an exponent reads back. -/
theorem readExponent?_mark (plus : Bool) (exponent : Int) :
    readExponent? ('e' :: (if plus && 0 ≤ exponent then ['+'] else []) ++ integerDigits exponent) =
      some exponent := by
  simp only [List.cons_append, readExponent?, beq_self_eq_true, Bool.true_or, if_true]
  split
  · rename_i signed
    simp only [Bool.and_eq_true, decide_eq_true_eq] at signed
    exact readInteger?_plus_integerDigits signed.2
  · exact readInteger?_integerDigits exponent

/-- A decimal with its exponent written out is a spelling of its value, and never of digits
alone. -/
theorem exists_spelling_scientific (plus : Bool) (decimal : Decimal) :
    ∃ spelling : Spelling, spelling.text = decimal.scientific plus ∧
      spelling.value = decimal.value ∧ ¬spelling.IsPlain := by
  obtain ⟨first, rest, split⟩ := List.exists_cons_of_ne_nil (digitsOf_ne_nil decimal.significand)
  have digits : ∀ c ∈ first :: rest, c.isDigit = true := by
    rw [← split]
    exact fun c => isDigit_of_mem_digitsOf
  refine ⟨⟨[first], rest, _, decimal.leadingExponent, List.cons_ne_nil _ _,
    fun c member => digits c (by simp_all), fun c member => digits c (by simp [member]),
    readExponent?_mark plus _⟩, ?_, ?_, ?_⟩
  · have mantissa : mantissa (first :: rest) = first :: Spelling.point rest := by
      cases rest <;> simp [Decimal.mantissa, Spelling.point]
    simp [Spelling.text, scientific, Decimal.digits, split, mantissa]
  · have exponent : decimal.leadingExponent - rest.length = decimal.exponent := by
      rw [leadingExponent, Decimal.digits, split, List.length_cons]
      omega
    simp only [Spelling.value, value, List.singleton_append, exponent]
    rw [← split, valueOf_digitsOf]
  · exact fun plain => List.cons_ne_nil _ _ plain.2

end FilterQuery.Decimal
