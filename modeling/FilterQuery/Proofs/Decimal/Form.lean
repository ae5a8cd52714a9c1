import FilterQuery.Proofs.Decimal.Magnitude
import Mathlib.Computability.Language

namespace FilterQuery.Decimal

open scoped Computability

namespace Form

/-- The texts of one character of a class. -/
def oneOf (holds : Char → Bool) : Language Char := {text | ∃ c, holds c = true ∧ text = [c]}

def digit : Language Char := oneOf Char.isDigit

def nonzeroDigit : Language Char := oneOf fun c => c.isDigit && c != '0'

/-- A part that may be left out. -/
def optional (part : Language Char) : Language Char := 1 + part

/-- Digits that do not start with a zero. -/
def numeral : Language Char := nonzeroDigit * digit∗

/-- A point and digits that do not end with a zero. -/
def fraction : Language Char := {['.']} * (digit∗ * nonzeroDigit)

/-- The form `-?(0|[1-9][0-9]*)(\.[0-9]*[1-9])?`. -/
def positional : Language Char :=
  optional {['-']} * (({['0']} + numeral) * optional fraction)

/-- Digits that do not start with a zero and denote at least this number. -/
def numeralFrom (least : Nat) : Language Char := {digits | digits ∈ numeral ∧ least ≤ valueOf digits}

/-- The form `-?[1-9](\.[0-9]*[1-9])?e(\+[1-9][0-9]*|-[1-9][0-9]*)` with an exponent that is at least
21 if it is positive and at most -7 if it is negative. -/
def scientific : Language Char :=
  optional {['-']} * (nonzeroDigit * optional fraction *
    ({['e', '+']} * numeralFrom 21 + {['e', '-']} * numeralFrom 7))

variable {digits : List Char}

theorem mem_star_oneOf {holds : Char → Bool} (all : ∀ c ∈ digits, holds c = true) :
    digits ∈ (oneOf holds)∗ := by
  apply Language.mem_kstar.mpr
  refine ⟨digits.map fun c => [c], ?_, ?_⟩
  · rw [← List.flatMap_def, List.flatMap_singleton']
  · intro part member
    obtain ⟨c, inside, rfl⟩ := List.mem_map.mp member
    exact ⟨c, all c inside, rfl⟩

theorem mem_nonzeroDigit {c : Char} (isDigit : c.isDigit = true) (nonzero : c ≠ '0') :
    [c] ∈ nonzeroDigit :=
  ⟨c, by simp [isDigit, nonzero], rfl⟩

theorem mem_numeral (nonempty : digits ≠ []) (all : ∀ c ∈ digits, c.isDigit = true)
    (first : digits.head? ≠ some '0') : digits ∈ numeral := by
  obtain ⟨c, rest, rfl⟩ := List.exists_cons_of_ne_nil nonempty
  obtain ⟨isDigit, others⟩ := List.forall_mem_cons.mp all
  have nonzero : c ≠ '0' := by simpa using first
  exact Language.append_mem_mul (mem_nonzeroDigit isDigit nonzero) (mem_star_oneOf others)

theorem mem_fraction (nonempty : digits ≠ []) (all : ∀ c ∈ digits, c.isDigit = true)
    (last : digits.getLast? ≠ some '0') : '.' :: digits ∈ fraction := by
  obtain ⟨front, c, rfl⟩ := (List.eq_nil_or_concat' digits).resolve_left nonempty
  obtain ⟨others, ends⟩ := List.forall_mem_append.mp all
  have isDigit : c.isDigit = true := ends c (List.mem_singleton_self c)
  have nonzero : c ≠ '0' := by simpa using last
  have row := Language.append_mem_mul (mem_star_oneOf others) (mem_nonzeroDigit isDigit nonzero)
  have point : ['.'] ∈ ({['.']} : Language Char) := rfl
  exact Language.append_mem_mul point row

theorem mem_optional {part : Language Char} {text : List Char} (member : text = [] ∨ text ∈ part) :
    text ∈ optional part :=
  member

theorem signText_mem_optional (negative : Bool) : signText negative ∈ optional {['-']} := by
  cases negative with
  | true => exact mem_optional (.inr rfl)
  | false => exact mem_optional (.inl rfl)

end Form

section Digits

variable {n : Nat}

/-- Only a positive number starts with a digit that is not zero. -/
theorem head?_digitsOf_ne (positive : 0 < n) : (digitsOf n).head? ≠ some '0' := by
  intro zero
  have none := eq_zero_of_head?_digitsOf zero
  omega

theorem getLast?_digitsOf (n : Nat) : (digitsOf n).getLast? = some (Nat.digitChar (n % 10)) := by
  rw [digitsOf, Nat.toDigits_eq_if (by decide)]
  split
  · rename_i small
    rw [Nat.mod_eq_of_lt small]
    rfl
  · exact List.getLast?_concat

/-- A number ends with a zero only if it is a multiple of ten. -/
theorem getLast?_digitsOf_ne (reduced : n % 10 ≠ 0) : (digitsOf n).getLast? ≠ some '0' := by
  rw [getLast?_digitsOf]
  have digit : ∀ n < 10, n ≠ 0 → some (Nat.digitChar n) ≠ some '0' := by decide
  exact digit (n % 10) (Nat.mod_lt n (by decide)) reduced

theorem digitsOf_mem_numeral (positive : 0 < n) : digitsOf n ∈ Form.numeral :=
  Form.mem_numeral (digitsOf_ne_nil n) (fun _ => isDigit_of_mem_digitsOf)
    (head?_digitsOf_ne positive)

/-- The digits of an integer have the positional form. -/
theorem integerDigits_mem_positional (value : Int) : integerDigits value ∈ Form.positional := by
  rw [integerDigits_eq]
  apply Language.append_mem_mul (Form.signText_mem_optional _)
  rw [← List.append_nil (digitsOf value.natAbs)]
  apply Language.append_mem_mul _ (Form.mem_optional (.inl rfl))
  rcases Nat.eq_zero_or_pos value.natAbs with zero | positive
  · exact .inl (by rw [zero]; rfl)
  · exact .inr (digitsOf_mem_numeral positive)

end Digits

section Layout

variable {decimal : Decimal}

theorem digit_of_mem_digits {c : Char} (member : c ∈ decimal.digits) : c.isDigit = true :=
  isDigit_of_mem_digitsOf member

theorem IsReduced.positive (reduced : decimal.IsReduced) : 0 < decimal.significand := by
  by_contra none
  have zero : decimal.significand = 0 := by omega
  exact reduced (by rw [zero])

theorem IsReduced.head?_digits (reduced : decimal.IsReduced) : decimal.digits.head? ≠ some '0' :=
  head?_digitsOf_ne reduced.positive

theorem IsReduced.getLast?_digits (reduced : decimal.IsReduced) :
    decimal.digits.getLast? ≠ some '0' :=
  getLast?_digitsOf_ne reduced

theorem digits_ne_nil (decimal : Decimal) : decimal.digits ≠ [] := digitsOf_ne_nil _

/-- Zeros behind the digits leave the decimal without a point. -/
theorem IsReduced.padded_mem (reduced : decimal.IsReduced) (power : Nat) :
    decimal.digits ++ zeros power ∈ Form.numeral := by
  apply Form.mem_numeral
  · exact List.append_ne_nil_of_left_ne_nil decimal.digits_ne_nil _
  · intro c member
    exact (List.mem_append.mp member).elim digit_of_mem_digits isDigit_of_mem_zeros
  · rw [List.head?_append_of_ne_nil _ decimal.digits_ne_nil]
    exact reduced.head?_digits

/-- The digits behind a point among them end as all of them do. -/
theorem IsReduced.drop_mem (reduced : decimal.IsReduced) {place : Nat}
    (inner : place < decimal.digits.length) : '.' :: decimal.digits.drop place ∈ Form.fraction := by
  apply Form.mem_fraction
  · simpa using inner
  · intro c member
    exact digit_of_mem_digits (List.mem_of_mem_drop member)
  · rw [List.getLast?_drop, if_neg (Nat.not_le.mpr inner)]
    exact reduced.getLast?_digits

/-- The digits in front of a point among them start as all of them do. -/
theorem IsReduced.take_mem (reduced : decimal.IsReduced) {place : Nat} (some : 0 < place) :
    decimal.digits.take place ∈ Form.numeral := by
  apply Form.mem_numeral
  · simp [decimal.digits_ne_nil, Nat.ne_of_gt some]
  · intro c member
    exact digit_of_mem_digits (List.mem_of_mem_take member)
  · rw [List.head?_take, if_neg (Nat.ne_of_gt some)]
    exact reduced.head?_digits

/-- Zeros between the point and the digits leave their end as it is. -/
theorem IsReduced.shifted_mem (reduced : decimal.IsReduced) (count : Nat) :
    '.' :: (zeros count ++ decimal.digits) ∈ Form.fraction := by
  apply Form.mem_fraction
  · exact List.append_ne_nil_of_right_ne_nil _ decimal.digits_ne_nil
  · intro c member
    exact (List.mem_append.mp member).elim isDigit_of_mem_zeros digit_of_mem_digits
  · rw [List.getLast?_append_of_ne_nil _ decimal.digits_ne_nil]
    exact reduced.getLast?_digits

/-- The positional digits of a decimal that does not end in a zero have the positional form. -/
theorem IsReduced.positional_mem (reduced : decimal.IsReduced) (negative : Bool) :
    signText negative ++ decimal.positional ∈ Form.positional := by
  apply Language.append_mem_mul (Form.signText_mem_optional negative)
  unfold positional
  dsimp only
  split
  · rename_i power _
    rw [← List.append_nil (decimal.digits ++ zeros power)]
    exact Language.append_mem_mul (.inr (reduced.padded_mem power)) (Form.mem_optional (.inl rfl))
  · rename_i power _
    split
    · apply Language.append_mem_mul
      · exact .inr (reduced.take_mem (by omega))
      · exact Form.mem_optional (.inr (reduced.drop_mem (by omega)))
    · have zero : ['0'] ∈ ({['0']} : Language Char) := rfl
      have shifted := reduced.shifted_mem (power + 1 - decimal.digits.length)
      change ['0'] ++ '.' :: (zeros (power + 1 - decimal.digits.length) ++ decimal.digits) ∈ _
      exact Language.append_mem_mul (.inl zero) (Form.mem_optional (.inr shifted))

/-- The first digit with the others behind a point. -/
theorem IsReduced.mantissa_mem (reduced : decimal.IsReduced) :
    mantissa decimal.digits ∈ Form.nonzeroDigit * Form.optional Form.fraction := by
  obtain ⟨first, rest, split⟩ := List.exists_cons_of_ne_nil decimal.digits_ne_nil
  have isDigit : first.isDigit = true := by
    have member : first ∈ decimal.digits := by simp [split]
    exact digit_of_mem_digits member
  have nonzero : first ≠ '0' := by
    have head := reduced.head?_digits
    rw [split] at head
    simpa using head
  have start := Form.mem_nonzeroDigit isDigit nonzero
  cases rest with
  | nil =>
      rw [split]
      exact Language.append_mem_mul start (Form.mem_optional (.inl rfl))
  | cons second others =>
      have inner : 1 < decimal.digits.length := by
        rw [split]
        simp
      have tail := reduced.drop_mem inner
      rw [split] at tail ⊢
      exact Language.append_mem_mul start (Form.mem_optional (.inr tail))

/-- The mark of an exponent outside the range of the positional digits. -/
theorem exponent_mem {exponent : Int} (outside : exponent < -6 ∨ 20 < exponent) :
    'e' :: (if true && 0 ≤ exponent then ['+'] else []) ++ integerDigits exponent ∈
      ({['e', '+']} * Form.numeralFrom 21 + {['e', '-']} * Form.numeralFrom 7 : Language Char) := by
  have plus : ['e', '+'] ∈ ({['e', '+']} : Language Char) := rfl
  have minus : ['e', '-'] ∈ ({['e', '-']} : Language Char) := rfl
  have digits : digitsOf exponent.natAbs ∈ Form.numeral := digitsOf_mem_numeral (by omega)
  rw [integerDigits_eq]
  rcases outside with below | above
  · have bound : 7 ≤ valueOf (digitsOf exponent.natAbs) := by
      rw [valueOf_digitsOf]
      omega
    have negative : ¬0 ≤ exponent := by omega
    simp only [negative, show exponent < 0 by omega, decide_true, decide_false, Bool.and_false,
      Bool.false_eq_true, if_false]
    change ['e', '-'] ++ digitsOf exponent.natAbs ∈ _
    exact .inr (Language.append_mem_mul minus ⟨digits, bound⟩)
  · have bound : 21 ≤ valueOf (digitsOf exponent.natAbs) := by
      rw [valueOf_digitsOf]
      omega
    have positive : 0 ≤ exponent := by omega
    simp only [positive, show ¬exponent < 0 by omega, decide_true, decide_false, Bool.and_self,
      if_true]
    exact .inl (Language.append_mem_mul plus ⟨digits, bound⟩)

/-- A decimal that does not end in a zero has the exponent form if its first digit stands outside
the range of the positional digits. -/
theorem IsReduced.scientific_mem (reduced : decimal.IsReduced) (negative : Bool)
    (outside : decimal.leadingExponent < -6 ∨ 20 < decimal.leadingExponent) :
    signText negative ++ decimal.scientific true ∈ Form.scientific := by
  apply Language.append_mem_mul (Form.signText_mem_optional negative)
  rw [scientific, List.append_assoc]
  exact Language.append_mem_mul reduced.mantissa_mem (exponent_mem outside)

end Layout

section Significant

/-- The digits of a number's text in front of the mark of its exponent, without the zeros at both
ends, which only place the point. -/
def significantDigits (text : List Char) : List Char :=
  ((((text.takeWhile (· != 'e')).filter Char.isDigit).dropWhile (· == '0')).reverse.dropWhile
    (· == '0')).reverse

variable {decimal : Decimal}

theorem filter_signText (negative : Bool) : (signText negative).filter Char.isDigit = [] := by
  cases negative <;> rfl

theorem filter_zeros (count : Nat) : (zeros count).filter Char.isDigit = zeros count :=
  List.filter_eq_self.mpr fun _ => isDigit_of_mem_zeros

theorem dropWhile_zeros_append {count : Nat} {row : List Char} (first : row.head? ≠ some '0') :
    (zeros count ++ row).dropWhile (· == '0') = row := by
  apply dropWhile_append_of_head?
  · intro c member
    rw [List.eq_of_mem_replicate member]
    rfl
  · intro c member
    have other : c ≠ '0' := by
      rintro rfl
      exact first member
    simpa using other

/-- Zeros around the digits of a decimal that does not end in a zero do not count. -/
theorem IsReduced.significantDigits_eq (reduced : decimal.IsReduced) {front rest : List Char}
    {before behind : Nat} (unmarked : ∀ c ∈ front, c ≠ 'e') (ends : ∀ c ∈ rest.head?, c = 'e')
    (shown : front.filter Char.isDigit = zeros before ++ (decimal.digits ++ zeros behind)) :
    significantDigits (front ++ rest) = decimal.digits := by
  have taken : (front ++ rest).takeWhile (· != 'e') = front := by
    apply takeWhile_append_of_head?
    · intro c member
      simpa using unmarked c member
    · intro c member
      simpa using ends c member
  have first : (decimal.digits ++ zeros behind).head? ≠ some '0' := by
    rw [List.head?_append_of_ne_nil _ decimal.digits_ne_nil]
    exact reduced.head?_digits
  have last : decimal.digits.reverse.head? ≠ some '0' := by
    rw [List.head?_reverse]
    exact reduced.getLast?_digits
  have turned : (decimal.digits ++ zeros behind).reverse =
      zeros behind ++ decimal.digits.reverse := by
    rw [List.reverse_append, zeros, List.reverse_replicate]
  rw [significantDigits, taken, shown, dropWhile_zeros_append first, turned,
    dropWhile_zeros_append last, List.reverse_reverse]

theorem filter_digits (decimal : Decimal) :
    decimal.digits.filter Char.isDigit = decimal.digits :=
  List.filter_eq_self.mpr fun _ => digit_of_mem_digits

/-- Positional digits show the digits of the decimal between zeros. -/
theorem exists_filter_positional (decimal : Decimal) : ∃ before behind,
    decimal.positional.filter Char.isDigit = zeros before ++ (decimal.digits ++ zeros behind) := by
  unfold positional
  dsimp only
  split
  · rename_i power _
    refine ⟨0, power, ?_⟩
    rw [List.filter_append, filter_digits, filter_zeros]
    rfl
  · rename_i power _
    split
    · refine ⟨0, 0, ?_⟩
      rw [List.filter_append, List.filter_cons_of_neg (by decide), ← List.filter_append,
        List.take_append_drop, filter_digits]
      exact (List.append_nil _).symm
    · refine ⟨power + 1 - decimal.digits.length + 1, 0, ?_⟩
      rw [List.filter_append, List.filter_cons_of_pos (by decide),
        List.filter_cons_of_neg (by decide), filter_zeros, filter_digits]
      simp [zeros, List.replicate_succ]

/-- The first digit and the others behind a point show all digits. -/
theorem filter_mantissa {row : List Char} (all : ∀ c ∈ row, c.isDigit = true) :
    (mantissa row).filter Char.isDigit = row := by
  have own : row.filter Char.isDigit = row := List.filter_eq_self.mpr all
  rcases row with _ | ⟨first, _ | ⟨second, rest⟩⟩
  · rfl
  · exact own
  · rw [mantissa, List.filter_cons, List.filter_cons_of_neg (by decide), ← List.filter_cons]
    · exact own
    · exact List.cons_ne_nil second rest

theorem digits_ne_mark (decimal : Decimal) : ∀ c ∈ decimal.digits, c ≠ 'e' :=
  fun _ member => ne_of_isDigit (digit_of_mem_digits member) rfl

theorem zeros_ne_mark (count : Nat) : ∀ c ∈ zeros count, c ≠ 'e' :=
  fun _ member => ne_of_isDigit (isDigit_of_mem_zeros member) rfl

theorem signText_ne_mark (negative : Bool) : ∀ c ∈ signText negative, c ≠ 'e' := by
  cases negative with
  | true => exact List.forall_mem_singleton.mpr (by decide)
  | false => exact nofun

theorem positional_ne_mark (decimal : Decimal) : ∀ c ∈ decimal.positional, c ≠ 'e' := by
  have digits := decimal.digits_ne_mark
  unfold positional
  dsimp only
  split
  · exact List.forall_mem_append.mpr ⟨digits, zeros_ne_mark _⟩
  · split
    · have point : '.' ≠ 'e' := by decide
      exact List.forall_mem_append.mpr ⟨fun c member => digits c (List.mem_of_mem_take member),
        List.forall_mem_cons.mpr ⟨point, fun c member => digits c (List.mem_of_mem_drop member)⟩⟩
    · refine List.forall_mem_append.mpr ⟨List.forall_mem_cons.mpr ⟨by decide, ?_⟩, digits⟩
      exact List.forall_mem_cons.mpr ⟨by decide, zeros_ne_mark _⟩

theorem mantissa_ne_mark {row : List Char} (all : ∀ c ∈ row, c ≠ 'e') :
    ∀ c ∈ mantissa row, c ≠ 'e' := by
  rcases row with _ | ⟨first, _ | ⟨second, rest⟩⟩
  · exact all
  · exact all
  · obtain ⟨start, others⟩ := List.forall_mem_cons.mp all
    exact List.forall_mem_cons.mpr ⟨start, List.forall_mem_cons.mpr ⟨by decide, others⟩⟩

/-- The significant digits of a text in positional digits are those of the decimal. -/
theorem IsReduced.significantDigits_positional (reduced : decimal.IsReduced) (negative : Bool) :
    significantDigits (signText negative ++ decimal.positional) = decimal.digits := by
  obtain ⟨before, behind, shown⟩ := exists_filter_positional decimal
  have unmarked : ∀ c ∈ signText negative ++ decimal.positional, c ≠ 'e' :=
    List.forall_mem_append.mpr ⟨signText_ne_mark negative, decimal.positional_ne_mark⟩
  have whole : (signText negative ++ decimal.positional).filter Char.isDigit =
      zeros before ++ (decimal.digits ++ zeros behind) := by
    rw [List.filter_append, filter_signText, List.nil_append, shown]
  rw [← List.append_nil (signText negative ++ decimal.positional)]
  exact reduced.significantDigits_eq unmarked nofun whole

/-- The significant digits of a text with an exponent are those of the decimal. -/
theorem IsReduced.significantDigits_scientific (reduced : decimal.IsReduced) (negative : Bool) :
    significantDigits (signText negative ++ decimal.scientific true) = decimal.digits := by
  have unmarked : ∀ c ∈ signText negative ++ mantissa decimal.digits, c ≠ 'e' :=
    List.forall_mem_append.mpr ⟨signText_ne_mark negative, mantissa_ne_mark decimal.digits_ne_mark⟩
  have whole : (signText negative ++ mantissa decimal.digits).filter Char.isDigit =
      zeros 0 ++ (decimal.digits ++ zeros 0) := by
    rw [List.filter_append, filter_signText, filter_mantissa fun _ => digit_of_mem_digits]
    simp [zeros]
  rw [scientific, List.append_assoc, ← List.append_assoc]
  apply reduced.significantDigits_eq unmarked _ whole
  intro c member
  exact (Option.mem_some_iff.mp member).symm

end Significant

end FilterQuery.Decimal
