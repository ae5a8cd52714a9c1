import FilterQuery.Json.Numeral
import FilterQuery.Proofs.Binary.Error
import FilterQuery.Proofs.Decimal.Value

namespace FilterQuery

open Decimal Binary.Format

/-- A row of digits denotes its first digit, shifted, and the others. -/
theorem Decimal.valueOf_cons (digit : Char) (rest : List Char) :
    valueOf (digit :: rest) = 10 ^ rest.length * (digit.toNat - '0'.toNat) + valueOf rest := by
  have first : valueOf [digit] = digit.toNat - '0'.toNat := by
    simp [valueOf, Nat.ofDigitChars_cons]
  rw [← List.singleton_append, valueOf_append, first]

/-- A row of digits denotes less than the power of ten with as many zeros. -/
theorem Decimal.valueOf_lt {digits : List Char} (all : ∀ c ∈ digits, c.isDigit = true) :
    valueOf digits < 10 ^ digits.length := by
  induction digits with
  | nil => decide
  | cons digit rest ih =>
      have small : digit.toNat - '0'.toNat ≤ 9 := by
        have range : digit.toNat ≤ 57 := (Char.isDigit_iff_toNat.mp (all digit (by simp))).2
        change digit.toNat - 48 ≤ 9
        omega
      calc valueOf (digit :: rest)
        _ = 10 ^ rest.length * (digit.toNat - '0'.toNat) + valueOf rest := valueOf_cons digit rest
        _ < 10 ^ rest.length * 9 + 10 ^ rest.length :=
          Nat.add_lt_add_of_le_of_lt (Nat.mul_le_mul_left _ small)
            (ih fun c member => all c (by simp [member]))
        _ = 10 ^ (digit :: rest).length := by rw [List.length_cons, pow_succ]; ring

/-- What is kept of a significand and the digits behind it: a significand with the first digits, and
the count of the others. The digits that are not kept exceed 64 bits. -/
structure Json.Numeral.Kept (significand : Nat) (digits : List Char) (kept unread : Nat) :
    Prop where
  fits : kept < 2 ^ 64
  whole : 10 ^ digits.length * significand ≤ kept * 10 ^ unread
  below : kept * 10 ^ unread ≤ 10 ^ digits.length * significand + valueOf digits
  above : 10 ^ digits.length * significand + valueOf digits < (kept + 1) * 10 ^ unread
  full : ∀ more, unread = more + 1 →
    2 ^ 64 * 10 ^ more ≤ 10 ^ digits.length * significand + valueOf digits

namespace Json.Numeral

/-- Digits are kept as long as they fit. -/
theorem kept_accumulate {significand : Nat} {digits : List Char}
    (all : ∀ c ∈ digits, c.isDigit = true) (fits : significand < 2 ^ 64) :
    Kept significand digits (accumulate significand digits).1
      (accumulate significand digits).2 := by
  induction digits generalizing significand with
  | nil =>
      have total : 10 ^ 0 * significand + valueOf [] = significand * 10 ^ 0 := by simp [valueOf]
      refine ⟨fits, by simp [accumulate], total.ge, by simp [accumulate, valueOf], ?_⟩
      intro more same
      cases same
  | cons digit rest ih =>
      let next := 10 * significand + (digit.toNat - '0'.toNat)
      have total : 10 ^ (digit :: rest).length * significand + valueOf (digit :: rest) =
          10 ^ rest.length * next + valueOf rest := by
        rw [valueOf_cons, List.length_cons, pow_succ]
        ring
      have shifted : 10 ^ (digit :: rest).length * significand ≤ 10 ^ rest.length * next := by
        rw [List.length_cons, pow_succ, mul_assoc]
        exact Nat.mul_le_mul_left _ (Nat.le_add_right _ _)
      rw [accumulate]
      split
      · rename_i small
        obtain ⟨fits, whole, below, above, full⟩ :=
          ih (fun c member => all c (by simp [member])) small
        exact ⟨fits, shifted.trans whole, total ▸ below, total ▸ above, total ▸ full⟩
      · rename_i large
        have less := valueOf_lt all
        refine ⟨fits, ?_, ?_, ?_, ?_⟩
        · rw [List.length_cons, mul_comm]
        · rw [List.length_cons, mul_comm]
          exact Nat.le_add_right _ _
        · rw [List.length_cons] at less ⊢
          linarith
        · intro more same
          obtain rfl : rest.length = more := Nat.succ.inj same
          rw [total, mul_comm]
          exact (Nat.mul_le_mul_left _ (Nat.le_of_not_lt large)).trans (Nat.le_add_right _ _)

variable {significand kept unread : Nat} {digits : List Char}

/-- If digits are left out, the significand has the full precision of a double. -/
theorem Kept.fullSignificand_le (found : Kept significand digits kept unread)
    (some : unread ≠ 0) : double.fullSignificand ≤ kept := by
  obtain ⟨more, rfl⟩ := Nat.exists_eq_succ_of_ne_zero some
  have room : 2 ^ 64 < (kept + 1) * 10 := by
    refine Nat.lt_of_mul_lt_mul_right (a := 10 ^ more) ((found.full more rfl).trans_lt ?_)
    rw [mul_assoc, ← pow_succ']
    exact found.above
  change 2 ^ 52 ≤ kept
  omega

/-- If no digits are left out, what is kept is the number itself. -/
theorem Kept.eq (found : Kept significand digits kept 0) :
    kept = 10 ^ digits.length * significand + valueOf digits := by
  obtain ⟨-, -, below, above, -⟩ := found
  omega

/-- All digits are kept of a number that 64 bits hold. -/
theorem accumulate_of_lt (all : ∀ c ∈ digits, c.isDigit = true)
    (small : 10 ^ digits.length * significand + valueOf digits < 2 ^ 64) :
    accumulate significand digits = (10 ^ digits.length * significand + valueOf digits, 0) := by
  have fits : significand < 2 ^ 64 := by
    have grown := Nat.le_mul_of_pos_left significand (Nat.pow_pos (n := digits.length)
      (show 0 < 10 by decide))
    omega
  have found := kept_accumulate all fits
  have none : (accumulate significand digits).2 = 0 := by
    by_contra some
    obtain ⟨more, split⟩ := Nat.exists_eq_succ_of_ne_zero some
    have large := (Nat.le_mul_of_pos_right (2 ^ 64) (Nat.pow_pos (n := more)
      (show 0 < 10 by decide))).trans (found.full more split)
    omega
  rw [none] at found
  exact Prod.ext found.eq none

section Point

variable {whole fraction : List Char} {leading surplus : Nat}

/-- If all digits before a point are kept, those left out stand at the end. -/
theorem near_kept_complete (first : Kept 0 whole leading 0)
    (second : Kept leading fraction kept unread) :
    double.Near 1 0 (valueOf (whole ++ fraction)) (kept * 10 ^ unread : Nat) := by
  obtain rfl : leading = valueOf whole := by
    rw [first.eq, Nat.mul_zero, Nat.zero_add]
  rw [valueOf_append]
  rcases Nat.eq_zero_or_pos unread with rfl | more
  · rw [pow_zero, mul_one, second.eq]
    exact (Near.refl _ _).mono (Nat.zero_le 1) le_rfl (Nat.cast_nonneg _) (Nat.cast_nonneg _)
  · exact .of_between _ (second.fullSignificand_le more.ne') ⟨second.below, second.above.le⟩
      ⟨le_rfl, Nat.mul_le_mul_right _ (Nat.le_succ kept)⟩

/-- If digits before a point are left out, digits behind it may still be kept, but they only refine
the unit of the last digit kept before it. -/
theorem near_kept_surplus (fractionDigits : ∀ c ∈ fraction, c.isDigit = true)
    (first : Kept 0 whole leading surplus) (some : surplus ≠ 0)
    (second : Kept leading fraction kept unread) :
    double.Near 1 0 (valueOf (whole ++ fraction)) (kept * 10 ^ (surplus + unread) : Nat) := by
  have less := valueOf_lt fractionDigits
  have wholeBelow := first.below
  have wholeAbove := first.above
  rw [Nat.mul_zero, Nat.zero_add] at wholeBelow wholeAbove
  have unit (number : Nat) : number * (10 ^ surplus * 10 ^ fraction.length) =
      10 ^ fraction.length * (number * 10 ^ surplus) := by ring
  have shifted (number : Nat) : number * (10 ^ surplus * 10 ^ fraction.length) =
      10 ^ surplus * (10 ^ fraction.length * number) := by ring
  have found : kept * 10 ^ (surplus + unread) = 10 ^ surplus * (kept * 10 ^ unread) := by
    rw [pow_add]
    ring
  rw [valueOf_append, found]
  refine .of_between (10 ^ surplus * 10 ^ fraction.length) (first.fullSignificand_le some)
    ⟨?_, ?_⟩ ⟨?_, ?_⟩
  · rw [unit]
    exact (Nat.mul_le_mul_left _ wholeBelow).trans (Nat.le_add_right _ _)
  · calc 10 ^ fraction.length * valueOf whole + valueOf fraction
      _ ≤ 10 ^ fraction.length * (valueOf whole + 1) := by rw [mul_add_one]; omega
      _ ≤ 10 ^ fraction.length * ((leading + 1) * 10 ^ surplus) :=
        Nat.mul_le_mul_left _ wholeAbove
      _ = (leading + 1) * (10 ^ surplus * 10 ^ fraction.length) := (unit _).symm
  · rw [shifted]
    exact Nat.mul_le_mul_left _ second.whole
  · calc 10 ^ surplus * (kept * 10 ^ unread)
      _ ≤ 10 ^ surplus * (10 ^ fraction.length * leading + valueOf fraction) :=
        Nat.mul_le_mul_left _ second.below
      _ ≤ 10 ^ surplus * (10 ^ fraction.length * (leading + 1)) :=
        Nat.mul_le_mul_left _ (by rw [mul_add_one]; omega)
      _ = (leading + 1) * (10 ^ surplus * 10 ^ fraction.length) := (shifted _).symm

/-- What is kept of the digits around a point is near to what they denote together. -/
theorem near_kept (fractionDigits : ∀ c ∈ fraction, c.isDigit = true)
    (first : Kept 0 whole leading surplus) (second : Kept leading fraction kept unread) :
    double.Near 1 0 (valueOf (whole ++ fraction)) (kept * 10 ^ (surplus + unread) : Nat) := by
  rcases eq_or_ne surplus 0 with rfl | some
  · rw [Nat.zero_add]
    exact near_kept_complete first second
  · exact near_kept_surplus fractionDigits first some second

end Point

end Json.Numeral

end FilterQuery
