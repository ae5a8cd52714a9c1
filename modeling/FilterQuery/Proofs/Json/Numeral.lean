import FilterQuery.Json.Decoding
import FilterQuery.Proofs.Number.Whole
import Mathlib.Data.List.TakeWhile

namespace FilterQuery

/-- The whole digits start with a zero only if the zero stands alone. -/
def Decimal.Spelling.IsStrict (spelling : Decimal.Spelling) : Prop :=
  spelling.whole.head? = some '0' → spelling.whole = ['0']

instance (spelling : Decimal.Spelling) : Decidable spelling.IsStrict :=
  inferInstanceAs (Decidable (_ → _))

namespace Json

open Decimal

namespace Numeral

def ofSpelling (negative : Bool) (spelling : Spelling) : Numeral :=
  ⟨negative, spelling.whole, spelling.fraction,
    if spelling.mark = [] then none else some spelling.exponent⟩

variable {spelling : Spelling}

/-- The text does not go on with a part of a numeral. -/
def EndsNumeral (rest : List Char) : Prop :=
  ∀ c ∈ rest.head?, c.isDigit = false ∧ c ≠ '.' ∧ c ≠ 'e' ∧ c ≠ 'E'

theorem endsNumeral_nil : EndsNumeral [] := nofun

/-- The digits behind the point end with the mark of the exponent or with the numeral. -/
theorem isDigit_mark_append (spelling : Spelling) {rest : List Char} (ends : EndsNumeral rest) :
    ∀ c ∈ (spelling.mark ++ rest).head?, c.isDigit = false := by
  have marks := spelling.isDigit_mark
  cases mark : spelling.mark with
  | nil => exact fun c member => (ends c member).1
  | cons letter row => exact fun c member => marks c (by simpa [mark] using member)

/-- The whole digits end with the point, with the mark of the exponent or with the numeral. -/
theorem isDigit_point_append (spelling : Spelling) {rest : List Char} (ends : EndsNumeral rest) :
    ∀ c ∈ (Spelling.point spelling.fraction ++ (spelling.mark ++ rest)).head?,
      c.isDigit = false := by
  intro c member
  by_cases empty : spelling.fraction = []
  · rw [Spelling.point, if_pos empty, List.nil_append] at member
    exact isDigit_mark_append spelling ends c member
  · rw [Spelling.point, if_neg empty, List.cons_append, List.head?_cons,
      Option.mem_some_iff] at member
    exact member ▸ rfl

/-- The whole digits are taken up to the point, to the exponent or to the end. -/
theorem takeWhole?_text (strict : spelling.IsStrict) {rest : List Char} (ends : EndsNumeral rest) :
    takeWhole? (spelling.text ++ rest) =
      some (spelling.whole, Spelling.point spelling.fraction ++ (spelling.mark ++ rest)) := by
  have tail := isDigit_point_append spelling ends
  have whole := takeWhile_append_of_head? spelling.wholeDigits tail
  have behind := dropWhile_append_of_head? spelling.wholeDigits tail
  rw [takeWhole?, Spelling.text, List.append_assoc, List.append_assoc, whole, behind]
  split
  · rename_i empty
    exact absurd empty spelling.nonempty
  · rename_i padded
    have alone := strict (by simp [padded])
    simp [padded] at alone
  · rfl

/-- The digits behind the point are taken. -/
theorem takeFraction?_point (spelling : Spelling) {rest : List Char} (ends : EndsNumeral rest) :
    takeFraction? (Spelling.point spelling.fraction ++ (spelling.mark ++ rest)) =
      some (spelling.fraction, spelling.mark ++ rest) := by
  have tail := isDigit_mark_append spelling ends
  by_cases empty : spelling.fraction = []
  · have pointless : '.' ∉ (spelling.mark ++ rest).head? := by
      have marks := mark_of_readExponent? spelling.marked
      cases mark : spelling.mark with
      | nil => exact fun member => (ends '.' member).2.1 rfl
      | cons letter row =>
          intro member
          rcases marks '.' (by simpa [mark] using member) with equal | equal <;> cases equal
    rw [Spelling.point, if_pos empty, List.nil_append, empty]
    unfold takeFraction?
    split
    · rename_i more pointed
      exact absurd (by simp [pointed]) pointless
    · rfl
  · have present : spelling.fraction.isEmpty = false := by simpa using empty
    rw [Spelling.point, if_neg empty, List.cons_append, takeFraction?]
    simp only [takeWhile_append_of_head? spelling.fractionDigits tail,
      dropWhile_append_of_head? spelling.fractionDigits tail, present, Bool.false_eq_true, if_false]

/-- The sign in front of digits is taken, whatever stands behind them. -/
theorem takeSign_append {row : List Char} (nonempty : (takeSign row).2 ≠ []) (rest : List Char) :
    takeSign (row ++ rest) = ((takeSign row).1, (takeSign row).2 ++ rest) := by
  cases row with
  | nil => exact absurd rfl nonempty
  | cons c row =>
      by_cases minus : c = '-'
      · rw [minus]
        rfl
      · by_cases plus : c = '+'
        · rw [plus]
          rfl
        · simp [takeSign, minus, plus]

/-- The exponent is taken. -/
theorem takeExponent?_mark (spelling : Spelling) {rest : List Char} (ends : EndsNumeral rest) :
    takeExponent? (spelling.mark ++ rest) =
      some (if spelling.mark = [] then none else some spelling.exponent, rest) := by
  have marked := spelling.marked
  cases mark : spelling.mark with
  | nil =>
      cases rest with
      | nil => rfl
      | cons c more =>
          obtain ⟨-, -, lower, upper⟩ := ends c rfl
          simp [takeExponent?, lower, upper]
  | cons letter row =>
      rw [mark] at marked
      obtain ⟨letters, found⟩ := of_readExponent?_cons marked
      have marks : (letter == 'e' || letter == 'E') = true := by simpa using letters
      have numeral := isNumeral_of_readInteger? found
      simp only [readInteger?, numeral, if_true, Option.some.injEq] at found
      simp only [isNumeral, Bool.and_eq_true, Bool.not_eq_true', List.all_eq_true] at numeral
      have nonempty : (takeSign row).2 ≠ [] := by simpa using numeral.1
      have tail : ∀ c ∈ rest.head?, c.isDigit = false := fun c member => (ends c member).1
      have all := takeWhile_append_of_head? numeral.2 tail
      have behind := dropWhile_append_of_head? numeral.2 tail
      simp [takeExponent?, marks, takeSign_append nonempty, all, behind, numeral.1, found]

/-- A literal starts with a minus or with a digit. -/
theorem exists_literal (negative : Bool) (spelling : Spelling) :
    ∃ c rest, signText negative ++ spelling.text = c :: rest ∧ (c = '-' ∨ c.isDigit = true) := by
  cases negative with
  | true => exact ⟨'-', spelling.text, rfl, .inl rfl⟩
  | false =>
      obtain ⟨c, rest, split⟩ := List.exists_cons_of_ne_nil spelling.text_ne_nil
      exact ⟨c, rest, split, .inr (spelling.isDigit_of_mem_head? c (by simp [split]))⟩

/-- A literal is taken as its numeral. -/
theorem take?_literal (negative : Bool) (strict : spelling.IsStrict) {rest : List Char}
    (ends : EndsNumeral rest) :
    take? (signText negative ++ spelling.text ++ rest) =
      some (ofSpelling negative spelling, rest) := by
  have whole := takeWhole?_text strict ends
  have fraction := takeFraction?_point spelling ends
  have exponent := takeExponent?_mark spelling ends
  have unsigned : ∀ more, spelling.text ++ rest ≠ '-' :: more := by
    intro more same
    obtain ⟨c, row, split⟩ := List.exists_cons_of_ne_nil spelling.text_ne_nil
    have digit := spelling.isDigit_of_mem_head? c (by simp [split])
    rw [split] at same
    exact ne_of_isDigit digit rfl (List.cons.inj same).1
  cases negative with
  | true =>
      change take? ('-' :: (spelling.text ++ rest)) = _
      simp only [take?, Option.bind_eq_bind, Option.bind_some, whole, fraction, exponent,
        ofSpelling]
  | false =>
      change take? (spelling.text ++ rest) = _
      simp only [take?, Option.bind_eq_bind, Option.bind_some, whole, fraction, exponent,
        ofSpelling]

end Numeral

namespace Tree

/-- A literal is taken as its numeral. -/
theorem take_literal (negative : Bool) {spelling : Spelling} (strict : spelling.IsStrict)
    {rest : List Char} (ends : Numeral.EndsNumeral rest) (fuel : Nat) :
    take (fuel + 1) (signText negative ++ spelling.text ++ rest) =
      (.number (.ofSpelling negative spelling), rest) := by
  have taken := Numeral.take?_literal negative strict ends
  obtain ⟨c, row, split, starts⟩ := Numeral.exists_literal negative spelling
  have other {d : Char} (hyphen : d ≠ '-') (letter : d.isDigit = false) : c ≠ d := by
    rcases starts with rfl | digit
    · exact Ne.symm hyphen
    · exact ne_of_isDigit digit letter
  have solid : isSpace c = false := by
    simp [isSpace, other]
  rw [split, List.cons_append] at taken ⊢
  have start : skipSpace (c :: (row ++ rest)) = c :: (row ++ rest) := by
    simp [skipSpace, solid]
  rw [take, start]
  split
  all_goals try
    rename_i same
    exact absurd (List.cons.inj same).1 (other (by decide) (by decide))
  rw [taken]

end Tree

/-- A literal is read as its numeral. -/
theorem Tree.read_literal (negative : Bool) {spelling : Spelling} (strict : spelling.IsStrict) :
    Tree.read (signText negative ++ spelling.text) =
      (.number (.ofSpelling negative spelling), true) := by
  have taken (fuel : Nat) := take_literal negative strict Numeral.endsNumeral_nil fuel
  simp only [List.append_nil] at taken
  rw [Tree.read, taken]
  rfl

/-- The value of a numeral is that of its content. -/
theorem Tree.value_number (numeral : Numeral) :
    (Tree.number numeral).value =
      match numeral.content? with
      | some content => judged content.value?
      | none => .error .malformed := by
  rw [value, content?]
  cases numeral.content? <;> rfl

/-- A literal is decoded as the content of its numeral. -/
theorem decodeValue_literal (negative : Bool) {spelling : Spelling} (strict : spelling.IsStrict) :
    decodeValue (signText negative ++ spelling.text) =
      match (Numeral.ofSpelling negative spelling).content? with
      | some content => judged content.value?
      | none => .error .malformed := by
  rw [decodeValue, decode, Tree.read_literal negative strict, ← Tree.value_number]
  dsimp only
  cases (Tree.number (.ofSpelling negative spelling)).value <;> rfl

end Json

end FilterQuery
