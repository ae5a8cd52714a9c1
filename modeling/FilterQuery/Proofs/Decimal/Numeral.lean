import FilterQuery.Proofs.Decimal.Sign
import Mathlib.Data.List.TakeWhile

/-!
The grammar `[+-]?(digits|digits.digits?|.digits)([eE][+-]?digits)?` of decimal numerals, and the
rational number that a numeral denotes. The main statements say that a text is read as a literal
exactly if it is a numeral, and as an integer exactly if it is a numeral of plain digits.
-/

namespace FilterQuery

namespace Decimal

namespace Sign

/-- A sign is taken from a text that starts with no further sign. -/
theorem takeSign_append (sign : Sign) {text : List Char}
    (start : ∀ c ∈ text.head?, c ≠ '+' ∧ c ≠ '-') :
    takeSign (sign.text ++ text) = (sign.isNegative, text) := by
  cases sign with
  | plus => rfl
  | minus => rfl
  | absent =>
      change takeSign text = (false, text)
      unfold takeSign
      split
      · exact absurd rfl (start '-' rfl).2
      · exact absurd rfl (start '+' rfl).1
      · rfl

/-- Every text is the sign taken from it and the rest. -/
theorem exists_text_append (text : List Char) :
    ∃ sign : Sign, sign.text ++ (takeSign text).2 = text ∧ sign.isNegative = (takeSign text).1 := by
  unfold takeSign
  split
  · exact ⟨.minus, rfl, rfl⟩
  · exact ⟨.plus, rfl, rfl⟩
  · exact ⟨.absent, rfl, rfl⟩

/-- A digit is no sign. -/
theorem ne_sign_of_isDigit {c : Char} (digit : c.isDigit = true) : c ≠ '+' ∧ c ≠ '-' :=
  ⟨ne_of_isDigit digit rfl, ne_of_isDigit digit rfl⟩

/-- A sign and a row of digits are read as an integer. -/
theorem readInteger?_digits (sign : Sign) {digits : List Char} (nonempty : digits ≠ [])
    (all : ∀ c ∈ digits, c.isDigit = true) :
    readInteger? (sign.text ++ digits) = some (signed sign.isNegative (valueOf digits)) := by
  have taken : takeSign (sign.text ++ digits) = (sign.isNegative, digits) :=
    sign.takeSign_append fun c member => ne_sign_of_isDigit (all c (List.mem_of_mem_head? member))
  have numeral : isNumeral digits = true := by
    simpa [isNumeral, nonempty] using all
  simp only [readInteger?, taken, numeral, if_true]

/-- Only a sign and a row of digits are read as an integer. -/
theorem exists_of_readInteger? {text : List Char} {n : Int} (found : readInteger? text = some n) :
    ∃ (sign : Sign) (digits : List Char), sign.text ++ digits = text ∧ digits ≠ [] ∧
      (∀ c ∈ digits, c.isDigit = true) ∧ n = signed sign.isNegative (valueOf digits) := by
  obtain ⟨sign, split, negative⟩ := exists_text_append text
  have numeral := isNumeral_of_readInteger? found
  have row := numeral
  simp only [isNumeral, Bool.and_eq_true, Bool.not_eq_true', List.isEmpty_eq_false_iff,
    List.all_eq_true] at row
  simp only [readInteger?, numeral, if_true, Option.some.injEq] at found
  exact ⟨sign, _, split, row.1, row.2, by rw [negative, found]⟩

end Sign

/-- The mark of an exponent: a letter, a sign and a row of digits. -/
structure ExponentMark where
  letter : Char
  sign : Sign
  digits : List Char
  letters : letter = 'e' ∨ letter = 'E'
  nonempty : digits ≠ []
  isDigit : ∀ c ∈ digits, c.isDigit = true

namespace ExponentMark

/-- The text of a mark; it may be left out. -/
def text : Option ExponentMark → List Char
  | none => []
  | some mark => mark.letter :: (mark.sign.text ++ mark.digits)

/-- The exponent that a mark denotes; without a mark it is zero. -/
def exponent : Option ExponentMark → Int
  | none => 0
  | some mark => signed mark.sign.isNegative (valueOf mark.digits)

/-- A mark starts with its letter. -/
theorem letter_of_mem_head? (mark : Option ExponentMark) :
    ∀ c ∈ (text mark).head?, c = 'e' ∨ c = 'E' := by
  cases mark with
  | none => exact nofun
  | some mark =>
      intro c member
      rw [← Option.mem_some_iff.mp member]
      exact mark.letters

theorem isDigit_of_mem_head? (mark : Option ExponentMark) :
    ∀ c ∈ (text mark).head?, c.isDigit = false := by
  intro c member
  rcases letter_of_mem_head? mark c member with rfl | rfl <;> rfl

/-- The exponent of a mark is read. -/
theorem readExponent?_text (mark : Option ExponentMark) :
    readExponent? (text mark) = some (exponent mark) := by
  cases mark with
  | none => rfl
  | some mark =>
      have letters : (mark.letter == 'e' || mark.letter == 'E') = true := by
        simpa using mark.letters
      rw [text, readExponent?, if_pos letters,
        mark.sign.readInteger?_digits mark.nonempty mark.isDigit, exponent]

/-- An exponent is only read from a mark. -/
theorem exists_of_readExponent? {rest : List Char} {n : Int} (found : readExponent? rest = some n) :
    ∃ mark, text mark = rest ∧ exponent mark = n := by
  cases rest with
  | nil => exact ⟨none, rfl, Option.some.inj found⟩
  | cons letter behind =>
      obtain ⟨letters, integer⟩ := of_readExponent?_cons found
      obtain ⟨sign, digits, split, nonempty, isDigit, read⟩ := Sign.exists_of_readInteger? integer
      refine ⟨some ⟨letter, sign, digits, letters, nonempty, isDigit⟩, ?_, read.symm⟩
      rw [text, split]

end ExponentMark

end Decimal

open Decimal

/-- A numeral: a sign, digits, a point with further digits and the mark of an exponent. The point and
the mark may be left out, and so may the digits on one side of the point. -/
structure DecimalNumeral where
  sign : Sign
  whole : List Char
  fraction : Option (List Char)
  mark : Option ExponentMark
  wholeDigits : ∀ c ∈ whole, c.isDigit = true
  fractionDigits : ∀ c ∈ fraction.getD [], c.isDigit = true
  nonempty : whole ≠ [] ∨ fraction.getD [] ≠ []

namespace DecimalNumeral

def point : Option (List Char) → List Char
  | none => []
  | some digits => '.' :: digits

def body (numeral : DecimalNumeral) : List Char :=
  numeral.whole ++ (point numeral.fraction ++ ExponentMark.text numeral.mark)

def text (numeral : DecimalNumeral) : List Char := numeral.sign.text ++ numeral.body

def literal (numeral : DecimalNumeral) : Literal :=
  ⟨numeral.sign.isNegative, numeral.whole, numeral.fraction.getD [], ExponentMark.exponent numeral.mark⟩

def magnitude (numeral : DecimalNumeral) : ℚ :=
  valueOf (numeral.whole ++ numeral.fraction.getD []) *
    10 ^ (ExponentMark.exponent numeral.mark - (numeral.fraction.getD []).length)

/-- The rational number that a numeral denotes exactly. -/
def value (numeral : DecimalNumeral) : ℚ :=
  if numeral.sign.isNegative then -numeral.magnitude else numeral.magnitude

/-- The numeral has neither a point nor an exponent. -/
def IsPlain (numeral : DecimalNumeral) : Prop := numeral.fraction = none ∧ numeral.mark = none

instance (numeral : DecimalNumeral) : Decidable numeral.IsPlain :=
  inferInstanceAs (Decidable (_ ∧ _))

/-- Behind its sign a numeral starts with a digit or with the point. -/
theorem start_body (numeral : DecimalNumeral) :
    ∃ c rest, numeral.body = c :: rest ∧ (c.isDigit = true ∨ c = '.') := by
  cases whole : numeral.whole with
  | cons c rest =>
      have digit := numeral.wholeDigits c (by simp [whole])
      exact ⟨c, _, by rw [body, whole, List.cons_append], .inl digit⟩
  | nil =>
      have behind := numeral.nonempty.resolve_left (not_not.mpr whole)
      cases fraction : numeral.fraction with
      | none => exact absurd (by rw [fraction]; rfl) behind
      | some digits => exact ⟨'.', _, by rw [body, whole, fraction]; rfl, .inr rfl⟩

theorem text_ne_nil (numeral : DecimalNumeral) : numeral.text ≠ [] := by
  obtain ⟨c, rest, split, -⟩ := numeral.start_body
  rw [text, split]
  exact List.append_ne_nil_of_right_ne_nil _ (List.cons_ne_nil c rest)

/-- A numeral holds digits, letters, signs and points only. -/
theorem isTextChar_of_mem_text (numeral : DecimalNumeral) :
    ∀ c ∈ numeral.text, isTextChar c = true := by
  have whole : ∀ c ∈ numeral.whole, isTextChar c = true :=
    fun c member => isTextChar_of_isDigit (numeral.wholeDigits c member)
  have fraction : ∀ c ∈ point numeral.fraction, isTextChar c = true := by
    have digits := numeral.fractionDigits
    cases behind : numeral.fraction with
    | none => exact nofun
    | some row =>
        rw [behind] at digits
        exact List.forall_mem_cons.mpr ⟨rfl, fun c member => isTextChar_of_isDigit (digits c member)⟩
  have mark : ∀ c ∈ ExponentMark.text numeral.mark, isTextChar c = true :=
    forall_mem_of_readExponent? (fun _ => isTextChar_of_isDigit) (by decide)
      (ExponentMark.readExponent?_text numeral.mark)
  have sign : ∀ c ∈ numeral.sign.text, isTextChar c = true := by
    cases numeral.sign with
    | absent => exact nofun
    | plus | minus => exact List.forall_mem_singleton.mpr rfl
  exact List.forall_mem_append.mpr ⟨sign, List.forall_mem_append.mpr ⟨whole,
    List.forall_mem_append.mpr ⟨fraction, mark⟩⟩⟩

theorem takeSign_text (numeral : DecimalNumeral) :
    takeSign numeral.text = (numeral.sign.isNegative, numeral.body) := by
  obtain ⟨c, rest, split, start⟩ := numeral.start_body
  apply numeral.sign.takeSign_append
  intro d member
  rw [split, List.head?_cons, Option.mem_some_iff] at member
  subst member
  rcases start with digit | rfl
  · exact Sign.ne_sign_of_isDigit digit
  · decide

/-- The whole digits end with the point, with the mark of the exponent or with the text. -/
theorem isDigit_behind (fraction : Option (List Char)) (mark : Option ExponentMark) :
    ∀ c ∈ (point fraction ++ ExponentMark.text mark).head?, c.isDigit = false := by
  cases fraction with
  | none => exact ExponentMark.isDigit_of_mem_head? mark
  | some digits =>
      intro c member
      rw [← Option.mem_some_iff.mp member]
      rfl

/-- The digits behind the point are taken. -/
theorem takeFraction_point {fraction : Option (List Char)} (mark : Option ExponentMark)
    (all : ∀ c ∈ fraction.getD [], c.isDigit = true) :
    takeFraction (point fraction ++ ExponentMark.text mark) = (fraction.getD [], ExponentMark.text mark) := by
  have ends := ExponentMark.isDigit_of_mem_head? mark
  cases fraction with
  | some digits =>
      have taken := takeWhile_append_of_head? all ends
      have left := dropWhile_append_of_head? all ends
      exact congrArg₂ Prod.mk taken left
  | none =>
      change takeFraction (ExponentMark.text mark) = ([], ExponentMark.text mark)
      unfold takeFraction
      split
      · rename_i rest pointed
        have letter := ExponentMark.letter_of_mem_head? mark '.' (by rw [pointed]; rfl)
        exact absurd letter (by decide)
      · rfl

/-- Every text is the point and the digits taken from it, and the rest. -/
theorem exists_point_append (text : List Char) : ∃ fraction : Option (List Char),
    point fraction ++ (takeFraction text).2 = text ∧ fraction.getD [] = (takeFraction text).1 ∧
      ∀ c ∈ fraction.getD [], c.isDigit = true := by
  unfold takeFraction
  split
  · rename_i rest
    refine ⟨some (rest.takeWhile Char.isDigit), ?_, rfl, ?_⟩
    · exact congrArg (List.cons '.') (List.takeWhile_append_dropWhile ..)
    · intro c member
      exact List.mem_takeWhile_imp member
  · exact ⟨none, rfl, rfl, nofun⟩

/-- A numeral is read as its literal. -/
theorem read?_text (numeral : DecimalNumeral) :
    Literal.read? numeral.text = some numeral.literal := by
  have ends := isDigit_behind numeral.fraction numeral.mark
  have whole : numeral.body.takeWhile Char.isDigit = numeral.whole :=
    takeWhile_append_of_head? numeral.wholeDigits ends
  have behind : numeral.body.dropWhile Char.isDigit =
      point numeral.fraction ++ ExponentMark.text numeral.mark :=
    dropWhile_append_of_head? numeral.wholeDigits ends
  have some : (numeral.whole.isEmpty && (numeral.fraction.getD []).isEmpty) = false := by
    rw [Bool.and_eq_false_iff]
    simpa using numeral.nonempty
  simp only [Literal.read?, takeSign_text, whole, behind,
    takeFraction_point numeral.mark numeral.fractionDigits, some, Bool.false_eq_true, if_false,
    ExponentMark.readExponent?_text, Option.map_some, literal]

/-- A literal is only read from a numeral. -/
theorem exists_of_read? {text : List Char} {literal : Literal}
    (found : Literal.read? text = some literal) :
    ∃ numeral : DecimalNumeral, numeral.text = text ∧ numeral.literal = literal := by
  obtain ⟨sign, signed, negative⟩ := Sign.exists_text_append text
  obtain ⟨fraction, pointed, digits, all⟩ :=
    exists_point_append ((takeSign text).2.dropWhile Char.isDigit)
  simp only [Literal.read?] at found
  split at found
  · cases found
  · rename_i some
    obtain ⟨exponent, marked, built⟩ := Option.map_eq_some_iff.mp found
    obtain ⟨mark, written, denoted⟩ := ExponentMark.exists_of_readExponent? marked
    refine ⟨⟨sign, (takeSign text).2.takeWhile Char.isDigit, fraction, mark,
      fun c member => List.mem_takeWhile_imp member, all, ?_⟩, ?_, ?_⟩
    · rw [digits]
      simpa [Decidable.imp_iff_not_or] using some
    · change sign.text ++ (_ ++ (point fraction ++ ExponentMark.text mark)) = text
      rw [written, pointed, List.takeWhile_append_dropWhile, signed]
    · rw [← built]
      simp only [DecimalNumeral.literal, negative, digits, denoted]

/-- A text is read as a literal exactly if it is a numeral of this literal. -/
theorem read?_eq_some_iff {text : List Char} {literal : Literal} :
    Literal.read? text = some literal ↔
      ∃ numeral : DecimalNumeral, numeral.text = text ∧ numeral.literal = literal := by
  constructor
  · exact exists_of_read?
  · rintro ⟨numeral, rfl, rfl⟩
    exact numeral.read?_text

/-- A plain numeral is a row of digits behind its sign. -/
theorem body_of_isPlain {numeral : DecimalNumeral} (plain : numeral.IsPlain) :
    numeral.body = numeral.whole := by
  rw [body, plain.1, plain.2]
  exact List.append_nil _

/-- The text of other numerals holds a point or a letter. -/
theorem exists_behind_of_not_isPlain {numeral : DecimalNumeral} (other : ¬numeral.IsPlain) :
    ∃ c rest, point numeral.fraction ++ ExponentMark.text numeral.mark = c :: rest := by
  apply List.exists_cons_of_ne_nil
  intro empty
  obtain ⟨pointless, unmarked⟩ := List.append_eq_nil_iff.mp empty
  apply other
  constructor
  · cases fraction : numeral.fraction with
    | none => rfl
    | some digits => rw [fraction] at pointless; cases pointless
  · cases mark : numeral.mark with
    | none => rfl
    | some written => rw [mark] at unmarked; cases unmarked

/-- A numeral is read as an integer exactly if it is plain. -/
theorem readInteger?_text (numeral : DecimalNumeral) :
    readInteger? numeral.text =
      if numeral.IsPlain then
        some (signed numeral.sign.isNegative (valueOf numeral.whole))
      else none := by
  split
  · rename_i plain
    have nonempty : numeral.whole ≠ [] := by
      have digits := numeral.nonempty
      rw [plain.1] at digits
      exact digits.resolve_right (not_not.mpr rfl)
    rw [text, body_of_isPlain plain,
      numeral.sign.readInteger?_digits nonempty numeral.wholeDigits]
  · rename_i other
    obtain ⟨c, rest, split⟩ := exists_behind_of_not_isPlain other
    have ends : c.isDigit = false :=
      isDigit_behind numeral.fraction numeral.mark c (by rw [split]; rfl)
    have mixed : isNumeral numeral.body = false := by
      simp [isNumeral, body, split, ends]
    simp only [readInteger?, takeSign_text, mixed, Bool.false_eq_true, if_false]

/-- An integer is only read from a plain numeral. -/
theorem exists_of_readInteger? {text : List Char} {n : Int} (found : readInteger? text = some n) :
    ∃ numeral : DecimalNumeral, numeral.text = text := by
  obtain ⟨sign, digits, split, nonempty, all, -⟩ := Sign.exists_of_readInteger? found
  refine ⟨⟨sign, digits, none, none, all, nofun, .inl nonempty⟩, ?_⟩
  rw [← split]
  exact congrArg (sign.text ++ ·) (List.append_nil digits)

end DecimalNumeral

end FilterQuery
