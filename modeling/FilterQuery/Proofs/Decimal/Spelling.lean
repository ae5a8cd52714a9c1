import FilterQuery.Decimal.Layout
import FilterQuery.Decimal.Literal
import FilterQuery.Text.Blank
import Mathlib.Data.List.Basic

namespace FilterQuery.Decimal

theorem isDigit_of_mem_digitsOf {n : Nat} {c : Char} (member : c ∈ digitsOf n) :
    c.isDigit = true :=
  Nat.isDigit_of_mem_toDigits (by decide) (by decide) member

theorem digitsOf_ne_nil (n : Nat) : digitsOf n ≠ [] := Nat.toDigits_ne_nil

/-- Only zero starts with a zero. -/
theorem eq_zero_of_head?_digitsOf {n : Nat} (zero : (digitsOf n).head? = some '0') : n = 0 := by
  induction n using Nat.strongRecOn with
  | ind n ih =>
      rw [digitsOf, Nat.toDigits_eq_if (by decide)] at zero
      by_cases small : n < 10
      · have digit : ∀ n < 10, some (Nat.digitChar n) = some '0' → n = 0 := by decide
        rw [if_pos small, List.head?_cons] at zero
        exact digit n small zero
      · obtain ⟨c, rest, split⟩ := List.exists_cons_of_ne_nil (digitsOf_ne_nil (n / 10))
        rw [if_neg small] at zero
        change (digitsOf (n / 10) ++ _).head? = _ at zero
        rw [split, List.cons_append, List.head?_cons] at zero
        have shorter := ih (n / 10) (by omega) (by rw [split, List.head?_cons, zero])
        omega

theorem isDigit_of_mem_zeros {count : Nat} {c : Char} (member : c ∈ zeros count) :
    c.isDigit = true := by
  rw [List.eq_of_mem_replicate member]
  decide

/-- The sign of a negative number; other numbers have none. -/
def signText (negative : Bool) : List Char := if negative then ['-'] else []

/-- A digit is none of the marks of a literal. -/
theorem ne_of_isDigit {c d : Char} (digit : c.isDigit = true) (other : d.isDigit = false) :
    c ≠ d := by
  rintro rfl
  exact Bool.false_ne_true (other.symm.trans digit)

/-- What holds of the ten digits holds of every digit. -/
theorem forall_isDigit {p : Char → Prop} (digits : ∀ n < 10, p (Char.ofNat (48 + n))) (c : Char)
    (digit : c.isDigit = true) : p c := by
  have low : 48 ≤ c.toNat := (Char.isDigit_iff_toNat.mp digit).1
  have high : c.toNat ≤ 57 := (Char.isDigit_iff_toNat.mp digit).2
  have found := digits (c.toNat - 48) (by omega)
  rwa [Nat.add_sub_of_le low, Char.ofNat_toNat] at found

/-- A text that starts with a digit has no sign, so the sign in front of it is read. -/
theorem takeSign_signText_append (negative : Bool) {text : List Char} (nonempty : text ≠ [])
    (digit : ∀ c ∈ text.head?, c.isDigit = true) :
    takeSign (signText negative ++ text) = (negative, text) := by
  cases negative with
  | true => rfl
  | false =>
      obtain ⟨c, rest, rfl⟩ := List.exists_cons_of_ne_nil nonempty
      have first := digit c rfl
      have notMinus : c ≠ '-' := ne_of_isDigit first rfl
      have notPlus : c ≠ '+' := ne_of_isDigit first rfl
      simp [signText, takeSign, notMinus, notPlus]

/-- A row of characters of a class is taken as a whole if the class ends behind it. -/
theorem takeWhile_append_of_head? {p : Char → Bool} {row rest : List Char}
    (all : ∀ c ∈ row, p c = true) (ends : ∀ c ∈ rest.head?, p c = false) :
    (row ++ rest).takeWhile p = row := by
  rw [List.takeWhile_append_of_pos all]
  cases rest with
  | nil => simp
  | cons c more => rw [List.takeWhile_cons_of_neg (by simp [ends c rfl]), List.append_nil]

/-- What stands behind a row of characters of a class is left if the class ends in front of it. -/
theorem dropWhile_append_of_head? {p : Char → Bool} {row rest : List Char}
    (all : ∀ c ∈ row, p c = true) (ends : ∀ c ∈ rest.head?, p c = false) :
    (row ++ rest).dropWhile p = rest := by
  rw [List.dropWhile_append_of_pos all]
  cases rest with
  | nil => rfl
  | cons c more => exact List.dropWhile_cons_of_neg (by simp [ends c rfl])

/-- A row of digits reads as an integer behind its sign. -/
theorem readInteger?_signText_append (negative : Bool) {digits : List Char}
    (nonempty : digits ≠ []) (all : ∀ c ∈ digits, c.isDigit = true) :
    readInteger? (signText negative ++ digits) = some (signed negative (valueOf digits)) := by
  have unsigned := takeSign_signText_append negative nonempty
    (fun c member => all c (List.mem_of_mem_head? member))
  have numeral : isNumeral digits = true := by
    simpa [isNumeral, nonempty] using all
  simp only [readInteger?, unsigned, numeral, if_true]

/-- The digits of an integer stand behind its sign. -/
theorem integerDigits_eq (n : Int) :
    integerDigits n = signText (decide (n < 0)) ++ digitsOf n.natAbs := by
  cases n with
  | ofNat n => simp [integerDigits, signText]
  | negSucc n => simp [integerDigits, signText, Int.negSucc_lt_zero]

/-- The digits of a positive magnitude stand behind its sign. -/
theorem integerDigits_signed (negative : Bool) {magnitude : Nat} (positive : 0 < magnitude) :
    integerDigits (signed negative magnitude) = signText negative ++ digitsOf magnitude := by
  rw [integerDigits_eq]
  cases negative with
  | true => simp [signed, positive]
  | false =>
      have above : ¬(magnitude : Int) < 0 := by omega
      simp [signed, above]

/-- The text of an integer reads back. -/
theorem readInteger?_integerDigits (n : Int) : readInteger? (integerDigits n) = some n := by
  rw [integerDigits_eq, readInteger?_signText_append _ (digitsOf_ne_nil _)
    (fun c member => isDigit_of_mem_digitsOf member), valueOf_digitsOf]
  congr 1
  by_cases negative : n < 0
  · rw [signed, decide_eq_true negative, if_pos rfl]
    omega
  · rw [signed, decide_eq_false negative, if_neg Bool.false_ne_true]
    omega

/-- The text of an integer that is not negative also reads back behind a plus. -/
theorem readInteger?_plus_integerDigits {n : Int} (positive : 0 ≤ n) :
    readInteger? ('+' :: integerDigits n) = some n := by
  obtain ⟨n, rfl⟩ := Int.eq_ofNat_of_zero_le positive
  have back := readInteger?_integerDigits n
  have unsigned := takeSign_signText_append false (digitsOf_ne_nil n)
    (fun c member => isDigit_of_mem_digitsOf (List.mem_of_mem_head? member))
  change takeSign (integerDigits n) = (false, digitsOf n) at unsigned
  simp only [readInteger?, unsigned] at back
  exact back

/-- Only a row of digits behind a sign reads as an integer. -/
theorem isNumeral_of_readInteger? {text : List Char} {n : Int}
    (found : readInteger? text = some n) : isNumeral (takeSign text).2 = true := by
  by_contra other
  simp [readInteger?, other] at found

/-- A mark of an exponent is a letter and an integer. -/
theorem of_readExponent?_cons {letter : Char} {rest : List Char} {exponent : Int}
    (marked : readExponent? (letter :: rest) = some exponent) :
    (letter = 'e' ∨ letter = 'E') ∧ readInteger? rest = some exponent := by
  rw [readExponent?] at marked
  split at marked
  · rename_i letters
    exact ⟨by simpa using letters, marked⟩
  · cases marked

/-- An exponent is marked by a letter. -/
theorem mark_of_readExponent? {mark : List Char} {exponent : Int}
    (marked : readExponent? mark = some exponent) : ∀ c ∈ mark.head?, c = 'e' ∨ c = 'E' := by
  intro c member
  cases mark with
  | nil => cases member
  | cons d rest =>
      cases member
      exact (of_readExponent?_cons marked).1

/-- A character that the text of a number can hold. -/
def isTextChar (c : Char) : Bool := c.isAlphanum || c == '.' || c == '+' || c == '-'

theorem isTextChar_of_isDigit {c : Char} (digit : c.isDigit = true) : isTextChar c = true := by
  simp [isTextChar, Char.isAlphanum, digit]

/-- Letters and digits stand between the first digit and the last letter of ASCII. -/
theorem range_of_isAlphanum {c : Char} (inside : c.isAlphanum = true) :
    48 ≤ c.toNat ∧ c.toNat ≤ 122 := by
  rcases Bool.or_eq_true_iff.mp inside with letter | digit
  · rcases Bool.or_eq_true_iff.mp letter with upper | lower
    · have range : 65 ≤ c.toNat ∧ c.toNat ≤ 90 := of_decide_eq_true upper
      omega
    · have first : 97 ≤ c.toNat := of_decide_eq_true (Bool.and_eq_true_iff.mp lower).1
      have last : c.toNat ≤ 122 := of_decide_eq_true (Bool.and_eq_true_iff.mp lower).2
      omega
  · have range : 48 ≤ c.toNat ∧ c.toNat ≤ 57 := Char.isDigit_iff_toNat.mp digit
    omega

/-- A blank is no letter, digit, sign or point. -/
theorem isBlank_of_isTextChar {c : Char} (inside : isTextChar c = true) :
    Text.isBlank c = false := by
  have range : 43 ≤ c.toNat ∧ c.toNat ≤ 122 := by
    simp only [isTextChar, Bool.or_eq_true, beq_iff_eq] at inside
    rcases inside with ((inside | rfl) | rfl) | rfl
    · have range := range_of_isAlphanum inside
      omega
    all_goals decide
  rw [Bool.eq_false_iff]
  intro blank
  simp only [Text.isBlank, Bool.or_eq_true, Bool.and_eq_true, decide_eq_true_eq,
    beq_iff_eq] at blank
  omega

section Characters

variable {p : Char → Prop}

/-- A text that reads as an integer holds digits and a sign only. -/
theorem forall_mem_of_readInteger? (digit : ∀ c, c.isDigit = true → p c) (plus : p '+')
    (minus : p '-') {text : List Char} {n : Int} (found : readInteger? text = some n) :
    ∀ c ∈ text, p c := by
  have numeral := isNumeral_of_readInteger? found
  simp only [isNumeral, Bool.and_eq_true, List.all_eq_true] at numeral
  have digits : ∀ c ∈ (takeSign text).2, p c := fun c member => digit c (numeral.2 c member)
  unfold takeSign at digits
  split at digits
  · exact List.forall_mem_cons.mpr ⟨minus, digits⟩
  · exact List.forall_mem_cons.mpr ⟨plus, digits⟩
  · exact digits

/-- A mark of an exponent holds a letter, digits and a sign only. -/
theorem forall_mem_of_readExponent? (digit : ∀ c, c.isDigit = true → p c)
    (marks : ['e', 'E', '+', '-'].Forall p) {mark : List Char} {exponent : Int}
    (marked : readExponent? mark = some exponent) : ∀ c ∈ mark, p c := by
  obtain ⟨lower, upper, plus, minus⟩ := marks
  cases mark with
  | nil => exact List.forall_mem_nil p
  | cons letter rest =>
      obtain ⟨letters, found⟩ := of_readExponent?_cons marked
      refine List.forall_mem_cons.mpr ⟨?_, ?_⟩
      · rcases letters with rfl | rfl
        · exact lower
        · exact upper
      · exact forall_mem_of_readInteger? digit plus minus found

end Characters

theorem isTextChar_of_readInteger? {text : List Char} {n : Int}
    (found : readInteger? text = some n) : ∀ c ∈ text, isTextChar c = true :=
  forall_mem_of_readInteger? (fun _ => isTextChar_of_isDigit) rfl rfl found

/-- A spelling of a decimal: a row of digits, the digits behind a point, and an exponent. -/
structure Spelling where
  whole : List Char
  fraction : List Char
  mark : List Char
  exponent : Int
  nonempty : whole ≠ []
  wholeDigits : ∀ c ∈ whole, c.isDigit = true
  fractionDigits : ∀ c ∈ fraction, c.isDigit = true
  marked : readExponent? mark = some exponent

namespace Spelling

/-- The point with the digits behind it, if there are any. -/
def point (fraction : List Char) : List Char := if fraction = [] then [] else '.' :: fraction

def text (spelling : Spelling) : List Char :=
  spelling.whole ++ (point spelling.fraction ++ spelling.mark)

/-- The literal of a spelling behind a sign. -/
def literal (negative : Bool) (spelling : Spelling) : Literal :=
  ⟨negative, spelling.whole, spelling.fraction, spelling.exponent⟩

/-- The spelling writes down an integer by its digits alone. -/
def IsPlain (spelling : Spelling) : Prop := spelling.fraction = [] ∧ spelling.mark = []

instance (spelling : Spelling) : Decidable spelling.IsPlain :=
  inferInstanceAs (Decidable (_ ∧ _))

theorem text_ne_nil (spelling : Spelling) : spelling.text ≠ [] :=
  List.append_ne_nil_of_left_ne_nil spelling.nonempty _

theorem text_of_isPlain {spelling : Spelling} (plain : spelling.IsPlain) :
    spelling.text = spelling.whole := by
  rw [text, point, if_pos plain.1, plain.2, List.append_nil, List.append_nil]

/-- A spelling starts with a digit. -/
theorem isDigit_of_mem_head? (spelling : Spelling) :
    ∀ c ∈ spelling.text.head?, c.isDigit = true := by
  intro c member
  obtain ⟨d, rest, split⟩ := List.exists_cons_of_ne_nil spelling.nonempty
  have first := spelling.wholeDigits d (by simp [split])
  rw [text, split, List.cons_append, List.head?_cons, Option.mem_some_iff] at member
  exact member ▸ first

/-- A spelling is written in digits, points, signs and the marks of exponents. -/
theorem forall_mem_text {p : Char → Prop} (digit : ∀ c, c.isDigit = true → p c)
    (marks : ['.', 'e', 'E', '+', '-'].Forall p) (spelling : Spelling) :
    ∀ c ∈ spelling.text, p c := by
  obtain ⟨pointed, others⟩ := marks
  have fraction : ∀ c ∈ spelling.fraction, p c :=
    fun c member => digit c (spelling.fractionDigits c member)
  refine List.forall_mem_append.mpr ⟨fun c member => digit c (spelling.wholeDigits c member),
    List.forall_mem_append.mpr ⟨?_, forall_mem_of_readExponent? digit others spelling.marked⟩⟩
  unfold point
  split
  · exact List.forall_mem_nil p
  · exact List.forall_mem_cons.mpr ⟨pointed, fraction⟩

theorem isTextChar_of_mem_text (spelling : Spelling) :
    ∀ c ∈ spelling.text, isTextChar c = true :=
  spelling.forall_mem_text (fun _ => isTextChar_of_isDigit) (by decide)

/-- The digits behind the point end with the mark of the exponent or with the text. -/
theorem isDigit_mark (spelling : Spelling) : ∀ c ∈ spelling.mark.head?, c.isDigit = false := by
  intro c member
  rcases mark_of_readExponent? spelling.marked c member with rfl | rfl <;> rfl

/-- The whole digits end with the point, with the mark of the exponent or with the text. -/
theorem isDigit_tail (spelling : Spelling) :
    ∀ c ∈ (point spelling.fraction ++ spelling.mark).head?, c.isDigit = false := by
  intro c member
  by_cases empty : spelling.fraction = []
  · rw [point, if_pos empty, List.nil_append] at member
    exact spelling.isDigit_mark c member
  · rw [point, if_neg empty, List.cons_append, List.head?_cons, Option.mem_some_iff] at member
    exact member ▸ rfl

theorem takeFraction_tail (spelling : Spelling) :
    takeFraction (point spelling.fraction ++ spelling.mark) =
      (spelling.fraction, spelling.mark) := by
  have marks := mark_of_readExponent? spelling.marked
  have ends := spelling.isDigit_mark
  by_cases empty : spelling.fraction = []
  · rw [point, if_pos empty, List.nil_append, empty]
    unfold takeFraction
    split
    · rename_i rest pointed
      rcases marks '.' (by simp [pointed]) with equal | equal <;> simp at equal
    · rfl
  · rw [point, if_neg empty, List.cons_append, takeFraction,
      takeWhile_append_of_head? spelling.fractionDigits ends,
      dropWhile_append_of_head? spelling.fractionDigits ends]

/-- A spelling behind a sign is read back as its literal. -/
theorem read?_text (negative : Bool) (spelling : Spelling) :
    Literal.read? (signText negative ++ spelling.text) = some (spelling.literal negative) := by
  have unsigned := takeSign_signText_append negative spelling.text_ne_nil
    spelling.isDigit_of_mem_head?
  have whole := takeWhile_append_of_head? spelling.wholeDigits spelling.isDigit_tail
  have tail := dropWhile_append_of_head? spelling.wholeDigits spelling.isDigit_tail
  have present : spelling.whole.isEmpty = false := by simpa using spelling.nonempty
  rw [← text] at whole tail
  simp only [Literal.read?, unsigned, whole, tail, takeFraction_tail, present, Bool.false_and,
    Bool.false_eq_true, if_false, spelling.marked, Option.map_some, literal]

/-- Only a spelling by digits alone reads as an integer. -/
theorem readInteger?_text (negative : Bool) (spelling : Spelling) :
    readInteger? (signText negative ++ spelling.text) =
      if spelling.IsPlain then some (signed negative (valueOf spelling.whole)) else none := by
  split
  · rename_i plain
    rw [text_of_isPlain plain,
      readInteger?_signText_append negative spelling.nonempty spelling.wholeDigits]
  · rename_i other
    have unsigned := takeSign_signText_append negative spelling.text_ne_nil
      spelling.isDigit_of_mem_head?
    have tail : point spelling.fraction ++ spelling.mark ≠ [] := by
      intro empty
      rw [List.append_eq_nil_iff] at empty
      refine other ⟨?_, empty.2⟩
      by_contra pointed
      simp [point, pointed] at empty
    obtain ⟨c, rest, split⟩ := List.exists_cons_of_ne_nil tail
    have ends : c.isDigit = false := spelling.isDigit_tail c (by simp [split])
    have mixed : isNumeral spelling.text = false := by
      simp [isNumeral, text, split, ends]
    simp only [readInteger?, unsigned, mixed, Bool.false_eq_true, if_false]

/-- The spelling of a natural number by its digits. -/
def ofNat (n : Nat) : Spelling where
  whole := digitsOf n
  fraction := []
  mark := []
  exponent := 0
  nonempty := digitsOf_ne_nil n
  wholeDigits := fun _ => isDigit_of_mem_digitsOf
  fractionDigits := nofun
  marked := rfl

theorem isPlain_ofNat (n : Nat) : (ofNat n).IsPlain := ⟨rfl, rfl⟩

/-- The digits of an integer are a sign and a spelling. -/
theorem integerDigits_eq (n : Int) :
    integerDigits n = signText (decide (n < 0)) ++ (ofNat n.natAbs).text := by
  rw [Decimal.integerDigits_eq, text_of_isPlain (isPlain_ofNat _)]
  rfl

end Spelling

end FilterQuery.Decimal
