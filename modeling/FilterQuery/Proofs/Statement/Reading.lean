import FilterQuery.Clause.Line
import FilterQuery.Query
import FilterQuery.Proofs.Number.Text
import FilterQuery.Proofs.Statement.Text
import FilterQuery.Proofs.Text.Separated

/-!
What a reader of a filter sees of a statement. The main statement says that plain statements, whose
fields are written in the characters of fields and whose texts hold neither quotes nor parentheses,
delimit themselves: what is seen of a statement is known from the start of a row.
-/

namespace FilterQuery

open Text (EndsWord SelfDelimiting)

/-- A field is plain if it is written in the characters of fields. -/
def PlainField (field : String) : Prop := ∀ c ∈ field.toList, Clause.isFieldChar c = true

instance (field : String) : Decidable (PlainField field) :=
  List.decidableBAll (fun c => Clause.isFieldChar c = true) field.toList

/-- A value is plain if its text holds neither quotes nor parentheses. -/
def Value.IsPlain : Value → Prop
  | .text content => ∀ c ∈ content.toList, c ≠ '\x22' ∧ c ≠ '(' ∧ c ≠ ')'
  | .number _ | .boolean _ | .absent => True

instance : (value : Value) → Decidable value.IsPlain
  | .text content =>
      List.decidableBAll (fun c => c ≠ '\x22' ∧ c ≠ '(' ∧ c ≠ ')') content.toList
  | .number _ | .boolean _ | .absent => .isTrue trivial

namespace Term

def isQuoted : Term → Bool
  | .quoted _ => true
  | .bare _ | .number _ | .boolean _ => false

/-- A character of a term without quotes. -/
def WordChar (c : Char) : Prop := c ≠ '\x22' ∧ c ≠ ' ' ∧ c ≠ ')'

/-- A term is plain if it holds no quote between its quotes, or else is a word. -/
def IsPlain (term : Term) : Prop :=
  match term with
  | .quoted content => '\x22' ∉ content.toList
  | term => term.text ≠ [] ∧ ∀ c ∈ term.text, WordChar c

theorem wordChar_of_isTextChar {c : Char} (inside : Decimal.isTextChar c = true) : WordChar c := by
  refine ⟨?_, ?_, ?_⟩ <;> rintro rfl <;> exact absurd inside (by decide)

theorem isPlain_number (number : Number) : IsPlain (.number number) :=
  ⟨number.text_ne_nil, fun c member =>
    wordChar_of_isTextChar (number.isTextChar_of_mem_text c member)⟩

theorem isPlain_boolean (value : Bool) : IsPlain (.boolean value) := by
  have letters : ∀ c ∈ text (.boolean value), Decimal.isTextChar c = true := by
    rw [← List.all_eq_true]
    cases value <;> decide
  refine ⟨?_, fun c member => wordChar_of_isTextChar (letters c member)⟩
  cases value <;> exact List.cons_ne_nil _ _

/-- A plain value gives a plain term: texts with blanks are quoted, and other texts are words. -/
theorem isPlain_of_term? {value : Value} (plain : value.IsPlain) {term : Term}
    (found : value.term? = some term) : term.IsPlain := by
  cases value with
  | text content =>
      simp only [Value.term?, ofText?] at found
      split at found
      · cases found
      · rename_i nonempty
        split at found
        · cases found
          exact fun member => (plain _ member).1 rfl
        · rename_i unblanked
          split at found
          · cases found
            exact isPlain_number _
          · cases found
            refine ⟨?_, fun c member => ⟨(plain c member).1, ?_, (plain c member).2.2⟩⟩
            · simpa [text] using nonempty
            · rintro rfl
              exact unblanked (List.any_eq_true.mpr ⟨' ', member, by decide⟩)
  | number number =>
      simp only [Value.term?] at found
      split at found
      · cases found
        exact isPlain_number number
      · cases found
  | boolean value =>
      cases found
      exact isPlain_boolean value
  | absent => cases found

/-- A plain term without quotes is a word. -/
theorem word_of_isPlain {term : Term} (plain : term.IsPlain) (bare : term.isQuoted = false) :
    term.text ≠ [] ∧ ∀ c ∈ term.text, WordChar c := by
  cases term with
  | quoted content => cases bare
  | bare | number | boolean => exact plain

/-- A term between quotes is its content between quotes. -/
theorem exists_content_of_isPlain {term : Term} (plain : term.IsPlain)
    (quoted : term.isQuoted = true) :
    ∃ content : List Char, term.text = '\x22' :: content ++ ['\x22'] ∧ '\x22' ∉ content := by
  cases term with
  | quoted content => exact ⟨content.toList, rfl, plain⟩
  | bare | number | boolean => cases quoted

/-- No word starts with a quote. -/
theorem word_append_ne_quote {term : Term} (plain : term.IsPlain) (bare : term.isQuoted = false)
    (rest others : List Char) : term.text ++ rest ≠ '\x22' :: others := by
  intro equal
  obtain ⟨nonempty, word⟩ := word_of_isPlain plain bare
  obtain ⟨c, more, split⟩ := List.exists_cons_of_ne_nil nonempty
  rw [split, List.cons_append, List.cons.injEq] at equal
  exact (word c (by simp [split])).1 equal.1

/-- Equal texts up to the end of a word start with equal terms. -/
theorem text_append_inj {first second : Term} (firstPlain : first.IsPlain)
    (secondPlain : second.IsPlain) {rest₁ rest₂ : List Char} (ends₁ : EndsWord rest₁)
    (ends₂ : EndsWord rest₂) (equal : first.text ++ rest₁ = second.text ++ rest₂) :
    first.text = second.text ∧ first.isQuoted = second.isQuoted ∧ rest₁ = rest₂ := by
  have stops {rest : List Char} (ends : EndsWord rest) : ∀ c ∈ rest.head?, ¬WordChar c := by
    intro c member word
    exact (ends c member).elim word.2.1 word.2.2
  cases firstQuoted : first.isQuoted with
  | true =>
      obtain ⟨content₁, text₁, free₁⟩ := exists_content_of_isPlain firstPlain firstQuoted
      cases secondQuoted : second.isQuoted with
      | true =>
          obtain ⟨content₂, text₂, free₂⟩ := exists_content_of_isPlain secondPlain secondQuoted
          rw [text₁, text₂] at equal
          simp only [List.cons_append, List.append_assoc, List.cons.injEq, true_and,
            List.nil_append] at equal
          obtain ⟨same, rest⟩ := Text.append_inj_of_forall (p := (· ≠ '\x22'))
            (fun c member => by rintro rfl; exact free₁ member)
            (fun c member => by rintro rfl; exact free₂ member)
            (by simp) (by simp) equal
          exact ⟨by rw [text₁, text₂, same], rfl, (List.cons.inj rest).2⟩
      | false =>
          rw [text₁] at equal
          exact absurd equal.symm (word_append_ne_quote secondPlain secondQuoted _ _)
  | false =>
      cases secondQuoted : second.isQuoted with
      | true =>
          obtain ⟨content₂, text₂, -⟩ := exists_content_of_isPlain secondPlain secondQuoted
          rw [text₂] at equal
          exact absurd equal (word_append_ne_quote firstPlain firstQuoted _ _)
      | false =>
          obtain ⟨same, rest⟩ := Text.append_inj_of_forall
            (word_of_isPlain firstPlain firstQuoted).2
            (word_of_isPlain secondPlain secondQuoted).2 (stops ends₁) (stops ends₂) equal
          exact ⟨same, rfl, rest⟩

end Term

namespace Clause

/-- The marks around a field are no characters of fields. -/
theorem isFieldChar_mark :
    isFieldChar ' ' = false ∧ isFieldChar ':' = false ∧ isFieldChar '(' = false ∧
      isFieldChar ')' = false := by
  decide +kernel

/-- No operator starts with a character of fields. -/
theorem isFieldChar_token (operator : Operator) :
    ∀ c ∈ operator.token.toList.head?, isFieldChar c = false := by
  intro c member
  cases operator <;> cases member <;> decide +kernel

end Clause

/-- No operator contains a space. -/
theorem Operator.space_notMem_token (operator : Operator) : ' ' ∉ operator.token.toList := by
  cases operator <;> decide

theorem Operator.token_injective {first second : Operator}
    (equal : first.token.toList = second.token.toList) : first = second := by
  revert equal
  cases first <;> cases second <;> decide

namespace Statement

/-- What a reader of a filter sees of a statement. -/
structure Reading where
  field : String
  operator : Operator
  numeric : Bool
  term : List Char
  quoted : Bool
deriving DecidableEq

/-- The field and the operator, whether the statement is numeric, the term as it is shown, and
whether it stands between quotes. -/
def reading (statement : Statement) : Reading :=
  ⟨statement.field, statement.operator, statement.isNumeric, statement.term.text,
    statement.term.isQuoted⟩

/-- A statement is plain if its field and its term are. -/
structure IsPlain (statement : Statement) : Prop where
  field : PlainField statement.field
  term : statement.term.IsPlain

/-- An accepted condition gives a statement with its field and the term of its value. -/
theorem field_term_of_accepted {condition : Condition} {statement : Statement}
    (found : Query.accepted condition = some statement) :
    statement.field = condition.field ∧ condition.value.term? = some statement.term := by
  unfold Query.accepted Condition.statement? at found
  split at found
  · rename_i accepted
    split at accepted
    · cases accepted
      cases found
    · split at accepted
      · cases accepted
        cases found
      · rename_i term present
        split at accepted
        · cases accepted
          cases found
          exact ⟨rfl, present⟩
        · cases accepted
  · cases found

/-- The statement of a plain condition is plain. -/
theorem isPlain_of_accepted {condition : Condition} (field : PlainField condition.field)
    (value : condition.value.IsPlain) {statement : Statement}
    (found : Query.accepted condition = some statement) : statement.IsPlain := by
  obtain ⟨sameField, term⟩ := field_term_of_accepted found
  exact ⟨sameField ▸ field, Term.isPlain_of_term? value term⟩

/-- Only the operators of equality and inequality stand with what is not a number. -/
theorem operator_eq_equal {statement : Statement} (textual : statement.isNumeric = false)
    (included : statement.operator ≠ .notEqual) : statement.operator = .equal := by
  have admitted := statement.admitted
  revert admitted included
  rw [isNumeric] at textual
  cases statement.operator <;> simp [Operator.admits, Operator.isOrdering, textual]

/-- A field ends with the mark behind it, which is then known. -/
theorem field_append_inj {first second : String} (firstPlain : PlainField first)
    (secondPlain : PlainField second) {c d : Char} (firstMark : Clause.isFieldChar c = false)
    (secondMark : Clause.isFieldChar d = false) {rest₁ rest₂ : List Char}
    (equal : first.toList ++ c :: rest₁ = second.toList ++ d :: rest₂) :
    first = second ∧ c = d ∧ rest₁ = rest₂ := by
  obtain ⟨same, rest⟩ := Text.append_inj_of_forall (p := fun c => Clause.isFieldChar c = true)
    firstPlain secondPlain (by simp [firstMark]) (by simp [secondMark]) equal
  obtain ⟨mark, rest⟩ := List.cons.inj rest
  exact ⟨String.toList_inj.mp same, mark, rest⟩

theorem plainField_not : PlainField "NOT" := by decide +kernel

/-- A space and a colon behind fields tell texts apart. -/
theorem space_ne_colon {first second : String} (firstPlain : PlainField first)
    (secondPlain : PlainField second) (rest₁ rest₂ : List Char) :
    first.toList ++ ' ' :: rest₁ ≠ second.toList ++ ':' :: rest₂ := by
  intro equal
  have marks := (field_append_inj firstPlain secondPlain Clause.isFieldChar_mark.1
    Clause.isFieldChar_mark.2.1 equal).2.1
  exact absurd marks (by decide)

/-- An operator cannot be taken for a field. -/
theorem token_append_ne_field (operator : Operator) (statement : Statement)
    (plain : PlainField statement.field) (rest₁ rest₂ : List Char) :
    operator.token.toList ++ rest₁ ≠ statement.field.toList ++ rest₂ := by
  intro equal
  obtain ⟨c, more, named⟩ := List.exists_cons_of_ne_nil statement.field_toList_ne_nil
  have inside : Clause.isFieldChar c = true := plain c (by simp [named])
  have first : operator.token.toList.head? = some c := by
    have heads := congrArg List.head? equal
    rw [named] at heads
    revert heads
    cases operator <;> simp [Operator.token]
  have outside := Clause.isFieldChar_token operator c first
  exact Bool.false_ne_true (outside.symm.trans inside)

theorem head_of_isNumeric {statement : Statement} (numeric : statement.isNumeric = true)
    (rest : List Char) :
    statement.head ++ rest =
      statement.field.toList ++ ' ' :: (statement.operator.token.toList ++ ' ' :: rest) := by
  simp [head, numeric]

theorem head_of_excluded {statement : Statement} (textual : statement.isNumeric = false)
    (excluded : statement.operator = .notEqual) (rest : List Char) :
    statement.head ++ rest =
      "NOT".toList ++ ' ' :: (statement.field.toList ++ ':' :: rest) := by
  simp [head, textual, excluded]

theorem head_of_included {statement : Statement} (textual : statement.isNumeric = false)
    (included : statement.operator ≠ .notEqual) (rest : List Char) :
    statement.head ++ rest = statement.field.toList ++ ':' :: rest := by
  simp [head, textual, included]

/-- A numeric head cannot be taken for one of another kind. -/
theorem head_append_ne_of_isNumeric {first second : Statement} (firstPlain : PlainField first.field)
    (secondPlain : PlainField second.field) (numeric : first.isNumeric = true)
    (textual : second.isNumeric = false) (rest₁ rest₂ : List Char) :
    first.head ++ rest₁ ≠ second.head ++ rest₂ := by
  rw [head_of_isNumeric numeric]
  by_cases excluded : second.operator = .notEqual
  · rw [head_of_excluded textual excluded]
    intro equal
    have behind := (field_append_inj firstPlain plainField_not Clause.isFieldChar_mark.1
      Clause.isFieldChar_mark.1 equal).2.2
    exact token_append_ne_field _ second secondPlain _ _ behind
  · rw [head_of_included textual excluded]
    exact space_ne_colon firstPlain secondPlain _ _

/-- The head of an exclusion cannot be taken for the head of a match. -/
theorem head_append_ne_of_excluded {first second : Statement}
    (secondPlain : PlainField second.field) (firstTextual : first.isNumeric = false)
    (secondTextual : second.isNumeric = false) (excluded : first.operator = .notEqual)
    (included : second.operator ≠ .notEqual) (rest₁ rest₂ : List Char) :
    first.head ++ rest₁ ≠ second.head ++ rest₂ := by
  rw [head_of_excluded firstTextual excluded, head_of_included secondTextual included]
  exact space_ne_colon plainField_not secondPlain _ _

/-- Equal texts start with heads that name the same field and the same relation. -/
theorem head_append_inj {first second : Statement} (firstPlain : PlainField first.field)
    (secondPlain : PlainField second.field) {rest₁ rest₂ : List Char}
    (equal : first.head ++ rest₁ = second.head ++ rest₂) :
    first.field = second.field ∧ first.operator = second.operator ∧
      first.isNumeric = second.isNumeric ∧ rest₁ = rest₂ := by
  obtain ⟨space, colon, -, -⟩ := Clause.isFieldChar_mark
  cases firstKind : first.isNumeric <;> cases secondKind : second.isNumeric
  case false.true =>
    exact absurd equal.symm
      (head_append_ne_of_isNumeric secondPlain firstPlain secondKind firstKind _ _)
  case true.false =>
    exact absurd equal
      (head_append_ne_of_isNumeric firstPlain secondPlain firstKind secondKind _ _)
  case true.true =>
    rw [head_of_isNumeric firstKind, head_of_isNumeric secondKind] at equal
    obtain ⟨field, -, behind⟩ := field_append_inj firstPlain secondPlain space space equal
    obtain ⟨token, rest⟩ := Text.append_inj_of_forall (p := (· ≠ ' '))
      (fun c member => by rintro rfl; exact first.operator.space_notMem_token member)
      (fun c member => by rintro rfl; exact second.operator.space_notMem_token member)
      (by simp) (by simp) behind
    exact ⟨field, Operator.token_injective token, rfl, (List.cons.inj rest).2⟩
  case false.false =>
    by_cases firstExcluded : first.operator = .notEqual <;>
      by_cases secondExcluded : second.operator = .notEqual
    · rw [head_of_excluded firstKind firstExcluded, head_of_excluded secondKind secondExcluded,
        List.append_cancel_left_eq, List.cons.injEq] at equal
      obtain ⟨field, -, rest⟩ := field_append_inj firstPlain secondPlain colon colon equal.2
      exact ⟨field, firstExcluded.trans secondExcluded.symm, rfl, rest⟩
    · exact absurd equal (head_append_ne_of_excluded secondPlain firstKind secondKind
        firstExcluded secondExcluded _ _)
    · exact absurd equal.symm (head_append_ne_of_excluded firstPlain secondKind firstKind
        secondExcluded firstExcluded _ _)
    · rw [head_of_included firstKind firstExcluded,
        head_of_included secondKind secondExcluded] at equal
      obtain ⟨field, -, rest⟩ := field_append_inj firstPlain secondPlain colon colon equal
      exact ⟨field, (operator_eq_equal firstKind firstExcluded).trans
        (operator_eq_equal secondKind secondExcluded).symm, rfl, rest⟩

/-- A plain statement starts with a character of fields. -/
theorem exists_text_eq_cons {statement : Statement} (plain : statement.IsPlain) :
    ∃ c rest, statement.text = c :: rest ∧ Clause.isFieldChar c = true := by
  obtain ⟨c, more, named⟩ := List.exists_cons_of_ne_nil statement.field_toList_ne_nil
  have inside : Clause.isFieldChar c = true := plain.field c (by simp [named])
  rw [text_eq_head_append]
  unfold head
  split
  · exact ⟨c, _, by rw [named]; rfl, inside⟩
  · split
    · exact ⟨'N', _, rfl, by decide +kernel⟩
    · exact ⟨c, _, by rw [named]; rfl, inside⟩

/-- Plain statements delimit themselves: what is seen of a statement is known from the start of a
row. -/
theorem selfDelimiting :
    SelfDelimiting text IsPlain (fun first second => first.reading = second.reading) where
  starts := by
    intro statement plain rest ends
    obtain ⟨c, more, split, inside⟩ := exists_text_eq_cons plain
    obtain ⟨space, -, -, closing⟩ := Clause.isFieldChar_mark
    rcases ends c (by rw [split]; rfl) with rfl | rfl
    · exact Bool.false_ne_true (space.symm.trans inside)
    · exact Bool.false_ne_true (closing.symm.trans inside)
  split := by
    intro first second firstPlain secondPlain rest₁ rest₂ ends₁ ends₂ equal
    rw [text_eq_head_append, text_eq_head_append, List.append_assoc, List.append_assoc] at equal
    obtain ⟨field, operator, numeric, equal⟩ :=
      head_append_inj firstPlain.field secondPlain.field equal
    obtain ⟨term, quoted, rest⟩ :=
      Term.text_append_inj firstPlain.term secondPlain.term ends₁ ends₂ equal
    refine ⟨?_, rest⟩
    simp only [reading, field, operator, numeric, term, quoted]

end Statement

end FilterQuery
