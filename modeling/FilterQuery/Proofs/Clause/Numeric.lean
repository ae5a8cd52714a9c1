import FilterQuery.Failure
import FilterQuery.Proofs.Clause.Line
import FilterQuery.Proofs.Number.Interchange
import FilterQuery.Proofs.Statement.Reading

namespace FilterQuery

namespace Number

open Decimal

/-- The text of a finite number starts with a minus or with a digit. -/
theorem head_text {number : Number} (finite : number.isFinite = true) :
    ∀ c ∈ number.text.head?, c = '-' ∨ c.isDigit = true := by
  have signed (negative : Bool) {digits : List Char}
      (digit : ∀ c ∈ digits.head?, c.isDigit = true) :
      ∀ c ∈ (signText negative ++ digits).head?, c = '-' ∨ c.isDigit = true := by
    intro c member
    cases negative with
    | true => exact .inl (Option.some.inj member).symm
    | false => exact .inr (digit c member)
  cases number with
  | int value =>
      rw [text, integerDigits_eq]
      exact signed _ fun c member => isDigit_of_mem_digitsOf (List.mem_of_mem_head? member)
  | float value =>
      cases value with
      | nan => cases finite
      | infinite negative => cases finite
      | finite negative code =>
          by_cases zero : code.val = 0
          · rw [text, doubleText, if_pos zero]
            have digit : ∀ c ∈ ['0'].head?, c.isDigit = true := by
              rintro c ⟨⟩
              rfl
            exact signed false digit
          · rw [text, doubleText_finite zero]
            obtain ⟨spelling, spelled, -, -⟩ := exists_spelling_magnitudeText code.val
            exact signed negative (spelled ▸ spelling.isDigit_of_mem_head?)

/-- The text of a number holds no blank. -/
theorem isBlank_of_mem_text (number : Number) : ∀ c ∈ number.text, Text.isBlank c = false :=
  fun c member => isBlank_of_isTextChar (number.isTextChar_of_mem_text c member)

end Number

/-- A condition on a named field whose term is a number has its statement. -/
theorem Condition.statement?_of_number {condition : Condition} {number : Number}
    (named : condition.field ≠ "") (found : condition.value.term? = some (.number number)) :
    condition.statement? = .ok (some ⟨condition.field, condition.operator, .number number, named,
      Operator.admits_number _⟩) := by
  simp [statement?, named, found, Term.kind]

/-- A statement alone is the whole filter. -/
theorem Query.filter_append_empty (statement : Statement) :
    (empty.append (some statement)).filter = String.ofList statement.text := by
  simp [filter, append, empty, Fragments.append, Fragments.attach, Fragments.needsJoiner,
    Fragments.text, Fragment.text]

namespace Clause

/-- The token of an operator is found where a space follows it. -/
theorem takeOperator?_token (operator : Operator) (rest : List Char) :
    takeOperator? (operator.token.toList ++ ' ' :: rest) = some (operator, ' ' :: rest) := by
  cases operator <;> rfl

/-- A text that starts with a minus or with a digit is a text, and has no quotes around it. -/
theorem valueOfText_of_head? {text : List Char} (nonempty : text ≠ [])
    (starts : ∀ c ∈ text.head?, c = '-' ∨ c.isDigit = true) :
    valueOfText text = .text (String.ofList text) := by
  obtain ⟨c, rest, rfl⟩ := List.exists_cons_of_ne_nil nonempty
  have other {d : Char} (minus : d ≠ '-') (digit : d.isDigit = false) : c ≠ d := by
    rintro rfl
    rcases starts c rfl with rfl | isDigit
    · exact minus rfl
    · exact Bool.false_ne_true (digit.symm.trans isDigit)
  have double : c ≠ '\x22' := other (by decide) (by decide)
  have single : c ≠ '\x27' := other (by decide) (by decide)
  have trueStart : c ≠ 't' := other (by decide) (by decide)
  have falseStart : c ≠ 'f' := other (by decide) (by decide)
  simp [valueOfText, trueStart, falseStart, unquote, unquoteWith?, double, single]

/-- A field, an operator and a finite number with single spaces between them are read as the clause
that compares the field with the text of the number. -/
theorem ofLine?_number {field : String} (named : field ≠ "") (plain : PlainField field)
    (operator : Operator) {number : Number} (finite : number.isFinite = true) :
    ofLine? (field.toList ++ ' ' :: operator.token.toList ++ ' ' :: number.text) =
      some (.comparison field operator (.text (String.ofList number.text))) := by
  have nonempty : field.toList ≠ [] := by simpa using named
  have unblanked := number.isBlank_of_mem_text
  have gap : Text.AllBlank [' '] := List.forall_mem_singleton.mpr rfl
  have start : Text.trimStart (' ' :: number.text) = number.text :=
    (Text.trimStart_append_of_allBlank gap _).trans
      (Text.trimStart_of_head? fun c member => unblanked c (List.mem_of_mem_head? member))
  have single : '\n' ∉ Text.trimStart (' ' :: number.text) := by
    rw [start]
    exact fun member => absurd (unblanked '\n' member) (by decide)
  have read := ofLine?_append nonempty plain gap
    (takeOperator?_token operator number.text) single
  rw [start, Text.trimEnd_of_getLast? fun c member => unblanked c (List.mem_of_getLast? member),
    valueOfText_of_head? number.text_ne_nil (number.head_text finite), String.ofList_toList]
    at read
  simpa using read

/-- The statement of a condition on a finite number is a line of its own: it is read as a clause
with the same field and operator, and this clause alone builds the same statement. -/
theorem exists_ofLine_statement (field : String) (named : field ≠ "") (plain : PlainField field)
    (operator : Operator) (number : Number) (finite : number.isFinite = true) :
    ∃ statement, Condition.statement? ⟨field, operator, .number number⟩ = .ok (some statement) ∧
      ∃ value, ofLine (String.ofList statement.text) = .ok (.comparison field operator value) ∧
        ∃ query, (comparison field operator value).apply .empty = ⟨query, none⟩ ∧
          query.filter = String.ofList statement.text := by
  obtain ⟨reading, reads⟩ := Number.exists_reads finite
  have own := Value.term?_of_isFinite finite
  refine ⟨_, Condition.statement?_of_number named own, .text (String.ofList number.text), ?_, ?_⟩
  · rw [ofLine, String.toList_ofList, Statement.text]
    dsimp only
    rw [ofLine?_number named plain operator finite]
  · let condition : Condition := ⟨field, operator, .text (String.ofList number.text)⟩
    have back : condition.statement? = _ := Condition.statement?_of_number named reads.term?_text
    let again : Statement := ⟨field, operator, .number reading, named, Operator.admits_number _⟩
    refine ⟨Query.empty.append (some again), ?_, ?_⟩
    · rw [apply, Query.add, back]
    · rw [Query.filter_append_empty, Statement.text, Statement.text]
      dsimp only [again]
      rw [reads.text]

/-- A negative number with a positive exponent, behind an operator of two characters. -/
theorem exists_ofLine_statement_of_exponent :
    "price-max" ≠ "" ∧ PlainField "price-max" ∧
      (Number.float (.ofDecimal true 25 29)).isFinite = true ∧
      String.ofList (Number.float (.ofDecimal true 25 29)).text = "-2.5e+30" ∧
      ∃ statement,
        Condition.statement? ⟨"price-max", .atMost, .number (.float (.ofDecimal true 25 29))⟩ =
            .ok (some statement) ∧
          ∃ value, ofLine (String.ofList statement.text) =
              .ok (.comparison "price-max" .atMost value) ∧
            ∃ query, (comparison "price-max" .atMost value).apply .empty = ⟨query, none⟩ ∧
              query.filter = String.ofList statement.text :=
  ⟨by decide, by decide +kernel, by decide +kernel, by decide +kernel,
    exists_ofLine_statement "price-max" (by decide) (by decide +kernel) .atMost _
      (by decide +kernel)⟩

end Clause

end FilterQuery
