import FilterQuery.Proofs.Number.Reading
import FilterQuery.Statement

namespace FilterQuery

/-- The term of the text of a finite number is the number that is read. -/
theorem Number.Reads.term?_text {number reading : Number} (reads : number.Reads reading) :
    (Value.text (String.ofList number.text)).term? = some (.number reading) := by
  have present : (String.ofList number.text).isEmpty = false := by
    simpa [String.isEmpty_iff] using number.text_ne_nil
  have unquoted : number.text.any Text.isBlank = false := by
    rw [List.any_eq_false]
    intro c member
    rw [Decimal.isBlank_of_isTextChar (number.isTextChar_of_mem_text c member)]
    exact Bool.false_ne_true
  simp only [Value.term?, Term.ofText?, present, String.toList_ofList, unquoted,
    Bool.false_eq_true, if_false, reads.read]

/-- A finite number is a term. -/
theorem Value.term?_of_isFinite {number : Number} (finite : number.isFinite = true) :
    (Value.number number).term? = some (.number number) := by
  rw [term?, if_pos finite]

/-- A condition whose term is a number is never refused, and shows the number's text. -/
theorem Condition.text_statement?_of_number {condition : Condition} {number : Number}
    (found : condition.value.term? = some (.number number)) :
    condition.statement?.map (Option.map Statement.text) =
      .ok (if condition.field = "" then none
        else some (condition.field.toList ++ ' ' :: condition.operator.token.toList ++
          ' ' :: number.text)) := by
  by_cases unnamed : condition.field = ""
  · simp [statement?, unnamed, Except.map]
  · simp [statement?, unnamed, found, Term.kind, Statement.text, Except.map]

namespace Number

/-- A number and its text stand for each other: conditions on them have the same result, the text
reads back, and no other double has the text of a double, zeros apart. -/
structure Interchangeable (number : Number) : Prop where
  condition : ∀ field operator,
    (Condition.statement? ⟨field, operator, .text (String.ofList number.text)⟩).map
        (Option.map Statement.text) =
      (Condition.statement? ⟨field, operator, .number number⟩).map (Option.map Statement.text)
  reading : ∃ reading, number.Reads reading
  distinct : ∀ value other : Double, number = .float value → value.isZero = false →
    other.isFinite = true → other.isZero = false → text (.float other) = number.text →
    other = value

/-- Every finite number and its text stand for each other. -/
theorem interchangeable_of_isFinite (number : Number) (finite : number.isFinite = true) :
    number.Interchangeable := by
  obtain ⟨reading, reads⟩ := exists_reads finite
  refine ⟨fun field operator => ?_, ⟨reading, reads⟩, ?_⟩
  · rw [Condition.text_statement?_of_number reads.term?_text,
      Condition.text_statement?_of_number (Value.term?_of_isFinite finite), reads.text]
  · intro value other same nonzero otherFinite otherNonzero equal
    obtain ⟨otherReading, otherReads⟩ :=
      exists_reads (show (float other).isFinite = true from otherFinite)
    have read := otherReads.read
    rw [equal, reads.read, Option.some.injEq] at read
    have rounds := reads.float value same
    rw [read] at rounds
    exact (otherReads.float other rfl).unique rounds otherNonzero nonzero

/-- The double `2 ^ 62` is printed with padded zeros, and its text reads as another integer. -/
theorem interchangeable_of_padded_zeros :
    (float (.ofCode false (1085 * Nat.pow 2 52))).isFinite = true ∧
      String.ofList (text (.float (.ofCode false (1085 * Nat.pow 2 52)))) = "4611686018427388000" ∧
      (float (.ofCode false (1085 * Nat.pow 2 52))).Interchangeable :=
  ⟨by decide +kernel, by decide +kernel, interchangeable_of_isFinite _ (by decide +kernel)⟩

end Number

end FilterQuery
