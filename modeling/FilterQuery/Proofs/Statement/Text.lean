import FilterQuery.Statement

namespace FilterQuery.Statement

def isNumeric (statement : Statement) : Bool := statement.term.kind == .number

def head (statement : Statement) : List Char :=
  if statement.isNumeric then
    statement.field.toList ++ ' ' :: statement.operator.token.toList ++ [' ']
  else if statement.operator = .notEqual then
    ['N', 'O', 'T'] ++ ' ' :: statement.field.toList ++ [':']
  else statement.field.toList ++ [':']

/-- A statement is its head and its term. -/
theorem text_eq_head_append (statement : Statement) :
    statement.text = statement.head ++ statement.term.text := by
  rcases statement with ⟨field, operator, term, named, admitted⟩
  cases term <;> cases operator <;> simp [text, head, isNumeric, Term.kind, Term.text]

/-- A field that is named has a character. -/
theorem field_toList_ne_nil (statement : Statement) : statement.field.toList ≠ [] := by
  intro empty
  exact statement.named (String.toList_eq_nil_iff.mp empty)

/-- A head holds a character of the field and the mark behind it. -/
theorem two_le_length_head (statement : Statement) : 2 ≤ statement.head.length := by
  have named := List.length_pos_iff.mpr statement.field_toList_ne_nil
  unfold head
  split
  · simp only [List.length_append, List.length_cons]
    omega
  · split <;> simp only [List.length_append, List.length_cons, List.length_nil] <;> omega

theorem two_le_length_text (statement : Statement) : 2 ≤ statement.text.length := by
  have bound := statement.two_le_length_head
  rw [text_eq_head_append, List.length_append]
  omega

theorem text_ne_nil (statement : Statement) : statement.text ≠ [] := by
  intro empty
  have bound := statement.two_le_length_text
  simp [empty] at bound

end FilterQuery.Statement
