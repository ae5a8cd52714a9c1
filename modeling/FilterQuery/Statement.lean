import FilterQuery.Operator
import FilterQuery.Value

namespace FilterQuery

structure Condition where
  field : String
  operator : Operator
  value : Value

/-- An operator and the kind of a term that it cannot be applied to. -/
structure Inapplicable where
  operator : Operator
  kind : Kind
deriving DecidableEq, Repr

/-- An operator admits a kind of terms: ordering operators admit numbers only. -/
def Operator.admits (operator : Operator) (kind : Kind) : Bool :=
  !operator.isOrdering || kind == .number

/-- Checks that the operator can be applied to the term. -/
def Operator.check (operator : Operator) (term : Term) : Except Inapplicable Unit :=
  if operator.admits term.kind then .ok () else .error ⟨operator, term.kind⟩

/-- A statement of a filter: a named field, an operator and a term that the operator admits. -/
structure Statement where
  field : String
  operator : Operator
  term : Term
  named : field ≠ ""
  admitted : operator.admits term.kind = true
deriving DecidableEq

namespace Statement

/-- The text of a statement. Numbers stand behind the operator; other terms are matched or, for
the operator of inequality, excluded. -/
def text (statement : Statement) : List Char :=
  let field := statement.field.toList
  match statement.term, statement.operator with
  | .number number, operator =>
      field ++ ' ' :: operator.token.toList ++ ' ' :: number.text
  | term, .notEqual => ['N', 'O', 'T', ' '] ++ field ++ ':' :: term.text
  | term, _ => field ++ ':' :: term.text

end Statement

/-- The statement of a condition, if it has one. An omitted condition is never refused. -/
def Condition.statement? (condition : Condition) : Except Inapplicable (Option Statement) :=
  if named : condition.field = "" then .ok none
  else
    match condition.value.term? with
    | none => .ok none
    | some term =>
        if admitted : condition.operator.admits term.kind = true then
          .ok (some ⟨condition.field, condition.operator, term, named, admitted⟩)
        else .error ⟨condition.operator, term.kind⟩

@[simp] theorem Operator.admits_equal (kind : Kind) : Operator.equal.admits kind = true := rfl

@[simp] theorem Operator.admits_notEqual (kind : Kind) : Operator.notEqual.admits kind = true := rfl

@[simp] theorem Operator.admits_number (operator : Operator) :
    operator.admits .number = true := by
  cases operator <;> rfl

end FilterQuery
