import FilterQuery.Query

namespace FilterQuery

/-- A clause adds a condition, or a group of conditions, to a query. -/
inductive Clause where
  | comparison (field : String) (operator : Operator) (value : Value)
  | exclusion (field : String) (value : Value)
  | anyOf (field : String) (values : List Value)
  | noneOf (field : String) (values : List Value)
deriving DecidableEq

inductive ClauseKind where
  | comparison
  | exclusion
  | anyOf
  | noneOf
deriving DecidableEq, Repr

namespace ClauseKind

/-- The name of the kind in a document. -/
def name : ClauseKind → String
  | .comparison => "where"
  | .exclusion => "where_not"
  | .anyOf => "where_in"
  | .noneOf => "where_not_in"

def all : List ClauseKind := [.comparison, .exclusion, .anyOf, .noneOf]

def ofName? (name : String) : Option ClauseKind := all.find? fun kind => kind.name == name

theorem ofName?_name (kind : ClauseKind) : ofName? kind.name = some kind := by
  cases kind <;> decide

end ClauseKind

namespace Clause

def kind : Clause → ClauseKind
  | .comparison .. => .comparison
  | .exclusion .. => .exclusion
  | .anyOf .. => .anyOf
  | .noneOf .. => .noneOf

/-- Applies the clause to a query. Only the operator of a comparison can be refused. -/
def apply (query : Query) : Clause → Attempt Inapplicable
  | .comparison field operator value => query.add ⟨field, operator, value⟩
  | .exclusion field value => ⟨query.excludes field value, none⟩
  | .anyOf field values => ⟨query.anyOf field values, none⟩
  | .noneOf field values => ⟨query.noneOf field values, none⟩

/-- Applies clauses in order up to the first that is refused. -/
def applyAll (query : Query) : List Clause → Attempt Inapplicable
  | [] => ⟨query, none⟩
  | clause :: rest =>
      let attempt := clause.apply query
      match attempt.failure with
      | none => applyAll attempt.query rest
      | some _ => attempt

@[simp] theorem applyAll_nil (query : Query) : applyAll query [] = ⟨query, none⟩ := rfl

@[simp] theorem applyAll_singleton (query : Query) (clause : Clause) :
    applyAll query [clause] = clause.apply query := by
  rw [applyAll]
  rcases clause.apply query with ⟨next, _ | cause⟩ <;> rfl

theorem applyAll_append (query : Query) (first second : List Clause) :
    applyAll query (first ++ second) =
      match (applyAll query first).failure with
      | none => applyAll (applyAll query first).query second
      | some _ => applyAll query first := by
  induction first generalizing query with
  | nil => rfl
  | cons clause rest ih =>
      simp only [List.cons_append, applyAll]
      cases refused : (clause.apply query).failure with
      | none => exact ih _
      | some cause => simp only [refused]

end Clause

structure Document where
  clauses : List Clause
deriving DecidableEq

namespace Document

/-- Applies the clauses of the document to a query. -/
def apply (document : Document) (query : Query) : Attempt Inapplicable :=
  Clause.applyAll query document.clauses

def filter (document : Document) : Except Inapplicable String :=
  let attempt := document.apply .empty
  match attempt.failure with
  | none => .ok attempt.query.filter
  | some cause => .error cause

end Document

end FilterQuery
