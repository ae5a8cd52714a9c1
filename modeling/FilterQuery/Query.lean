import FilterQuery.Fragment
import FilterQuery.Statement

namespace FilterQuery

structure Query where
  fragments : Fragments Statement

/-- The query that an operation leaves, and why the operation failed, if it did. -/
@[ext] structure Attempt (ε : Type) where
  query : Query
  failure : Option ε

namespace Attempt

variable {ε δ : Type}

/-- The attempt with its failure in other terms. -/
def mapFailure (convert : ε → δ) (attempt : Attempt ε) : Attempt δ :=
  ⟨attempt.query, attempt.failure.map convert⟩

@[simp] theorem query_mapFailure (convert : ε → δ) (attempt : Attempt ε) :
    (attempt.mapFailure convert).query = attempt.query := rfl

@[simp] theorem failure_mapFailure (convert : ε → δ) (attempt : Attempt ε) :
    (attempt.mapFailure convert).failure = attempt.failure.map convert := rfl

end Attempt

namespace Query

def empty : Query := ⟨[]⟩

instance : Inhabited Query := ⟨empty⟩

def isEmpty (query : Query) : Bool := query.fragments.isEmpty

def filter (query : Query) : String :=
  String.ofList (query.fragments.text Statement.text)

/-- The query with a statement, if there is one. -/
def append (query : Query) (statement : Option Statement) : Query :=
  ⟨query.fragments.append .and statement⟩

/-- Adds a condition. A condition that is refused is not added. -/
def add (query : Query) (condition : Condition) : Attempt Inapplicable :=
  match condition.statement? with
  | .ok statement => ⟨query.append statement, none⟩
  | .error cause => ⟨query, some cause⟩

/-- The statement of a condition that is not refused. -/
def accepted (condition : Condition) : Option Statement :=
  match condition.statement? with
  | .ok statement => statement
  | .error _ => none

/-- The query with the condition that the field has the value. -/
def equals (query : Query) (field : String) (value : Value) : Query :=
  query.append (accepted ⟨field, .equal, value⟩)

/-- The query with the condition that the field has the value, where no operator is named. -/
def matching (query : Query) (field : String) (value : Value) : Query :=
  query.equals field value

/-- The query with the condition that the field does not have the value. -/
def excludes (query : Query) (field : String) (value : Value) : Query :=
  query.append (accepted ⟨field, .notEqual, value⟩)

/-- The query with the condition that the field is less than the number. -/
def lessThan (query : Query) (field : String) (number : Number) : Query :=
  query.append (accepted ⟨field, .less, .number number⟩)

/-- The query with the condition that the field is greater than the number. -/
def greaterThan (query : Query) (field : String) (number : Number) : Query :=
  query.append (accepted ⟨field, .greater, .number number⟩)

/-- The query with a group that holds one condition for each value. No values, no group. -/
def group (query : Query) (field : String) (operator : Operator) (joiner : Joiner)
    (values : List Value) : Query :=
  if values.isEmpty then query
  else
    let fragments := values.foldl
      (fun fragments value => fragments.append joiner (accepted ⟨field, operator, value⟩))
      query.fragments.openGroup
    ⟨fragments.closeGroup⟩

/-- The query with the condition that the field has one of the values. -/
def anyOf (query : Query) (field : String) (values : List Value) : Query :=
  query.group field .equal .or values

/-- The query with the condition that the field has none of the values. -/
def noneOf (query : Query) (field : String) (values : List Value) : Query :=
  query.group field .notEqual .and values

@[simp] theorem append_none (query : Query) : query.append none = query := rfl

@[simp] theorem isEmpty_empty : empty.isEmpty = true := rfl

@[simp] theorem filter_empty : empty.filter = "" := rfl

@[simp] theorem anyOf_nil (query : Query) (field : String) :
    query.anyOf field [] = query := rfl

@[simp] theorem noneOf_nil (query : Query) (field : String) :
    query.noneOf field [] = query := rfl

end Query

end FilterQuery
