import FilterQuery.Proofs.Clause.Refusal
import FilterQuery.Proofs.Fragment.Joined

namespace FilterQuery

/-- The statement in a fragment, if it is one. -/
def Fragment.content? {α : Type} : Fragment α → Option α
  | .statement content => some content
  | .joint _ | .opening | .closing => none

namespace Query

def statements (query : Query) : List Statement := query.fragments.filterMap Fragment.content?

/-- The query with a group of statements under one joiner. -/
def withGroup (query : Query) (joiner : Joiner) (statements : List Statement) : Query :=
  let parts := statements.map fun statement => [.statement statement]
  ⟨(query.fragments.openGroup ++ Fragments.joined joiner parts).closeGroup⟩

/-- The query with a group of what an operation adds for each of the values, if there are values. What
it adds for a value does not depend on the query. -/
def Groups (operation : Query → Value → Query) (joiner : Joiner) (query : Query)
    (group : List Value → Query) : Prop :=
  ∃ added : Value → List Statement,
    (∀ start value, (operation start value).statements = start.statements ++ added value) ∧
      ∀ values, group values =
        if values = [] then query else query.withGroup joiner (values.flatMap added)

/-- The operations on a field that cannot fail agree with those that can. -/
structure Agrees (query : Query) (field : String) : Prop where
  matching : ∀ value, query.matching field value = query.equals field value
  equals : ∀ value, query.add ⟨field, .equal, value⟩ = ⟨query.equals field value, none⟩
  excludes : ∀ value, query.add ⟨field, .notEqual, value⟩ = ⟨query.excludes field value, none⟩
  exclusion : ∀ value,
    (Clause.exclusion field value).apply query = ⟨query.excludes field value, none⟩
  comparison : ∀ value,
    (Clause.comparison field .notEqual value).apply query = ⟨query.excludes field value, none⟩
  lessThan : ∀ number,
    query.add ⟨field, .less, .number number⟩ = ⟨query.lessThan field number, none⟩
  greaterThan : ∀ number,
    query.add ⟨field, .greater, .number number⟩ = ⟨query.greaterThan field number, none⟩
  anyOf : Groups (fun start value => start.equals field value) .or query (query.anyOf field)
  noneOf : Groups (fun start value => start.excludes field value) .and query (query.noneOf field)

/-- Appending adds the statement, behind a joiner or not. -/
theorem statements_append (query : Query) (statement : Option Statement) :
    (query.append statement).statements = query.statements ++ statement.toList := by
  cases statement with
  | none => simp
  | some statement =>
      unfold append Fragments.append Fragments.attach
      dsimp only
      split <;> simp [statements, List.filterMap_cons, Fragment.content?]

/-- A condition that is not refused is appended. -/
theorem add_of_refusal?_eq_none {condition : Condition} (proper : condition.refusal? = none)
    (query : Query) : query.add condition = ⟨query.append (accepted condition), none⟩ := by
  rw [add_eq, proper]

/-- A group of values holds the statement of each. -/
theorem group_eq_withGroup (query : Query) (field : String) (operator : Operator) (joiner : Joiner)
    {values : List Value} (nonempty : values ≠ []) :
    query.group field operator joiner values =
      query.withGroup joiner
        (values.flatMap fun value => (accepted ⟨field, operator, value⟩).toList) := by
  have filled := Fragments.foldl_append_joined query.fragments.needsJoiner_openGroup joiner
    (fun value => accepted ⟨field, operator, value⟩) values []
  rw [List.map_nil, Fragments.joined_nil, List.append_nil, List.nil_append] at filled
  rw [group, if_neg (by simpa using nonempty), withGroup, filled, List.filterMap_eq_flatMap_toList]

/-- A group of values is built of what the operation with the same operator adds. -/
theorem groups (query : Query) (field : String) (operator : Operator) (joiner : Joiner) :
    Groups (fun start value => start.append (accepted ⟨field, operator, value⟩)) joiner query
      (query.group field operator joiner) := by
  refine ⟨fun value => (accepted ⟨field, operator, value⟩).toList, ?_, ?_⟩
  · intro start value
    exact start.statements_append _
  · intro values
    split
    · rename_i empty
      rw [empty]
      rfl
    · rename_i nonempty
      exact query.group_eq_withGroup field operator joiner nonempty

/-- The operations that cannot fail agree with those that can, for every query and field. -/
theorem agrees (query : Query) (field : String) : query.Agrees field := by
  have plain (operator : Operator) (value : Value) (noOrder : operator.isOrdering = false) :
      query.add ⟨field, operator, value⟩ =
        ⟨query.append (accepted ⟨field, operator, value⟩), none⟩ :=
    add_of_refusal?_eq_none (Condition.refusal?_of_not_ordering noOrder) query
  have numeric (operator : Operator) (number : Number) :
      query.add ⟨field, operator, .number number⟩ =
        ⟨query.append (accepted ⟨field, operator, .number number⟩), none⟩ :=
    add_of_refusal?_eq_none (Condition.refusal?_number field operator number) query
  constructor
  case matching =>
    intro value
    rfl
  case equals =>
    intro value
    exact plain .equal value rfl
  case excludes =>
    intro value
    exact plain .notEqual value rfl
  case exclusion =>
    intro value
    rfl
  case comparison =>
    intro value
    exact plain .notEqual value rfl
  case lessThan =>
    intro number
    exact numeric .less number
  case greaterThan =>
    intro number
    exact numeric .greater number
  case anyOf => exact query.groups field .equal .or
  case noneOf => exact query.groups field .notEqual .and

end Query

end FilterQuery
