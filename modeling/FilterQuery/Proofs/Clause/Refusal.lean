import FilterQuery.Clause.Basic

namespace FilterQuery

/-- An ordering operator on a named field refuses a term that is not a number. -/
def Condition.refusal? (condition : Condition) : Option Inapplicable :=
  match condition.value.term? with
  | none => none
  | some term =>
      if condition.field ≠ "" ∧ condition.operator.isOrdering = true ∧ term.kind ≠ .number then
        some ⟨condition.operator, term.kind⟩
      else none

/-- Only a comparison can be refused. -/
def Clause.refusal? : Clause → Option Inapplicable
  | .comparison field operator value => Condition.refusal? ⟨field, operator, value⟩
  | .exclusion .. | .anyOf .. | .noneOf .. => none

/-- An operator that admits a kind either has no order or meets a number. -/
theorem Operator.admits_eq_false {operator : Operator} {kind : Kind} :
    operator.admits kind = false ↔ operator.isOrdering = true ∧ kind ≠ .number := by
  cases operator <;> cases kind <;> decide

namespace Condition

/-- A condition is refused exactly for its refusal, and otherwise gives its statement. -/
theorem statement?_eq (condition : Condition) :
    condition.statement? =
      match condition.refusal? with
      | some cause => .error cause
      | none => .ok (Query.accepted condition) := by
  by_cases unnamed : condition.field = ""
  · have empty : condition.statement? = .ok none := by simp [statement?, unnamed]
    have proper : condition.refusal? = none := by
      unfold refusal?
      split <;> simp [unnamed]
    simp only [proper, Query.accepted, empty]
  · cases found : condition.value.term? with
    | none =>
        have empty : condition.statement? = .ok none := by simp [statement?, unnamed, found]
        have proper : condition.refusal? = none := by simp [refusal?, found]
        simp only [proper, Query.accepted, empty]
    | some term =>
        cases admitted : condition.operator.admits term.kind with
        | true =>
            have ordered : ¬(condition.operator.isOrdering = true ∧ term.kind ≠ .number) := by
              rw [← Operator.admits_eq_false, admitted]
              decide
            have proper : condition.refusal? = none := by
              simp only [refusal?, found]
              exact if_neg fun holds => ordered holds.2
            simp [proper, Query.accepted, statement?, unnamed, found, admitted]
        | false =>
            have refused : condition.refusal? = some ⟨condition.operator, term.kind⟩ := by
              simp only [refusal?, found]
              exact if_pos ⟨unnamed, Operator.admits_eq_false.mp admitted⟩
            simp [refused, statement?, unnamed, found, admitted]

/-- A condition without an order is never refused. -/
theorem refusal?_of_not_ordering {condition : Condition}
    (plain : condition.operator.isOrdering = false) : condition.refusal? = none := by
  unfold refusal?
  split <;> simp [plain]

/-- A condition on a number is never refused. -/
theorem refusal?_number (field : String) (operator : Operator) (number : Number) :
    refusal? ⟨field, operator, .number number⟩ = none := by
  cases finite : number.isFinite <;> simp [refusal?, Value.term?, finite, Term.kind]

end Condition

namespace Query

/-- Adding a condition fails for its refusal and leaves the query as it was, or appends the
statement of the condition. -/
theorem add_eq (query : Query) (condition : Condition) :
    query.add condition =
      match condition.refusal? with
      | some cause => ⟨query, some cause⟩
      | none => ⟨query.append (accepted condition), none⟩ := by
  rw [add, condition.statement?_eq]
  cases condition.refusal? <;> rfl

/-- Adding a condition fails for its refusal. -/
theorem failure_add (query : Query) (condition : Condition) :
    (query.add condition).failure = condition.refusal? := by
  rw [add_eq]
  cases condition.refusal? <;> rfl

/-- A condition that is refused leaves the query as it was. -/
theorem query_add_of_failure {query : Query} {condition : Condition}
    (failed : (query.add condition).failure ≠ none) : (query.add condition).query = query := by
  rw [failure_add] at failed
  obtain ⟨cause, refused⟩ := Option.ne_none_iff_exists'.mp failed
  rw [add_eq, refused]

end Query

namespace Clause

/-- A clause fails for its refusal on every query. -/
theorem failure_apply (query : Query) (clause : Clause) :
    (clause.apply query).failure = clause.refusal? := by
  cases clause with
  | comparison field operator value => exact query.failure_add _
  | exclusion | anyOf | noneOf => rfl

/-- A clause that fails leaves the query as it was. -/
theorem query_apply_of_failure {query : Query} {clause : Clause}
    (failed : (clause.apply query).failure ≠ none) : (clause.apply query).query = query := by
  cases clause with
  | comparison field operator value => exact Query.query_add_of_failure failed
  | exclusion | anyOf | noneOf => exact absurd rfl failed

/-- A clause with a refusal does nothing else than fail for it. -/
theorem apply_of_refusal?_eq_some {clause : Clause} {cause : Inapplicable}
    (refused : clause.refusal? = some cause) (query : Query) :
    clause.apply query = ⟨query, some cause⟩ := by
  have failed := (failure_apply query clause).trans refused
  exact Attempt.ext (query_apply_of_failure (by simp [failed])) failed

/-- Clauses in a row fail with the first refusal among them, from every query. -/
theorem failure_applyAll (query : Query) (clauses : List Clause) :
    (applyAll query clauses).failure = clauses.findSome? refusal? := by
  induction clauses generalizing query with
  | nil => rfl
  | cons clause rest ih =>
      have own := failure_apply query clause
      simp only [applyAll, List.findSome?_cons]
      cases refused : clause.refusal? with
      | some cause => simp only [own, refused]
      | none => simp only [own, refused, ih]

end Clause

end FilterQuery
