import FilterQuery.Proofs.Query.Piece

/-!
The replay of a document on a query that calls have built. The main statement says that a document
applies its clauses one after another up to the first refused one, which alone decides whether and
why it fails, and that the filter of the document is joined to the filter it meets.
-/

namespace FilterQuery

/-- The query that clauses in a row leave, each applied to what the one before it leaves. -/
def Clause.afterAll (query : Query) (clauses : List Clause) : Query :=
  clauses.foldl (fun query clause => (clause.apply query).query) query

/-- What a document does to a query. -/
structure Document.Replay (document : Document) (query : Query) : Prop where
  /-- From every query the document fails with the refusal of its first refused clause. -/
  failure : ∀ start cause, (document.apply start).failure = some cause ↔
    ∃ before clause after, document.clauses = before ++ clause :: after ∧
      clause.refusal? = some cause ∧ ∀ earlier ∈ before, earlier.refusal? = none
  /-- Without a refused clause, all clauses are applied one after another. -/
  whole : (∀ clause ∈ document.clauses, clause.refusal? = none) →
    document.apply query = ⟨Clause.afterAll query document.clauses, none⟩
  /-- Otherwise exactly the clauses in front of the first refused one are applied. -/
  stopped : ∀ before clause after cause, document.clauses = before ++ clause :: after →
    clause.refusal? = some cause → (∀ earlier ∈ before, earlier.refusal? = none) →
      document.apply query = ⟨Clause.afterAll query before, some cause⟩
  /-- The applied clauses put their pieces behind those of the query. -/
  built : ∀ pieces, query = .ofPieces pieces →
    (document.apply query).query = .ofPieces (pieces ++ Clause.pieces document.clauses)
  /-- A clause that fails leaves the query as it was. -/
  clause_unchanged : ∀ (clause : Clause) (start : Query), (clause.apply start).failure ≠ none →
    (clause.apply start).query = start
  /-- A condition that fails leaves the query as it was. -/
  condition_unchanged : ∀ (condition : Condition) (start : Query),
    (start.add condition).failure ≠ none → (start.add condition).query = start
  /-- The document has no filter of its own exactly if it fails, and for the same cause. -/
  filter_error : ∀ cause, document.filter = .error cause ↔
    (document.apply query).failure = some cause
  /-- The filter of the document is joined to the filter of the query. -/
  filter_ok : ∀ text, document.filter = .ok text →
    document.apply query = ⟨Clause.afterAll query document.clauses, none⟩ ∧
      (Clause.afterAll query document.clauses).filter =
        if query.filter = "" then text
        else if text = "" then query.filter
        else query.filter ++ " AND " ++ text
  /-- A document in two parts is the second part behind the first, unless the first fails. -/
  append : ∀ first second, document.clauses = first ++ second →
    document.apply query =
      match ((Document.mk first).apply query).failure with
      | none => (Document.mk second).apply (Clause.afterAll query first)
      | some _ => (Document.mk first).apply query

namespace Clause

/-- Clauses of which none is refused are applied one after another. -/
theorem applyAll_eq_afterAll {clauses : List Clause}
    (proper : ∀ clause ∈ clauses, clause.refusal? = none) (query : Query) :
    applyAll query clauses = ⟨afterAll query clauses, none⟩ := by
  induction clauses generalizing query with
  | nil => rfl
  | cons clause rest ih =>
      obtain ⟨first, others⟩ := List.forall_mem_cons.mp proper
      have unfailed : (clause.apply query).failure = none := by rw [failure_apply, first]
      simp only [applyAll, unfailed]
      exact ih others _

/-- A refused clause stops clauses in a row with what the ones in front of it leave. -/
theorem applyAll_append_of_refused {before : List Clause}
    (proper : ∀ clause ∈ before, clause.refusal? = none) {clause : Clause} {cause : Inapplicable}
    (refused : clause.refusal? = some cause) (after : List Clause) (query : Query) :
    applyAll query (before ++ clause :: after) = ⟨afterAll query before, some cause⟩ := by
  rw [applyAll_append, applyAll_eq_afterAll proper]
  simp only [applyAll, apply_of_refusal?_eq_some refused]

end Clause

namespace Document

/-- A document fails with the first refusal in it, from every query. -/
theorem failure_apply (document : Document) (query : Query) :
    (document.apply query).failure = document.clauses.findSome? Clause.refusal? :=
  Clause.failure_applyAll query document.clauses

/-- A document that does not fail applies its clauses one after another. -/
theorem apply_of_failure_eq_none {document : Document} {query : Query}
    (unfailed : (document.apply query).failure = none) :
    document.apply query = ⟨Clause.afterAll query document.clauses, none⟩ := by
  rw [failure_apply, List.findSome?_eq_none_iff] at unfailed
  exact Clause.applyAll_eq_afterAll unfailed query

/-- A document puts its pieces behind those of the query. -/
theorem query_apply_ofPieces (document : Document) (pieces : List Piece) :
    (document.apply (.ofPieces pieces)).query =
      .ofPieces (pieces ++ Clause.pieces document.clauses) :=
  Query.applyAll_ofPieces pieces document.clauses

/-- The filter of a document, or the first refusal in it. -/
theorem filter_eq (document : Document) :
    document.filter =
      match document.clauses.findSome? Clause.refusal? with
      | none => .ok (Query.ofPieces (Clause.pieces document.clauses)).filter
      | some cause => .error cause := by
  have built := document.query_apply_ofPieces []
  rw [Query.ofPieces_nil, List.nil_append] at built
  cases refused : document.clauses.findSome? Clause.refusal? with
  | none => simp only [filter, failure_apply, refused, built]
  | some cause => simp only [filter, failure_apply, refused]

/-- A document does to every query that calls have built what a replay is to do. -/
theorem replay_runAll (document : Document) (calls : List Call) :
    document.Replay (Call.runAll .empty calls) := by
  rw [Call.runAll_empty]
  generalize calls.flatMap Call.pieces = pieces
  constructor
  case failure =>
    intro start cause
    rw [failure_apply, List.findSome?_eq_some_iff]
  case whole =>
    intro proper
    exact Clause.applyAll_eq_afterAll proper _
  case stopped =>
    intro before clause after cause split refused proper
    rw [apply, split]
    exact Clause.applyAll_append_of_refused proper refused after _
  case built =>
    intro others same
    rw [same]
    exact document.query_apply_ofPieces others
  case clause_unchanged => exact fun _ _ => Clause.query_apply_of_failure
  case condition_unchanged => exact fun _ _ => Query.query_add_of_failure
  case filter_error =>
    intro cause
    rw [filter_eq, failure_apply]
    cases document.clauses.findSome? Clause.refusal? <;> simp
  case filter_ok =>
    intro text given
    rw [filter_eq] at given
    cases refused : document.clauses.findSome? Clause.refusal? with
    | some cause =>
        rw [refused] at given
        cases given
    | none =>
        rw [refused] at given
        cases given
        have unfailed := (document.failure_apply (.ofPieces pieces)).trans refused
        have applied := apply_of_failure_eq_none unfailed
        have built : Clause.afterAll (.ofPieces pieces) document.clauses = _ :=
          applied ▸ document.query_apply_ofPieces pieces
        exact ⟨applied, built ▸ Query.filter_ofPieces_append pieces _⟩
  case append =>
    intro first second split
    rw [apply, split, Clause.applyAll_append]
    cases failed : ((Document.mk first).apply (.ofPieces pieces)).failure with
    | none =>
        have applied := apply_of_failure_eq_none failed
        rw [apply] at applied
        rw [applied]
        rfl
    | some cause =>
        rw [apply] at failed
        rw [failed]
        rfl

/-- The clause in front of the refused one stays applied. -/
example :
    let attempt := (Document.mk [.comparison "brand" .equal (.text "acme"),
      .comparison "name" .atLeast (.text "lorem"), .exclusion "color" (.text "red")]).apply .empty
    attempt.query.filter = "brand:acme" ∧ attempt.failure = some ⟨.atLeast, .string⟩ := by
  decide +kernel

end Document

end FilterQuery
