import FilterQuery.Proofs.Clause.Refusal
import FilterQuery.Proofs.Fragment.Joined
import FilterQuery.Proofs.Statement.Text
import FilterQuery.Query.Program

/-!
The pieces of a filter: single statements and groups. A query that calls have built is described by
the list of its pieces alone. The main statement says that its filter is the texts of the pieces
with one joiner between two neighbours, and that it is empty only if there are no pieces.
-/

namespace FilterQuery

/-- A piece of a filter is a statement, or a group of statements under one joiner. -/
inductive Piece where
  | single (statement : Statement)
  | group (joiner : Joiner) (statements : List Statement)

namespace Piece

/-- The text of a piece. A group stands between parentheses, whatever it holds. -/
def text : Piece → List Char
  | .single statement => statement.text
  | .group joiner statements =>
      '(' :: List.intercalate joiner.text (statements.map Statement.text) ++ [')']

def fragments : Piece → Fragments Statement
  | .single statement => [.statement statement]
  | .group joiner statements =>
      .opening ::
        Fragments.joined joiner (statements.map fun statement => [.statement statement]) ++
          [.closing]

/-- The piece of a condition, if the condition is neither left out nor refused. -/
def ofCondition? (condition : Condition) : Option Piece :=
  (Query.accepted condition).map .single

/-- The group of the conditions that compare a field with several values. Conditions that are left
out are missing in the group; no values, no group. -/
def ofValues? (field : String) (operator : Operator) (joiner : Joiner) (values : List Value) :
    Option Piece :=
  if values.isEmpty then none
  else some <| .group joiner <|
    values.filterMap fun value => Query.accepted ⟨field, operator, value⟩

/-- Every piece needs a joiner behind it. -/
theorem needsJoiner_fragments (piece : Piece) : piece.fragments.needsJoiner = true := by
  cases piece with
  | single statement => rfl
  | group joiner statements =>
      rw [fragments, Fragments.needsJoiner_append (List.cons_ne_nil _ _)]
      rfl

theorem text_fragments (piece : Piece) :
    piece.fragments.text Statement.text = piece.text := by
  cases piece with
  | single statement => simp [fragments, text, Fragments.text, Fragment.text]
  | group joiner statements =>
      have delimited (inner : Fragments Statement) :
          Fragments.text Statement.text (.opening :: inner ++ [.closing]) =
            '(' :: Fragments.text Statement.text inner ++ [')'] := by
        simp [Fragments.text, Fragment.text]
      have each (statement : Statement) :
          Fragments.text Statement.text [.statement statement] = statement.text := by
        simp [Fragments.text, Fragment.text]
      rw [fragments, delimited, Fragments.text_joined, List.map_map, text]
      congr 4
      funext statement
      exact each statement

theorem text_ne_nil (piece : Piece) : piece.text ≠ [] := by
  cases piece with
  | single statement => exact statement.text_ne_nil
  | group joiner statements => exact List.cons_ne_nil _ _

end Piece

namespace Clause

/-- The piece that a clause puts into a filter, if it puts one. -/
def piece? : Clause → Option Piece
  | .comparison field operator value => Piece.ofCondition? ⟨field, operator, value⟩
  | .exclusion field value => Piece.ofCondition? ⟨field, .notEqual, value⟩
  | .anyOf field values => Piece.ofValues? field .equal .or values
  | .noneOf field values => Piece.ofValues? field .notEqual .and values

/-- The clauses in front of the first that is refused. -/
def effective (clauses : List Clause) : List Clause :=
  clauses.takeWhile fun clause => clause.refusal?.isNone

def pieces (clauses : List Clause) : List Piece := (effective clauses).filterMap piece?

end Clause

namespace Call

/-- The clauses that a call asks for. A line or a document that cannot be read asks for none. -/
def clauses : Call → List Clause
  | .add condition => [.comparison condition.field condition.operator condition.value]
  | .equals field value => [.comparison field .equal value]
  | .excludes field value => [.exclusion field value]
  | .lessThan field bound => [.comparison field .less (.number bound)]
  | .greaterThan field bound => [.comparison field .greater (.number bound)]
  | .anyOf field values => [.anyOf field values]
  | .noneOf field values => [.noneOf field values]
  | .line text =>
      match Clause.ofLine text with
      | .ok clause => [clause]
      | .error _ => []
  | .document markup text =>
      match markup.document text with
      | .ok decoded => decoded.clauses
      | .error _ => []

def pieces (call : Call) : List Piece := Clause.pieces call.clauses

/-- The query after calls in a row. A call that fails does not keep the next from being made. -/
def runAll (query : Query) (calls : List Call) : Query :=
  calls.foldl (fun query call => (call.run query).query) query

end Call

namespace Query

def ofPieces (pieces : List Piece) : Query :=
  ⟨Fragments.joined .and (pieces.map Piece.fragments)⟩

@[simp] theorem ofPieces_nil : ofPieces [] = empty := rfl

theorem needsJoiner_of_mem_fragments (pieces : List Piece) :
    ∀ part ∈ pieces.map Piece.fragments, part.needsJoiner = true := by
  intro part member
  obtain ⟨piece, -, rfl⟩ := List.mem_map.mp member
  exact piece.needsJoiner_fragments

/-- One more piece is put behind the pieces of a query. -/
theorem extend_ofPieces (pieces : List Piece) (piece : Piece) :
    (ofPieces pieces).fragments.extend .and piece.fragments =
      (ofPieces (pieces ++ [piece])).fragments := by
  have step := Fragments.extend_joined Fragments.needsJoiner_nil .and
    (needsJoiner_of_mem_fragments pieces) piece.fragments
  simpa only [List.nil_append, ofPieces, List.map_append, List.map_cons, List.map_nil] using step

/-- A condition that is not refused puts its piece behind the others. -/
theorem append_accepted_ofPieces (pieces : List Piece) (condition : Condition) :
    (ofPieces pieces).append (accepted condition) =
      ofPieces (pieces ++ (Piece.ofCondition? condition).toList) := by
  unfold Piece.ofCondition?
  cases accepted condition with
  | none => simp
  | some statement =>
      have step := extend_ofPieces pieces (.single statement)
      exact congrArg Query.mk step

/-- The values of a group become one piece behind the others. -/
theorem group_ofPieces (pieces : List Piece) (field : String) (operator : Operator)
    (joiner : Joiner) (values : List Value) :
    (ofPieces pieces).group field operator joiner values =
      ofPieces (pieces ++ (Piece.ofValues? field operator joiner values).toList) := by
  unfold group Piece.ofValues?
  split
  · simp
  · have inner := Fragments.foldl_append_joined
      (ofPieces pieces).fragments.needsJoiner_openGroup joiner
      (fun value => accepted ⟨field, operator, value⟩) values []
    simp only [List.map_nil, Fragments.joined_nil, List.append_nil, List.nil_append] at inner
    simp only [inner, Fragments.closeGroup_openGroup_append]
    exact congrArg Query.mk (extend_ofPieces pieces (.group joiner _))

/-- A clause that is not refused puts its piece behind the others. -/
theorem apply_ofPieces (pieces : List Piece) {clause : Clause} (proper : clause.refusal? = none) :
    clause.apply (ofPieces pieces) = ⟨ofPieces (pieces ++ clause.piece?.toList), none⟩ := by
  cases clause with
  | comparison field operator value =>
      simp only [Clause.refusal?] at proper
      simp only [Clause.apply, add_eq, proper, append_accepted_ofPieces, Clause.piece?]
  | exclusion field value => exact congrArg (Attempt.mk · none) (append_accepted_ofPieces pieces _)
  | anyOf field values => exact congrArg (Attempt.mk · none) (group_ofPieces pieces ..)
  | noneOf field values => exact congrArg (Attempt.mk · none) (group_ofPieces pieces ..)

/-- Clauses in a row put their pieces behind the others. -/
theorem applyAll_ofPieces (pieces : List Piece) (clauses : List Clause) :
    (Clause.applyAll (ofPieces pieces) clauses).query =
      ofPieces (pieces ++ Clause.pieces clauses) := by
  induction clauses generalizing pieces with
  | nil => simp [Clause.pieces, Clause.effective]
  | cons clause rest ih =>
      cases refused : clause.refusal? with
      | some cause =>
          have none : Clause.pieces (clause :: rest) = [] := by
            simp [Clause.pieces, Clause.effective, refused]
          simp only [Clause.applyAll, Clause.apply_of_refusal?_eq_some refused, none,
            List.append_nil]
      | none =>
          have first : Clause.pieces (clause :: rest) =
              clause.piece?.toList ++ Clause.pieces rest := by
            simp only [Clause.pieces, Clause.effective]
            rw [List.takeWhile_cons_of_pos (by simp [refused]), List.filterMap_cons]
            cases clause.piece? <;> rfl
          rw [Clause.applyAll, apply_ofPieces pieces refused, first, ← List.append_assoc]
          exact ih _

/-- The filter of a query that holds pieces is made of their texts. -/
theorem filter_ofPieces (pieces : List Piece) :
    (ofPieces pieces).filter =
      String.ofList (List.intercalate Joiner.and.text (pieces.map Piece.text)) := by
  rw [filter, ofPieces, Fragments.text_joined, List.map_map]
  congr 3
  funext piece
  exact piece.text_fragments

/-- A filter is the empty text only without pieces. -/
theorem filter_ofPieces_eq_empty (pieces : List Piece) :
    (ofPieces pieces).filter = "" ↔ pieces = [] := by
  rw [filter_ofPieces, String.ofList_eq_empty_iff]
  cases pieces with
  | nil => simp
  | cons piece rest =>
      cases rest <;> simp [List.intercalate_cons_cons, piece.text_ne_nil]

/-- The filter of pieces behind others joins the two filters, unless one of them is empty. -/
theorem filter_ofPieces_append (first second : List Piece) :
    (ofPieces (first ++ second)).filter =
      if (ofPieces first).filter = "" then (ofPieces second).filter
      else if (ofPieces second).filter = "" then (ofPieces first).filter
      else (ofPieces first).filter ++ " AND " ++ (ofPieces second).filter := by
  simp only [filter_ofPieces_eq_empty]
  split
  · rename_i empty
    rw [empty, List.nil_append]
  · rename_i firstNonempty
    split
    · rename_i empty
      rw [empty, List.append_nil]
    · rename_i secondNonempty
      rw [filter_ofPieces, filter_ofPieces, filter_ofPieces, List.map_append,
        Fragments.intercalate_append _ (by simpa using firstNonempty)
          (by simpa using secondNonempty), String.ofList_append, String.ofList_append]
      rfl

end Query

namespace Call

/-- A comparison that is not refused appends its statement. -/
theorem query_applyAll_comparison (query : Query) {condition : Condition}
    (proper : condition.refusal? = none) :
    (Clause.applyAll query
        [.comparison condition.field condition.operator condition.value]).query =
      query.append (Query.accepted condition) := by
  simp only [Clause.applyAll_singleton, Clause.apply, Query.add_eq, proper]

/-- A call does what the clauses do that it asks for. -/
theorem query_run (query : Query) (call : Call) :
    (call.run query).query = (Clause.applyAll query call.clauses).query := by
  cases call with
  | add condition =>
      simp only [run, clauses, Clause.applyAll_singleton, Clause.apply, Attempt.query_mapFailure]
  | equals field value =>
      exact (query_applyAll_comparison query (Condition.refusal?_of_not_ordering rfl)).symm
  | excludes field value => rfl
  | lessThan field bound =>
      exact (query_applyAll_comparison query (Condition.refusal?_number ..)).symm
  | greaterThan field bound =>
      exact (query_applyAll_comparison query (Condition.refusal?_number ..)).symm
  | anyOf field values => rfl
  | noneOf field values => rfl
  | line text =>
      simp only [run, clauses]
      cases Clause.ofLine text with
      | error cause => rfl
      | ok clause => simp only [Clause.applyAll_singleton, Attempt.query_mapFailure]
  | document markup text =>
      simp only [run, clauses]
      cases markup.document text <;> rfl

/-- A call puts its pieces behind the others. -/
theorem run_ofPieces (pieces : List Piece) (call : Call) :
    (call.run (.ofPieces pieces)).query = .ofPieces (pieces ++ call.pieces) := by
  rw [query_run, Query.applyAll_ofPieces, Call.pieces]

/-- Calls in a row put their pieces behind the others. -/
theorem runAll_ofPieces (pieces : List Piece) (calls : List Call) :
    runAll (.ofPieces pieces) calls = .ofPieces (pieces ++ calls.flatMap Call.pieces) := by
  induction calls generalizing pieces with
  | nil => simp [runAll]
  | cons call rest ih =>
      rw [runAll, List.foldl_cons, run_ofPieces]
      have tail := ih (pieces ++ call.pieces)
      rw [runAll] at tail
      rw [tail, List.flatMap_cons, List.append_assoc]

/-- Calls in a row on the empty query give the query that holds their pieces. -/
theorem runAll_empty (calls : List Call) :
    runAll .empty calls = .ofPieces (calls.flatMap Call.pieces) :=
  runAll_ofPieces [] calls

end Call

end FilterQuery
