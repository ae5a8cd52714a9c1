import FilterQuery.Proofs.Query.Piece
import FilterQuery.Proofs.Statement.Reading

namespace FilterQuery

open Text (EndsRow EndsWord SelfDelimiting)

namespace Piece

/-- Two pieces look the same: both are statements with one reading, or both are groups of
statements with the same readings in the same order. -/
inductive Alike : Piece → Piece → Prop where
  | single {first second : Statement} (same : first.reading = second.reading) :
      Alike (.single first) (.single second)
  | group {joiner₁ joiner₂ : Joiner} {first second : List Statement}
      (same : List.Forall₂ (fun one other => one.reading = other.reading) first second) :
      Alike (.group joiner₁ first) (.group joiner₂ second)

/-- A piece is plain if all its statements are. -/
def IsPlain : Piece → Prop
  | .single statement => statement.IsPlain
  | .group _ statements => ∀ statement ∈ statements, statement.IsPlain

theorem isPlain_of_ofCondition? {condition : Condition} (field : PlainField condition.field)
    (value : condition.value.IsPlain) {piece : Piece}
    (found : ofCondition? condition = some piece) : piece.IsPlain := by
  obtain ⟨statement, accepted, rfl⟩ := Option.map_eq_some_iff.mp found
  exact Statement.isPlain_of_accepted field value accepted

theorem isPlain_of_ofValues? {field : String} {operator : Operator} {joiner : Joiner}
    {values : List Value} (plainField : PlainField field)
    (plainValues : ∀ value ∈ values, value.IsPlain) {piece : Piece}
    (found : ofValues? field operator joiner values = some piece) : piece.IsPlain := by
  unfold ofValues? at found
  split at found
  · cases found
  · cases found
    intro statement member
    obtain ⟨value, inside, accepted⟩ := List.mem_filterMap.mp member
    exact Statement.isPlain_of_accepted plainField (plainValues value inside) accepted

/-- A group cannot be taken for a statement. -/
theorem group_append_ne_single {statement : Statement} (plain : statement.IsPlain)
    (joiner : Joiner) (statements : List Statement) (rest₁ rest₂ : List Char) :
    text (.single statement) ++ rest₁ ≠ text (.group joiner statements) ++ rest₂ := by
  intro equal
  obtain ⟨c, more, split, inside⟩ := Statement.exists_text_eq_cons plain
  rw [text, text, split, List.cons_append, List.cons_append, List.cons_append,
    List.cons.injEq] at equal
  rw [equal.1, Clause.isFieldChar_mark.2.2.1] at inside
  exact Bool.false_ne_true inside

/-- Plain pieces delimit themselves: what a piece looks like is known from the start of a row. -/
theorem selfDelimiting : SelfDelimiting text IsPlain Alike where
  starts := by
    intro piece plain rest ends
    cases piece with
    | single statement => exact Statement.selfDelimiting.starts plain rest ends
    | group joiner statements => exact absurd (ends '(' rfl) (by decide)
  split := by
    intro first second firstPlain secondPlain rest₁ rest₂ ends₁ ends₂ equal
    cases first with
    | single first =>
        cases second with
        | single second =>
            obtain ⟨same, rest⟩ :=
              Statement.selfDelimiting.split firstPlain secondPlain ends₁ ends₂ equal
            exact ⟨.single same, rest⟩
        | group joiner statements =>
            exact absurd equal (group_append_ne_single firstPlain _ _ _ _)
    | group joiner₁ statements₁ =>
        cases second with
        | single second => exact absurd equal.symm (group_append_ne_single secondPlain _ _ _ _)
        | group joiner₂ statements₂ =>
            simp only [text, List.cons_append, List.append_assoc, List.cons.injEq,
              true_and] at equal
            have closing (rest : List Char) : EndsRow ([')'] ++ rest) := by
              simp [EndsRow]
            obtain ⟨same, rest⟩ := Statement.selfDelimiting.forall₂_of_intercalate
              (closing rest₁) (closing rest₂) firstPlain secondPlain equal
            exact ⟨.group same, (List.cons.inj rest).2⟩

end Piece

namespace Clause

def field : Clause → String
  | .comparison field _ _ | .exclusion field _ | .anyOf field _ | .noneOf field _ => field

def values : Clause → List Value
  | .comparison _ _ value | .exclusion _ value => [value]
  | .anyOf _ values | .noneOf _ values => values

/-- A clause is plain if its field and its values are. -/
structure IsPlain (clause : Clause) : Prop where
  field : PlainField clause.field
  values : ∀ value ∈ clause.values, value.IsPlain

instance (clause : Clause) : Decidable clause.IsPlain :=
  decidable_of_iff (PlainField clause.field ∧ ∀ value ∈ clause.values, value.IsPlain)
    ⟨fun ⟨field, values⟩ => ⟨field, values⟩, fun ⟨field, values⟩ => ⟨field, values⟩⟩

/-- The piece of a plain clause is plain. -/
theorem isPlain_of_piece? {clause : Clause} (plain : clause.IsPlain) {piece : Piece}
    (found : clause.piece? = some piece) : piece.IsPlain := by
  obtain ⟨field, values⟩ := plain
  cases clause with
  | comparison name operator value =>
      exact Piece.isPlain_of_ofCondition? field (values value (List.mem_singleton_self _)) found
  | exclusion name value =>
      exact Piece.isPlain_of_ofCondition? field (values value (List.mem_singleton_self _)) found
  | anyOf name row => exact Piece.isPlain_of_ofValues? field values found
  | noneOf name row => exact Piece.isPlain_of_ofValues? field values found

end Clause

namespace Call

/-- A call is plain if all clauses are that it asks for. -/
def IsPlain (call : Call) : Prop := ∀ clause ∈ call.clauses, clause.IsPlain

instance (call : Call) : Decidable call.IsPlain :=
  inferInstanceAs (Decidable (∀ clause ∈ call.clauses, clause.IsPlain))

/-- The pieces of plain calls are plain. -/
theorem isPlain_of_mem_pieces {calls : List Call} (plain : ∀ call ∈ calls, call.IsPlain) :
    ∀ piece ∈ calls.flatMap Call.pieces, piece.IsPlain := by
  intro piece member
  obtain ⟨call, made, inside⟩ := List.mem_flatMap.mp member
  obtain ⟨clause, effective, found⟩ := List.mem_filterMap.mp inside
  have asked : clause ∈ call.clauses := (List.takeWhile_prefix _).subset effective
  exact Clause.isPlain_of_piece? (plain call made clause asked) found

/-- Two runs of plain calls with the same filter have pieces that look the same, one by one. -/
theorem alike_pieces_of_filter_eq {first second : List Call}
    (firstPlain : ∀ call ∈ first, call.IsPlain) (secondPlain : ∀ call ∈ second, call.IsPlain)
    (same : (runAll .empty first).filter = (runAll .empty second).filter) :
    List.Forall₂ Piece.Alike (first.flatMap Call.pieces) (second.flatMap Call.pieces) := by
  rw [runAll_empty, runAll_empty, Query.filter_ofPieces, Query.filter_ofPieces,
    String.ofList_inj] at same
  have ends : EndsRow [] := by simp [EndsRow]
  have equal := congrArg (· ++ []) same
  exact (Piece.selfDelimiting.forall₂_of_intercalate ends ends
    (isPlain_of_mem_pieces firstPlain) (isPlain_of_mem_pieces secondPlain) equal).1

/-- A number given as a text and a value that is left out cannot be seen in a filter, and a joiner
inside a text is not taken for one between conditions. -/
theorem alike_pieces_of_joiner_in_text :
    let first := [add ⟨"AND", .equal, .text "5"⟩, anyOf "b" [.text "p AND q", .boolean true]]
    let second := [equals "AND" (.number (.int 5)), lessThan "" (.int 7),
      anyOf "b" [.text "p AND q", .text "", .text "true"]]
    (∀ call ∈ first, call.IsPlain) ∧ (∀ call ∈ second, call.IsPlain) ∧
      (runAll .empty first).filter = (runAll .empty second).filter ∧
      List.Forall₂ Piece.Alike (first.flatMap Call.pieces) (second.flatMap Call.pieces) := by
  have firstPlain : ∀ call ∈ [add ⟨"AND", .equal, .text "5"⟩,
      anyOf "b" [.text "p AND q", .boolean true]], call.IsPlain := by decide +kernel
  have secondPlain : ∀ call ∈ [equals "AND" (.number (.int 5)), lessThan "" (.int 7),
      anyOf "b" [.text "p AND q", .text "", .text "true"]], call.IsPlain := by decide +kernel
  have same : (runAll .empty [add ⟨"AND", .equal, .text "5"⟩,
        anyOf "b" [.text "p AND q", .boolean true]]).filter =
      (runAll .empty [equals "AND" (.number (.int 5)), lessThan "" (.int 7),
        anyOf "b" [.text "p AND q", .text "", .text "true"]]).filter := by decide +kernel
  exact ⟨firstPlain, secondPlain, same, alike_pieces_of_filter_eq firstPlain secondPlain same⟩

end Call

end FilterQuery
