import FilterQuery.Failure
import FilterQuery.Proofs.Clause.Line
import FilterQuery.Proofs.Text.Pattern

/-!
The pattern of a line. The operator that is taken from a text has the longest spelling that the text
starts with. The main statement says that reading a line gives what a search with backtracking for
the pattern gives, where the operator is read from the spelling that the search has found.
-/

namespace FilterQuery

namespace Text

/-- What is left of the end of a text is left of the text, too. -/
theorem mem_trimStart_append {c : Char} {rest : List Char} (member : c ∈ trimStart rest)
    (front : List Char) : c ∈ trimStart (front ++ rest) := by
  rw [trimStart, List.dropWhile_append]
  split
  · exact member
  · exact List.mem_append_right _ ((List.dropWhile_sublist _).subset member)

end Text

namespace Clause

open Text (AllBlank isBlank trimStart trimEnd trim capture?)

/-- The spellings of operators on a line, in the order in which they are looked for. -/
def spellings : List (List Char) :=
  [['<', '='], ['>', '='], ['!', '='], ['=', '='], ['<', '>'], ['<'], ['>'], ['=']]

theorem spellings_eq : spellings = lineOperators.map Prod.fst := rfl

theorem mem_spellings_iff {spelling : List Char} :
    spelling ∈ spellings ↔ ∃ operator, (spelling, operator) ∈ lineOperators := by
  rw [spellings_eq, List.mem_map]
  constructor
  · rintro ⟨⟨_, operator⟩, entry, rfl⟩
    exact ⟨operator, entry⟩
  · rintro ⟨operator, entry⟩
    exact ⟨(spelling, operator), entry, rfl⟩

/-- An operator can be read from each of its spellings on a line. -/
theorem read_of_mem_lineOperators {spelling : List Char} {operator : Operator}
    (listed : (spelling, operator) ∈ lineOperators) :
    Operator.read (String.ofList spelling) = .ok operator := by
  have known : ∀ entry ∈ lineOperators,
      Operator.read? (String.ofList entry.1) = some entry.2 := by decide
  rw [Operator.read, known (spelling, operator) listed]

/-- The operator that is taken has the first spelling that the text starts with, and it is the
longest one: the others are beginnings of it. -/
theorem exists_spelling_of_takeOperator? {text rest : List Char} {operator : Operator}
    (taken : takeOperator? text = some (operator, rest)) :
    ∃ spelling others, (spelling, operator) ∈ lineOperators ∧ text = spelling ++ rest ∧
      (spellings.filter fun word => word.isPrefixOf text) = spelling :: others ∧
      ∀ other ∈ others, other <+: spelling := by
  have ordered : spellings.Pairwise fun first second => ¬first <+: second := by decide
  obtain ⟨⟨spelling, spelled⟩, found, equal⟩ := Option.map_eq_some_iff.mp taken
  obtain ⟨rfl, rfl⟩ := Prod.mk.inj equal
  have start : spelling <+: text := by simpa using List.find?_some found
  have first : (spellings.filter fun word => word.isPrefixOf text).head? = some spelling := by
    rw [List.head?_filter, spellings_eq, List.find?_map, Function.comp_def, found, Option.map_some]
  obtain ⟨others, starts⟩ := List.head?_eq_some_iff.mp first
  refine ⟨spelling, others, List.mem_of_find?_eq_some found,
    (List.prefix_iff_eq_append.mp start).symm, starts, fun other member => ?_⟩
  have pairs := ordered.filter fun word => word.isPrefixOf text
  have listed : other ∈ spellings.filter fun word => word.isPrefixOf text := by
    rw [starts]
    exact List.mem_cons_of_mem _ member
  rw [starts, List.pairwise_cons] at pairs
  have begins := List.isPrefixOf_iff_prefix.mp (List.mem_filter.mp listed).2
  exact (List.prefix_or_prefix_of_prefix begins start).resolve_right (pairs.1 other member)

/-- No operator is taken from a text that starts with no spelling. -/
theorem takeOperator?_eq_none {text : List Char} :
    takeOperator? text = none ↔ (spellings.filter fun word => word.isPrefixOf text) = [] := by
  rw [takeOperator?, Option.map_eq_none_iff, List.find?_eq_none, List.filter_eq_nil_iff,
    spellings_eq, List.forall_mem_map]

/-- The pattern of the text of a value: blanks, and what stands behind them on one line. -/
def valuePattern : List Text.Part := [.row isBlank 0, .row (· != '\n') 0]

/-- The pattern of a line: blanks, a field, blanks, a spelling of an operator, and a value. -/
def linePattern : List Text.Part :=
  .row isBlank 0 :: .row isFieldChar 1 :: .row isBlank 0 :: .oneOf spellings :: valuePattern

/-- Reads a clause from what the pattern takes from the line. -/
def ofPattern (line : String) : Except Failure Clause :=
  match capture? linePattern line.toList with
  | some [_, field, _, spelling, _, value] =>
      (Operator.read (String.ofList spelling)).map fun operator =>
        .comparison (String.ofList field) operator (valueOfText (trim value))
  | _ => .error (.invalidClause line)

/-- The text of a value is matched if what stands behind its leading blanks stays on the line. -/
theorem capture?_valuePattern (text : List Char) :
    capture? valuePattern text =
      if '\n' ∈ trimStart text then none else some [text.takeWhile isBlank, trimStart text] := by
  have unbroken (text : List Char) : (text.all fun c => c != '\n') = true ↔ '\n' ∉ text := by
    rw [List.all_eq_true]
    exact ⟨fun all member => absurd (all _ member) (by decide),
      fun none c member => bne_iff_ne.mpr fun equal => none (equal ▸ member)⟩
  have last (text : List Char) : capture? [.row (· != '\n') 0] text =
      if '\n' ∈ text then none else some [text] := by
    rw [Text.capture?_lastRow]
    by_cases broken : '\n' ∈ text
    · rw [if_pos broken, if_neg fun all => (unbroken text).mp all broken]
    · rw [if_neg broken, if_pos ((unbroken text).mpr broken)]
  by_cases broken : '\n' ∈ trimStart text
  · -- Every shorter row leaves the line feed to the value.
    rw [if_pos broken, valuePattern, capture?, List.findSome?_eq_none_iff]
    intro cut member
    obtain ⟨whole, blank⟩ := Text.of_mem_rowCuts (List.mem_filter.mp member).1
    rw [← whole, Text.trimStart_append_of_allBlank blank] at broken
    rw [last, if_pos ((List.dropWhile_sublist _).subset broken)]
    rfl
  · have line := last (trimStart text)
    rw [if_neg broken] at line
    rw [if_neg broken]
    exact Text.capture?_row_of_some line

/-- The first spelling that the text starts with is taken, or none is. -/
theorem capture?_operator {text rest : List Char} {operator : Operator}
    (taken : takeOperator? text = some (operator, rest)) :
    ∃ spelling, (spelling, operator) ∈ lineOperators ∧
      capture? (.oneOf spellings :: valuePattern) text =
        if '\n' ∈ trimStart rest then none
        else some [spelling, rest.takeWhile isBlank, trimStart rest] := by
  obtain ⟨spelling, others, listed, split, starts, shorter⟩ :=
    exists_spelling_of_takeOperator? taken
  have behind : text.drop spelling.length = rest := by rw [split, List.drop_left]
  refine ⟨spelling, listed, ?_⟩
  rw [Text.capture?_oneOf, starts, List.findSome?_cons, behind, capture?_valuePattern]
  by_cases broken : '\n' ∈ trimStart rest
  · rw [if_pos broken, if_pos broken, Option.map_none]
    change others.findSome? _ = none
    rw [List.findSome?_eq_none_iff]
    intro other member
    obtain ⟨extra, whole⟩ := shorter other member
    have more : text.drop other.length = extra ++ rest := by
      rw [split, ← whole, List.append_assoc, List.drop_left]
    rw [more, capture?_valuePattern, if_pos (Text.mem_trimStart_append broken extra)]
    rfl
  · rw [if_neg broken, if_neg broken]
    rfl

/-- Without an operator there is no match. -/
theorem capture?_noOperator {text : List Char} (none : takeOperator? text = none) :
    capture? (.oneOf spellings :: valuePattern) text = Option.none := by
  rw [Text.capture?_oneOf, takeOperator?_eq_none.mp none, List.findSome?_nil]

section Rows

variable {text : List Char} {taken : List (List Char)}

/-- A match from the operator on starts with no blank and with no character of fields. -/
theorem head_of_capture?_operator
    (matched : capture? (.oneOf spellings :: valuePattern) text = some taken) :
    ∀ c ∈ text.head?, isFieldChar c = false ∧ isBlank c = false := by
  cases found : takeOperator? text with
  | none =>
      rw [capture?_noOperator found] at matched
      cases matched
  | some operator => exact head_of_takeOperator? found

theorem capture?_gap (text : List Char) :
    capture? (.row isBlank 0 :: .oneOf spellings :: valuePattern) text =
      (capture? (.oneOf spellings :: valuePattern) (trimStart text)).map
        (text.takeWhile isBlank :: ·) := by
  rw [Text.capture?_row fun text taken matched c member =>
    (head_of_capture?_operator matched c member).2, if_pos (Nat.zero_le _)]
  rfl

/-- A match from the blanks in front of the operator on starts with no character of fields. -/
theorem head_of_capture?_gap
    (matched : capture? (.row isBlank 0 :: .oneOf spellings :: valuePattern) text = some taken) :
    ∀ c ∈ text.head?, isFieldChar c = false := by
  intro c member
  rw [capture?_gap] at matched
  obtain ⟨inner, found, -⟩ := Option.map_eq_some_iff.mp matched
  cases blank : isBlank c with
  | true => exact isFieldChar_of_isBlank blank
  | false =>
      obtain ⟨rest, rfl⟩ := List.head?_eq_some_iff.mp member
      have starts : ∀ d ∈ (c :: rest).head?, isBlank d = false := by
        rintro d ⟨⟩
        exact blank
      rw [Text.trimStart_of_head? starts] at found
      exact (head_of_capture?_operator found c rfl).1

theorem capture?_field (text : List Char) :
    capture? (.row isFieldChar 1 :: .row isBlank 0 :: .oneOf spellings :: valuePattern) text =
      if (text.takeWhile isFieldChar).isEmpty then none
      else (capture? (.row isBlank 0 :: .oneOf spellings :: valuePattern)
        (text.dropWhile isFieldChar)).map (text.takeWhile isFieldChar :: ·) := by
  rw [Text.capture?_row fun text taken matched => head_of_capture?_gap matched]
  cases text.takeWhile isFieldChar with
  | nil => rfl
  | cons c rest => simp

/-- A match from the field on starts with no blank. -/
theorem head_of_capture?_field
    (matched : capture? (.row isFieldChar 1 :: .row isBlank 0 :: .oneOf spellings ::
      valuePattern) text = some taken) :
    ∀ c ∈ text.head?, isBlank c = false := by
  intro c member
  obtain ⟨rest, rfl⟩ := List.head?_eq_some_iff.mp member
  cases blank : isBlank c with
  | false => rfl
  | true =>
      have outside := isFieldChar_of_isBlank blank
      rw [capture?_field, List.takeWhile_cons_of_neg (by simp [outside])] at matched
      cases matched

theorem capture?_linePattern (line : List Char) :
    capture? linePattern line =
      (capture? (.row isFieldChar 1 :: .row isBlank 0 :: .oneOf spellings :: valuePattern)
        (trimStart line)).map (line.takeWhile isBlank :: ·) := by
  rw [linePattern, Text.capture?_row fun text taken matched => head_of_capture?_field matched,
    if_pos (Nat.zero_le _)]
  rfl

end Rows

/-- The search for the pattern finds what is read from the line, or fails with it. -/
theorem ofLine_eq_ofPattern (line : String) : ofLine line = ofPattern line := by
  rw [ofLine, ofPattern, capture?_linePattern, capture?_field, ofLine?]
  dsimp only
  by_cases unnamed : ((trimStart line.toList).takeWhile isFieldChar).isEmpty = true
  · rw [if_pos unnamed, if_pos unnamed]
    rfl
  · rw [if_neg unnamed, if_neg unnamed, capture?_gap]
    cases taken : takeOperator? (trimStart ((trimStart line.toList).dropWhile isFieldChar)) with
    | none =>
        rw [capture?_noOperator taken]
        rfl
    | some found =>
        obtain ⟨operator, rest⟩ := found
        obtain ⟨spelling, listed, captured⟩ := capture?_operator taken
        have contains : (trimStart rest).contains '\n' = true ↔ '\n' ∈ trimStart rest :=
          List.contains_iff_mem
        rw [captured]
        dsimp only
        by_cases broken : '\n' ∈ trimStart rest
        · rw [if_pos broken, if_pos (contains.mpr broken)]
          rfl
        · rw [if_neg broken, if_neg fun holds => broken (contains.mp holds)]
          have trimmed : trim (trimStart rest) = trimEnd (trimStart rest) := by
            rw [trim, Text.trimStart_of_head? fun c member => ?_]
            obtain ⟨more, split⟩ := List.head?_eq_some_iff.mp member
            exact Text.trimStart_eq_cons split
          simp only [Option.map_some, read_of_mem_lineOperators listed, trimmed, Except.map]

end Clause

end FilterQuery
