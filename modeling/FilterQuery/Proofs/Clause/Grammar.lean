import FilterQuery.Proofs.Clause.Pattern

namespace FilterQuery

namespace Text

/-- Blanks around a text that has none at its ends are trimmed. -/
theorem trim_padded {before text behind : List Char} (blankBefore : AllBlank before)
    (blankBehind : AllBlank behind) (starts : ∀ c ∈ text.head?, isBlank c = false)
    (ends : ∀ c ∈ text.getLast?, isBlank c = false) :
    trim (before ++ (text ++ behind)) = text := by
  have blankReverse : AllBlank behind.reverse := fun c member =>
    blankBehind c (List.mem_reverse.mp member)
  rw [trim, trimStart_append_of_allBlank blankBefore]
  cases text with
  | nil =>
      have none := trimStart_append_of_allBlank blankBehind []
      rw [List.append_nil] at none
      rw [List.nil_append, none]
      rfl
  | cons c rest =>
      have first : ∀ d ∈ (c :: rest ++ behind).head?, isBlank d = false := starts
      rw [trimStart_of_head? first, trimEnd, List.reverse_append,
        trimStart_append_of_allBlank blankReverse]
      exact trimEnd_of_getLast? ends

end Text

namespace Clause

open Text (AllBlank isBlank trimStart trimEnd trim)

/-- The quotes that may stand around a value on a line. -/
def quotes : List Char := ['\x22', '\x27']

/-- The text stands between two quotes of one kind. -/
def IsQuoted (text : List Char) : Prop :=
  ∃ quote ∈ quotes, ∃ inner, text = quote :: (inner ++ [quote])

/-- The value that a text without blanks at its ends denotes: a boolean, what stands between
quotes, or the text itself. -/
inductive Denotes : List Char → Value → Prop where
  | yes : Denotes ['t', 'r', 'u', 'e'] (.boolean true)
  | no : Denotes ['f', 'a', 'l', 's', 'e'] (.boolean false)
  | quoted {quote : Char} (mark : quote ∈ quotes) (inner : List Char) :
      Denotes (quote :: (inner ++ [quote])) (.text (String.ofList inner))
  | bare {text : List Char} (notTrue : text ≠ ['t', 'r', 'u', 'e'])
      (notFalse : text ≠ ['f', 'a', 'l', 's', 'e']) (unquoted : ¬IsQuoted text) :
      Denotes text (.text (String.ofList text))

theorem unquoteWith?_eq_some_iff {quote : Char} {text inner : List Char} :
    unquoteWith? quote text = some inner ↔ text = quote :: (inner ++ [quote]) := by
  cases text with
  | nil => simp [unquoteWith?]
  | cons first rest =>
      rw [unquoteWith?]
      constructor
      · intro found
        split at found
        · rename_i closed
          rw [Bool.and_eq_true, beq_iff_eq, beq_iff_eq] at closed
          obtain ⟨rfl, last⟩ := closed
          rw [← Option.some.inj found, List.dropLast_append_getLast? _ last]
        · cases found
      · intro equal
        obtain ⟨rfl, rfl⟩ := List.cons.inj equal
        simp

/-- What stands between quotes is taken, whatever it is. -/
theorem unquote_quoted {quote : Char} (mark : quote ∈ quotes) (inner : List Char) :
    unquote (quote :: (inner ++ [quote])) = inner := by
  have own : unquoteWith? quote (quote :: (inner ++ [quote])) = some inner :=
    unquoteWith?_eq_some_iff.mpr rfl
  rcases List.mem_pair.mp mark with rfl | rfl
  · rw [unquote, own]
  · have other : unquoteWith? '\x22' ('\x27' :: (inner ++ ['\x27'])) = none := rfl
    rw [unquote, other, own]
    rfl

/-- A text without quotes around it is taken as it stands. -/
theorem unquote_of_not_isQuoted {text : List Char} (unquoted : ¬IsQuoted text) :
    unquote text = text := by
  have none (quote : Char) (mark : quote ∈ quotes) : unquoteWith? quote text = none := by
    rw [Option.eq_none_iff_forall_not_mem]
    intro inner found
    exact unquoted ⟨quote, mark, inner, unquoteWith?_eq_some_iff.mp found⟩
  rw [unquote, none '\x22' (by decide), none '\x27' (by decide)]
  rfl

/-- A text denotes the value that is read from it, and no other one. -/
theorem denotes_iff {text : List Char} {value : Value} :
    Denotes text value ↔ valueOfText text = value := by
  constructor
  · intro denotes
    cases denotes with
    | yes => rfl
    | no => rfl
    | @quoted quote mark inner =>
        have notTrue : (quote :: (inner ++ [quote]) == ['t', 'r', 'u', 'e']) = false := by
          rcases List.mem_pair.mp mark with rfl | rfl <;> rfl
        have notFalse : (quote :: (inner ++ [quote]) == ['f', 'a', 'l', 's', 'e']) = false := by
          rcases List.mem_pair.mp mark with rfl | rfl <;> rfl
        simp only [valueOfText, notTrue, notFalse, Bool.false_eq_true, if_false,
          unquote_quoted mark]
    | bare notTrue notFalse unquoted =>
        simp only [valueOfText, beq_eq_false_iff_ne.mpr notTrue, beq_eq_false_iff_ne.mpr notFalse,
          Bool.false_eq_true, if_false, unquote_of_not_isQuoted unquoted]
  · rintro rfl
    by_cases isTrue : text = ['t', 'r', 'u', 'e']
    · subst isTrue
      exact .yes
    by_cases isFalse : text = ['f', 'a', 'l', 's', 'e']
    · subst isFalse
      exact .no
    rw [valueOfText, if_neg (by simpa using isTrue), if_neg (by simpa using isFalse)]
    by_cases quoted : IsQuoted text
    · obtain ⟨quote, mark, inner, rfl⟩ := quoted
      rw [unquote_quoted mark]
      exact .quoted mark inner
    · rw [unquote_of_not_isQuoted quoted]
      exact .bare isTrue isFalse quoted

/-- From a text that starts with a spelling, the operator with the longest such spelling is taken:
every other one is a beginning of it. -/
theorem exists_longest {text start : List Char} (listed : start ∈ spellings)
    (starts : start <+: text) :
    ∃ spelling operator rest, (spelling, operator) ∈ lineOperators ∧
      takeOperator? text = some (operator, rest) ∧ text = spelling ++ rest ∧
      ∀ other ∈ spellings, other <+: text → other <+: spelling := by
  have among {other : List Char} (known : other ∈ spellings) (begins : other <+: text) :
      other ∈ spellings.filter fun word => word.isPrefixOf text :=
    List.mem_filter.mpr ⟨known, List.isPrefixOf_iff_prefix.mpr begins⟩
  cases taken : takeOperator? text with
  | none =>
      have member := among listed starts
      rw [takeOperator?_eq_none.mp taken] at member
      cases member
  | some found =>
      obtain ⟨operator, rest⟩ := found
      obtain ⟨spelling, others, entry, split, first, shorter⟩ :=
        exists_spelling_of_takeOperator? taken
      refine ⟨spelling, operator, rest, entry, rfl, split, fun other known begins => ?_⟩
      have member := among known begins
      rw [first, List.mem_cons] at member
      rcases member with rfl | later
      · exact List.prefix_rfl
      · exact shorter other later

/-- What stands in front of the value on a line: blanks, a field, blanks, and a spelling of an
operator. -/
structure Head where
  indent : List Char
  field : List Char
  gap : List Char
  spelling : List Char
  blankIndent : AllBlank indent
  named : field ≠ []
  fieldChars : ∀ c ∈ field, isFieldChar c = true
  blankGap : AllBlank gap
  listed : spelling ∈ spellings

namespace Head

def text (head : Head) : List Char :=
  head.indent ++ (head.field ++ (head.gap ++ head.spelling))

/-- A line with a head is read with the operator that is taken where the head has its own. -/
theorem ofLine?_append (head : Head) {rest left : List Char} {operator : Operator}
    (taken : takeOperator? (head.spelling ++ rest) = some (operator, left))
    (single : '\n' ∉ trimStart left) :
    ofLine? (head.text ++ rest) =
      some (.comparison (String.ofList head.field) operator (valueOfText (trim left))) := by
  have read := Clause.ofLine?_append head.named head.fieldChars head.blankGap taken single
  have start (text : List Char) : ofLine? (head.indent ++ text) = ofLine? text := by
    rw [ofLine?, Text.trimStart_append_of_allBlank head.blankIndent]
    rfl
  rw [text, List.append_assoc, start, List.append_assoc, List.append_assoc]
  exact read

end Head

/-- A line that is read has a head, and a value that stays on the line. -/
theorem exists_head_of_ofLine? {line : List Char} {clause : Clause}
    (read : ofLine? line = some clause) :
    ∃ (head : Head) (rest : List Char), line = head.text ++ rest ∧ '\n' ∉ trimStart rest := by
  let text := trimStart line
  obtain ⟨indent, blankIndent, indented⟩ := Text.exists_blank_append_trimStart line
  obtain ⟨gap, blankGap, behind⟩ :=
    Text.exists_blank_append_trimStart (text.dropWhile isFieldChar)
  rw [ofLine?] at read
  dsimp only at read
  split at read
  · cases read
  rename_i named
  split at read
  · cases read
  rename_i operator rest taken
  split at read
  · cases read
  rename_i single
  obtain ⟨spelling, others, entry, split, -⟩ := exists_spelling_of_takeOperator? taken
  let head : Head := {
    indent := indent
    field := text.takeWhile isFieldChar
    gap := gap
    spelling := spelling
    blankIndent := blankIndent
    named := by simpa using named
    fieldChars := fun c member => List.mem_takeWhile_imp member
    blankGap := blankGap
    listed := mem_spellings_iff.mpr ⟨operator, entry⟩ }
  refine ⟨head, rest, ?_, by simpa using single⟩
  have body : text.takeWhile isFieldChar ++ text.dropWhile isFieldChar = text :=
    List.takeWhile_append_dropWhile
  calc line
    _ = indent ++ text := indented
    _ = indent ++ (text.takeWhile isFieldChar ++ (gap ++ (spelling ++ rest))) := by
      rw [← split, ← behind, body]
    _ = head.text ++ rest := by simp [Head.text, head]

/-- How the grammar reads a line. -/
structure ReadByGrammar (line : String) : Prop where
  /-- A line is accepted exactly if it is a head and a value whose text, behind its leading blanks,
  stays on the line. -/
  accepted : (∃ clause, ofLine line = .ok clause) ↔
    ∃ (head : Head) (rest : List Char), line.toList = head.text ++ rest ∧ '\n' ∉ trimStart rest
  /-- However the line is taken apart, it is read with the field of its head, with the operator that
  has the longest spelling at its place, and with what the text behind this spelling denotes. -/
  reading : ∀ (head : Head) (rest : List Char), line.toList = head.text ++ rest →
    '\n' ∉ trimStart rest →
      ∃ spelling ∈ spellings, ∃ left operator value,
        head.spelling ++ rest = spelling ++ left ∧
        (∀ other ∈ spellings, other <+: head.spelling ++ rest →
          other.length ≤ spelling.length) ∧
        Operator.read (String.ofList spelling) = .ok operator ∧
        Denotes (trim left) value ∧
        ofLine line = .ok (.comparison (String.ofList head.field) operator value)
  /-- A line is rejected as a whole; in particular its operator is never unknown. -/
  rejected : ∀ cause, ofLine line = .error cause → cause = .invalidClause line
  /-- The reading is the first one that a search with backtracking finds. -/
  searched : ofLine line = ofPattern line

/-- Every line is read as the grammar says. -/
theorem ofLine_grammar (line : String) : ReadByGrammar line := by
  have reading (head : Head) (rest : List Char) (split : line.toList = head.text ++ rest)
      (single : '\n' ∉ trimStart rest) :
      ∃ spelling ∈ spellings, ∃ left operator value,
        head.spelling ++ rest = spelling ++ left ∧
        (∀ other ∈ spellings, other <+: head.spelling ++ rest →
          other.length ≤ spelling.length) ∧
        Operator.read (String.ofList spelling) = .ok operator ∧
        Denotes (trim left) value ∧
        ofLine line = .ok (.comparison (String.ofList head.field) operator value) := by
    obtain ⟨spelling, operator, left, entry, taken, place, longest⟩ :=
      exists_longest head.listed (List.prefix_append _ rest)
    have unbroken : '\n' ∉ trimStart left := by
      -- The head's own spelling is a beginning of the longest one, so it leaves more to the value.
      obtain ⟨extra, rfl⟩ := longest head.spelling head.listed (List.prefix_append _ rest)
      rw [List.append_assoc] at place
      rw [List.append_cancel_left place] at single
      exact fun member => single (Text.mem_trimStart_append member extra)
    refine ⟨spelling, mem_spellings_iff.mpr ⟨operator, entry⟩, left, operator, _, place,
      fun other listed begins => (longest other listed begins).length_le,
      read_of_mem_lineOperators entry, denotes_iff.mpr rfl, ?_⟩
    rw [ofLine, split, head.ofLine?_append taken unbroken]
  constructor
  case accepted =>
    constructor
    · rintro ⟨clause, accepted⟩
      rw [ofLine] at accepted
      split at accepted
      · rename_i read
        exact exists_head_of_ofLine? read
      · cases accepted
    · rintro ⟨head, rest, split, single⟩
      obtain ⟨spelling, -, left, operator, value, -, -, -, -, read⟩ :=
        reading head rest split single
      exact ⟨_, read⟩
  case reading => exact reading
  case rejected =>
    intro cause failed
    rw [ofLine] at failed
    split at failed
    · cases failed
    · exact (Except.error.inj failed).symm
  case searched => exact ofLine_eq_ofPattern line

end Clause

end FilterQuery
