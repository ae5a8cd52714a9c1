import FilterQuery.Proofs.Clause.Grammar
import FilterQuery.Proofs.Decoding.Position
import FilterQuery.Proofs.Json.Grammar
import FilterQuery.Proofs.Text.Lower
import FilterQuery.Yaml.Decoding

namespace FilterQuery

namespace Text

/-- A text is what trimming leaves of it between blanks. -/
theorem exists_blanks_append_trim (text : List Char) :
    ∃ before behind, AllBlank before ∧ AllBlank behind ∧
      text = before ++ (trim text ++ behind) := by
  obtain ⟨before, blankBefore, start⟩ := exists_blank_append_trimStart text
  obtain ⟨behind, blankBehind, stop⟩ := exists_blank_append_trimStart (trimStart text).reverse
  refine ⟨before, behind.reverse, blankBefore, ?_, ?_⟩
  · exact fun c member => blankBehind c (List.mem_reverse.mp member)
  · calc text
      _ = before ++ trimStart text := start
      _ = before ++ (trimStart text).reverse.reverse := by rw [List.reverse_reverse]
      _ = before ++ (trim text ++ behind.reverse) := by
        rw [stop, List.reverse_append]
        rfl

/-- What becomes a basic word in lower case consists of ASCII. -/
theorem lt_of_map_toLower {text word : List Char} (basic : ∀ c ∈ word, IsBasic c)
    (lowered : text.map Char.toLower = word) : ∀ c ∈ text, c.toNat < 0x80 := by
  intro c member
  by_contra beyond
  have same : c.toLower = c := toLower_of_outside (by omega)
  exact beyond (basic c (lowered ▸ same ▸ List.mem_map_of_mem member)).2.1

end Text

namespace Operator

open Text (AllBlank IsBasic isBlank trim)
open Decoding (Content Error Position)

/-- The text spells the operator: between blanks stands one of the operator's spellings, in any case
of the letters of ASCII. -/
def Spells (text : String) (operator : Operator) : Prop :=
  ∃ before word behind, AllBlank before ∧ AllBlank behind ∧
    text.toList = before ++ (word ++ behind) ∧
      ∃ spelling ∈ operator.spellings, word.map Char.toLower = spelling.toList

/-- The spellings of operators are basic words. -/
theorem isBasic_of_mem_spellings {operator : Operator} {spelling : String}
    (listed : spelling ∈ operator.spellings) : ∀ c ∈ spelling.toList, IsBasic c := by
  have known : ∀ operator ∈ all, ∀ spelling ∈ operator.spellings,
      (spelling.toList.all fun c => decide (IsBasic c)) = true := by decide
  intro c member
  exact of_decide_eq_true
    (List.all_eq_true.mp (known operator (mem_all operator) spelling listed) c member)

/-- No spelling belongs to two operators. -/
theorem eq_of_mem_spellings {first second : Operator} {spelling : String}
    (firstListed : spelling ∈ first.spellings) (secondListed : spelling ∈ second.spellings) :
    first = second := by
  have known : ∀ first ∈ all, ∀ second ∈ all, ∀ spelling ∈ first.spellings,
      spelling ∈ second.spellings → first = second := by decide
  exact known first (mem_all first) second (mem_all second) spelling firstListed secondListed

/-- The folded text is a spelling exactly if the trimmed text is this spelling in another case of
ASCII. -/
theorem fold_eq_iff {text : String} {operator : Operator} {spelling : String}
    (listed : spelling ∈ operator.spellings) :
    fold text = spelling.toList ↔ (trim text.toList).map Char.toLower = spelling.toList :=
  Text.lower_eq_iff (isBasic_of_mem_spellings listed)

/-- A text spells an operator exactly if the folded text is one of its spellings. -/
theorem spells_iff {text : String} {operator : Operator} :
    Spells text operator ↔ ∃ spelling ∈ operator.spellings, fold text = spelling.toList := by
  constructor
  · rintro ⟨before, word, behind, blankBefore, blankBehind, split, spelling, listed, lowered⟩
    have visible : ∀ c ∈ word, isBlank c = false := by
      apply Text.isBlank_of_map_toLower
      intro c member
      exact (isBasic_of_mem_spellings listed c (lowered ▸ member)).isBlank_eq_false
    refine ⟨spelling, listed, (fold_eq_iff listed).mpr ?_⟩
    rw [split, Text.trim_padded blankBefore blankBehind
      (fun c member => visible c (List.mem_of_mem_head? member))
      fun c member => visible c (List.mem_of_getLast? member)]
    exact lowered
  · rintro ⟨spelling, listed, folded⟩
    obtain ⟨before, behind, blankBefore, blankBehind, split⟩ :=
      Text.exists_blanks_append_trim text.toList
    exact ⟨before, _, behind, blankBefore, blankBehind, split, spelling, listed,
      (fold_eq_iff listed).mp folded⟩

/-- A text is read as the operator that it spells. -/
theorem read?_eq_some_iff {text : String} {operator : Operator} :
    read? text = some operator ↔ Spells text operator := by
  have any (operator : Operator) :
      (operator.spellings.any fun spelling => spelling.toList == fold text) = true ↔
        ∃ spelling ∈ operator.spellings, fold text = spelling.toList := by
    simp only [List.any_eq_true, beq_iff_eq, eq_comm (a := fold text)]
  rw [spells_iff]
  constructor
  · intro found
    have matched := List.find?_some found
    exact (any operator).mp matched
  · rintro ⟨spelling, listed, folded⟩
    cases found : read? text with
    | none =>
        have missed := List.find?_eq_none.mp found operator (mem_all operator)
        exact absurd ((any operator).mpr ⟨spelling, listed, folded⟩) missed
    | some other =>
        have matched := List.find?_some found
        obtain ⟨same, otherListed, otherFolded⟩ := (any other).mp matched
        have equal : spelling = same := String.toList_inj.mp (folded.symm.trans otherFolded)
        subst equal
        rw [eq_of_mem_spellings listed otherListed]

/-- A text that spells an operator consists of blanks and of ASCII. -/
theorem Spells.ascii {text : String} {operator : Operator} (spells : Spells text operator) :
    ∀ c ∈ text.toList, isBlank c = true ∨ c.toNat < 0x80 := by
  obtain ⟨before, word, behind, blankBefore, blankBehind, split, spelling, listed, lowered⟩ :=
    spells
  have inside := Text.lt_of_map_toLower (isBasic_of_mem_spellings listed) lowered
  rw [split]
  refine List.forall_mem_append.mpr ⟨fun c member => .inl (blankBefore c member),
    List.forall_mem_append.mpr ⟨fun c member => .inr (inside c member),
      fun c member => .inl (blankBehind c member)⟩⟩

/-- What an operator is read as from a text in data. -/
def decoded (text : String) : Except Error Operator :=
  (read text).mapError fun _ => .fault .whole (.unknownOperator text)

theorem operator?_text (text : String) :
    (Content.text text).operator? = (read text).mapError fun _ => .unknownOperator text := by
  rw [Content.operator?, Content.text?, read]
  dsimp only [bind, Except.bind]
  cases read? text <;> rfl

theorem decodeOperator_json {text : String} {input : List Char}
    (writes : Json.Tree.Writes (.text (some text)) input) :
    Json.decodeOperator input = decoded text := by
  have read : Json.decodeOperator input = Json.judged (Content.text text).operator? :=
    Json.decode_of_writes writes Json.Tree.operator
  rw [read, operator?_text, decoded]
  cases Operator.read text <;> rfl

theorem decodeOperator_yaml {text : String} {input : List Char} {source : Yaml.Source}
    {slot : Option Nat} {tag : Option Yaml.Tag} {plain : Bool}
    (linked : Yaml.Source.read? input = some source)
    (root : source.root = some (.scalar slot tag text plain)) :
    Yaml.decodeOperator input = decoded text := by
  have read : source.operator =
      Yaml.Reading.judge .whole (Content.text text).operator? := by
    rw [Yaml.Source.operator, root]
    rfl
  rw [Yaml.decodeOperator, Yaml.decode, linked]
  dsimp only
  rw [read, operator?_text, decoded]
  cases Operator.read text <;> rfl

/-- How an operator is read from a text, alone and in data. -/
structure ReadBySpelling (text : String) : Prop where
  accepted : ∀ operator, read text = .ok operator ↔ Spells text operator
  rejected : ∀ cause, read text = .error cause ↔
    cause = .unknownOperator text ∧ ∀ operator, ¬Spells text operator
  ascii : ∀ operator, read text = .ok operator →
    ∀ c ∈ text.toList, isBlank c = true ∨ c.toNat < 0x80
  /-- As the content of a member, the text has the same operator or an unknown one. -/
  content : (Content.text text).operator? = (read text).mapError fun _ => .unknownOperator text
  /-- So has every JSON text that writes down the text. -/
  json : ∀ input, Json.Tree.Writes (.text (some text)) input → Json.decodeOperator input =
    (read text).mapError fun _ => .fault .whole (.unknownOperator text)
  /-- So has every YAML text that is a scalar with the text, whatever its style is. -/
  yaml : ∀ input source slot tag plain, Yaml.Source.read? input = some source →
    source.root = some (.scalar slot tag text plain) → Yaml.decodeOperator input =
      (read text).mapError fun _ => .fault .whole (.unknownOperator text)
  /-- In YAML the message of the unknown operator is shown behind the place, and behind it the
  position where the reader stands. -/
  shown_yaml : ∀ place reader, (Error.fault place (.unknownOperator text)).notice .yaml reader =
    ⟨place.label ++ (Failure.unknownOperator text).message, reader⟩
  /-- In JSON the message is shown, if it does not end in a position of 64 bits. -/
  shown_json : ∀ place reader,
    (∀ (position : Position) front part, position.WrittenAs part → position.fits = true →
      (Failure.unknownOperator text).message.toList ≠ front ++ part) →
    (Error.fault place (.unknownOperator text)).notice .json reader =
      ⟨(Failure.unknownOperator text).message, reader⟩
  /-- A position of 64 bits at the end of the message is shown as the one of the error in place of
  that of the reader, unless its line is zero. -/
  shown_json_position : ∀ place reader (position : Position) front part,
    position.WrittenAs part → position.fits = true →
    (Failure.unknownOperator text).message.toList = front ++ part →
    (Error.fault place (.unknownOperator text)).notice .json reader =
      ⟨String.ofList front, if position.line = 0 then reader else some position⟩

/-- Every text is read as an operator exactly if it spells the operator. -/
theorem read_by_spelling (text : String) : ReadBySpelling text := by
  have accepted (operator : Operator) : read text = .ok operator ↔ Spells text operator := by
    rw [← read?_eq_some_iff, read]
    cases read? text <;> simp
  constructor
  case accepted => exact accepted
  case rejected =>
    intro cause
    constructor
    · intro failed
      refine ⟨?_, fun operator spells => ?_⟩
      · rw [read] at failed
        split at failed
        · cases failed
        · exact (Except.error.inj failed).symm
      · rw [(accepted operator).mpr spells] at failed
        cases failed
    · rintro ⟨rfl, none⟩
      cases found : read? text with
      | some operator => exact absurd (read?_eq_some_iff.mp found) (none operator)
      | none => rw [read, found]
  case ascii =>
    intro operator found
    exact ((accepted operator).mp found).ascii
  case content => exact operator?_text text
  case json => exact fun input writes => decodeOperator_json writes
  case yaml => exact fun input source slot tag plain linked root => decodeOperator_yaml linked root
  case shown_yaml => exact fun place reader => Decoding.notice_yaml place reader
  case shown_json =>
    intro place reader plain
    exact Decoding.notice_json_of_plain place reader plain
  case shown_json_position =>
    intro place reader position front part written fits split
    exact Decoding.notice_json_of_position place reader written fits split

/-- Letters of ASCII may be escaped or have another case, but a letter that only looks like one of
them spells nothing. -/
example : Json.decodeOperator "\" \\u004Ct\\u2003\"".toList = .ok .less ∧
    read "\u017ft" = .error (.unknownOperator "\u017ft") := by
  decide +kernel

end Operator

namespace Json

/-- Of a spelling that ends in a position with line zero, this position is missing from the
message. -/
theorem decodeOperator_two_positions :
    Operator.read "x at line 1 column 2 at line 0 column 5" =
        .error (.unknownOperator "x at line 1 column 2 at line 0 column 5") ∧
      (Failure.unknownOperator "x at line 1 column 2 at line 0 column 5").message =
        "Unknown operator: x at line 1 column 2 at line 0 column 5" ∧
      (decodeOperator "\"x at line 1 column 2 at line 0 column 5\"".toList).mapError
          (fun cause => (Failure.decoding .json cause).message) =
        .error "JSON error: Unknown operator: x at line 1 column 2" := by
  decide +kernel

end Json

end FilterQuery
