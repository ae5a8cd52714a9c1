import FilterQuery.Proofs.Clause.Grammar

namespace FilterQuery

namespace Text

variable {blank : List Char}

theorem trimStart_eq_nil_iff {text : List Char} : trimStart text = [] ↔ AllBlank text :=
  List.dropWhile_eq_nil_iff

/-- In front of more text, trimming leaves what is left of a text that is not blank. -/
theorem trimStart_append {text : List Char} (visible : ¬AllBlank text) (behind : List Char) :
    trimStart (text ++ behind) = trimStart text ++ behind := by
  have present : (text.dropWhile isBlank).isEmpty = false :=
    List.isEmpty_eq_false_iff.mpr (mt trimStart_eq_nil_iff.mp visible)
  rw [trimStart, List.dropWhile_append, present, if_neg Bool.false_ne_true]
  rfl

/-- Blanks behind a text are trimmed. -/
theorem trim_append (allBlank : AllBlank blank) (text : List Char) :
    trim (text ++ blank) = trim text := by
  by_cases empty : AllBlank text
  · have both : AllBlank (text ++ blank) := List.forall_mem_append.mpr ⟨empty, allBlank⟩
    rw [trim, trim, trimStart_eq_nil_iff.mpr empty, trimStart_eq_nil_iff.mpr both]
  · have reversed : AllBlank blank.reverse := fun c member =>
      allBlank c (List.mem_reverse.mp member)
    rw [trim, trimStart_append empty, trimEnd, List.reverse_append,
      trimStart_append_of_allBlank reversed]
    rfl

/-- What is left of a text and blanks behind it is what is left of the text, and the blanks if there
is something in front of them. -/
theorem mem_trimStart_append_iff {c : Char} {text : List Char} (allBlank : AllBlank blank) :
    c ∈ trimStart (text ++ blank) ↔ c ∈ trimStart text ∨ c ∈ blank ∧ ¬AllBlank text := by
  by_cases empty : AllBlank text
  · have both : AllBlank (text ++ blank) := List.forall_mem_append.mpr ⟨empty, allBlank⟩
    simp [trimStart_eq_nil_iff.mpr empty, trimStart_eq_nil_iff.mpr both, empty]
  · rw [trimStart_append empty, List.mem_append, and_iff_left empty]

/-- A word that ends with no blank stands in front of the blanks at the end of a text. -/
theorem prefix_of_prefix_append {word text : List Char} (allBlank : AllBlank blank)
    (ends : ∀ c ∈ word.getLast?, isBlank c = false) (starts : word <+: text ++ blank) :
    word <+: text := by
  obtain ⟨rest, equal⟩ := starts
  rcases List.append_eq_append_iff.mp equal with ⟨left, whole, -⟩ | ⟨extra, longer, split⟩
  · exact ⟨left, whole.symm⟩
  · -- The rest of the word is blank, so it is empty.
    rcases List.eq_nil_or_concat extra with rfl | ⟨front, c, rfl⟩
    · have same : word = text := by rw [longer, List.append_nil]
      exact same ▸ List.prefix_rfl
    · have inside : c ∈ blank := by
        rw [split]
        simp
      have visible := ends c (by rw [longer]; simp)
      exact absurd (allBlank c inside) (by rw [visible]; exact Bool.false_ne_true)

end Text

namespace Clause

open Text (AllBlank isBlank trimStart trim)

/-- No spelling ends with a blank. -/
theorem isBlank_of_mem_spellings {spelling : List Char} (listed : spelling ∈ spellings) :
    ∀ c ∈ spelling.getLast?, isBlank c = false := by
  have known : ∀ spelling ∈ spellings, (spelling.getLast?.all fun c => !isBlank c) = true := by
    decide +kernel
  intro c last
  have visible := known spelling listed
  rw [Option.mem_def.mp last] at visible
  simpa using visible

/-- Blanks behind a text do not change which operator is taken from its start. -/
theorem takeOperator?_append_blank {blank : List Char} (allBlank : AllBlank blank)
    (text : List Char) : takeOperator? (text ++ blank) =
      (takeOperator? text).map fun found => (found.1, found.2 ++ blank) := by
  have listed {entry : List Char × Operator} (member : entry ∈ lineOperators) :
      entry.1 ∈ spellings := mem_spellings_iff.mpr ⟨entry.2, member⟩
  have same : lineOperators.find? (fun entry => entry.1.isPrefixOf (text ++ blank)) =
      lineOperators.find? fun entry => entry.1.isPrefixOf text := by
    rw [← List.head?_filter, ← List.head?_filter]
    refine congrArg List.head? (List.filter_congr fun entry member => ?_)
    rw [Bool.eq_iff_iff, List.isPrefixOf_iff_prefix, List.isPrefixOf_iff_prefix]
    constructor
    · exact Text.prefix_of_prefix_append allBlank (isBlank_of_mem_spellings (listed member))
    · exact fun starts => starts.trans (List.prefix_append text blank)
  rw [takeOperator?, takeOperator?, same, Option.map_map]
  cases found : lineOperators.find? fun entry => entry.1.isPrefixOf text with
  | none => rfl
  | some entry =>
      have starts : entry.1 <+: text := by simpa using List.find?_some found
      rw [Option.map_some, Option.map_some, Function.comp_apply,
        List.drop_append_of_le_length starts.length_le]

namespace Head

/-- The text of a head ends with no blank. -/
theorem isBlank_of_mem_getLast? (head : Head) : ∀ c ∈ head.text.getLast?, isBlank c = false := by
  have nonempty : ∀ spelling ∈ spellings, spelling ≠ [] := by decide
  have last : head.text.getLast? = head.spelling.getLast? := by
    rw [text, ← List.append_assoc, ← List.append_assoc,
      List.getLast?_append_of_ne_nil _ (nonempty _ head.listed)]
  rw [last]
  exact isBlank_of_mem_spellings head.listed

/-- Blanks behind a head and a value that stays on the line with them are not read. -/
theorem ofLine?_append_blank (head : Head) {rest blank : List Char} (allBlank : AllBlank blank)
    (single : '\n' ∉ trimStart (rest ++ blank)) :
    ofLine? (head.text ++ (rest ++ blank)) = ofLine? (head.text ++ rest) := by
  obtain ⟨spelling, operator, left, -, taken, place, longest⟩ :=
    exists_longest head.listed (List.prefix_append _ rest)
  have takenBlank : takeOperator? (head.spelling ++ (rest ++ blank)) =
      some (operator, left ++ blank) := by
    rw [← List.append_assoc, takeOperator?_append_blank allBlank, taken]
    rfl
  -- The longest spelling goes on from that of the head, so it leaves less to the value.
  obtain ⟨extra, rfl⟩ := longest head.spelling head.listed (List.prefix_append _ rest)
  rw [List.append_assoc] at place
  rw [List.append_cancel_left place, List.append_assoc] at single
  have singleBlank : '\n' ∉ trimStart (left ++ blank) := fun member =>
    single (Text.mem_trimStart_append member extra)
  have singleLeft : '\n' ∉ trimStart left := fun member =>
    singleBlank ((Text.mem_trimStart_append_iff allBlank).mpr (.inl member))
  rw [head.ofLine?_append takenBlank singleBlank, head.ofLine?_append taken singleLeft,
    Text.trim_append allBlank]

end Head

/-- The line has no value: it is a head with nothing but blanks behind it. -/
def Valueless (line : List Char) : Prop :=
  ∃ (head : Head) (rest : List Char), line = head.text ++ rest ∧ AllBlank rest

variable {before line behind : List Char} {clause : Clause}

theorem ofLine?_blank_append (blankBefore : AllBlank before) (line : List Char) :
    ofLine? (before ++ line) = ofLine? line := by
  rw [ofLine?, Text.trimStart_append_of_allBlank blankBefore]
  rfl

/-- With blanks behind it, a line is read as it is without them, and only if the line feeds among
them follow no value. -/
theorem ofLine?_append_blank (blankBehind : AllBlank behind) :
    ofLine? (line ++ behind) = some clause ↔
      ofLine? line = some clause ∧ ('\n' ∈ behind → Valueless line) := by
  have alike {head : Head} {rest : List Char} (split : line = head.text ++ rest)
      (single : '\n' ∉ trimStart (rest ++ behind)) : ofLine? (line ++ behind) = ofLine? line := by
    rw [split, List.append_assoc, head.ofLine?_append_blank blankBehind single]
  constructor
  · intro read
    obtain ⟨head, rest, split, single⟩ := exists_head_of_ofLine? read
    obtain ⟨left, rfl⟩ := Text.prefix_of_prefix_append blankBehind head.isBlank_of_mem_getLast?
      (show head.text <+: line ++ behind from ⟨rest, split.symm⟩)
    rw [List.append_assoc] at split
    rw [← List.append_cancel_left split] at single
    refine ⟨(alike rfl single).symm.trans read, fun feed => ⟨head, left, rfl, ?_⟩⟩
    by_contra value
    exact single ((Text.mem_trimStart_append_iff blankBehind).mpr (.inr ⟨feed, value⟩))
  · rintro ⟨read, valueless⟩
    by_cases feed : '\n' ∈ behind
    · obtain ⟨head, rest, split, blankRest⟩ := valueless feed
      have empty : trimStart (rest ++ behind) = [] :=
        Text.trimStart_eq_nil_iff.mpr (List.forall_mem_append.mpr ⟨blankRest, blankBehind⟩)
      rw [alike split (by rw [empty]; exact List.not_mem_nil), read]
    · obtain ⟨head, rest, split, single⟩ := exists_head_of_ofLine? read
      have unbroken : '\n' ∉ trimStart (rest ++ behind) := by
        rw [Text.mem_trimStart_append_iff blankBehind]
        exact not_or.mpr ⟨single, fun other => feed other.1⟩
      rw [alike split unbroken, read]

theorem ofLine_eq_ok_iff {line : String} :
    ofLine line = .ok clause ↔ ofLine? line.toList = some clause := by
  rw [ofLine]
  cases ofLine? line.toList <;> simp

/-- Between blanks a line is read as the clause that it is read as without them, and it is read
unless a line feed follows its value. Otherwise it is rejected as a whole, blanks and all. -/
theorem ofLine_surrounded (before line behind : String) (blankBefore : AllBlank before.toList)
    (blankBehind : AllBlank behind.toList) :
    (∀ clause, ofLine (before ++ line ++ behind) = .ok clause ↔
      ofLine line = .ok clause ∧ ('\n' ∈ behind.toList → Valueless line.toList)) ∧
    ∀ cause, ofLine (before ++ line ++ behind) = .error cause →
      cause = .invalidClause (before ++ line ++ behind) := by
  constructor
  · intro clause
    rw [ofLine_eq_ok_iff, ofLine_eq_ok_iff, String.toList_append, String.toList_append,
      List.append_assoc, ofLine?_blank_append blankBefore, ofLine?_append_blank blankBehind]
  · intro cause failed
    rw [ofLine] at failed
    split at failed
    · cases failed
    · exact (Except.error.inj failed).symm

/-- Blanks of many kinds in front of a line, a value that another kind of blank follows, and a line
feed where there is no value. -/
theorem ofLine_surrounded_kinds_of_blanks :
    AllBlank "\n\u2003\t".toList ∧ AllBlank "\u0085 ".toList ∧ AllBlank " \n".toList ∧
      ofLine ("\n\u2003\t" ++ "price < 100" ++ "\u0085 ") =
        .ok (.comparison "price" .less (.text "100")) ∧
      ofLine ("" ++ "price <" ++ " \n") = .ok (.comparison "price" .less (.text "")) := by
  have blankBefore : AllBlank "\n\u2003\t".toList :=
    List.all_eq_true.mp (by decide +kernel)
  have blankBehind : AllBlank "\u0085 ".toList := List.all_eq_true.mp (by decide +kernel)
  have blankFeed : AllBlank " \n".toList := List.all_eq_true.mp (by decide +kernel)
  have valued := (ofLine_surrounded _ "price < 100" _ blankBefore blankBehind).1
    (.comparison "price" .less (.text "100"))
  have bare := (ofLine_surrounded "" "price <" _ (List.forall_mem_nil _) blankFeed).1
    (.comparison "price" .less (.text ""))
  let head : Head := ⟨[], "price".toList, [' '], ['<'], List.forall_mem_nil _, by decide,
    List.all_eq_true.mp (by decide), List.forall_mem_singleton.mpr rfl, by decide⟩
  refine ⟨blankBefore, blankBehind, blankFeed, valued.mpr ⟨by decide +kernel, ?_⟩,
    bare.mpr ⟨by decide +kernel, fun _ => ⟨head, [], rfl, List.forall_mem_nil _⟩⟩⟩
  intro feed
  exact absurd feed (by decide)

/-- A line feed behind a value is not trimmed like other blanks: the line is rejected. -/
theorem ofLine_line_feed_behind_value :
    AllBlank "\n".toList ∧
      ofLine "price < 100" = .ok (.comparison "price" .less (.text "100")) ∧
      ofLine ("" ++ "price < 100" ++ "\n") = .error (.invalidClause "price < 100\n") ∧
      ofLine ("" ++ "price < 100" ++ "\r") = .ok (.comparison "price" .less (.text "100")) := by
  refine ⟨List.forall_mem_singleton.mpr rfl, ?_, ?_, ?_⟩ <;> decide +kernel

end Clause

end FilterQuery
