import FilterQuery.Proofs.Clause.Grammar

namespace FilterQuery.Clause

open Text (AllBlank isBlank trimStart trim)

/-- A text stands alone if nothing of it would be lost without quotes around it. -/
structure StandsAlone (text : List Char) : Prop where
  starts : ∀ c ∈ text.head?, isBlank c = false
  ends : ∀ c ∈ text.getLast?, isBlank c = false
  notTrue : text ≠ ['t', 'r', 'u', 'e']
  notFalse : text ≠ ['f', 'a', 'l', 's', 'e']
  unquoted : ¬IsQuoted text

/-- A spelling that goes on with another character is a longer spelling only for two of them. -/
theorem mem_of_spelling_append {first extra : List Char} (listed : first ∈ spellings)
    (longer : first ++ extra ∈ spellings) : ∀ c ∈ extra.head?, c ∈ ['=', '>'] := by
  have known : ∀ first ∈ spellings, ∀ second ∈ spellings, first <+: second →
      (second.drop first.length).head? ∈ [none, some '=', some '>'] := by decide
  have found := known first listed _ longer (List.prefix_append _ _)
  rw [List.drop_left] at found
  intro c member
  rw [Option.mem_def.mp member] at found
  simpa using found

namespace Head

/-- The spelling of a head spells an operator. -/
theorem exists_operator (head : Head) :
    ∃ operator, Operator.read (String.ofList head.spelling) = .ok operator := by
  obtain ⟨operator, entry⟩ := mem_spellings_iff.mp head.listed
  exact ⟨operator, read_of_mem_lineOperators entry⟩

variable {operator : Operator}

/-- The operator of a head is taken if its spelling cannot go on behind it. -/
theorem takeOperator?_append (head : Head)
    (spelled : Operator.read (String.ofList head.spelling) = .ok operator) {rest : List Char}
    (apart : ∀ c ∈ rest.head?, c ∉ ['=', '>']) :
    takeOperator? (head.spelling ++ rest) = some (operator, rest) := by
  obtain ⟨spelling, found, left, entry, taken, place, longest⟩ :=
    exists_longest head.listed (List.prefix_append _ rest)
  obtain ⟨extra, rfl⟩ := longest head.spelling head.listed (List.prefix_append _ rest)
  rw [List.append_assoc] at place
  have behind := List.append_cancel_left place
  cases extra with
  | nil =>
      rw [List.append_nil] at entry
      rw [read_of_mem_lineOperators entry] at spelled
      rw [taken, behind, Except.ok.inj spelled]
      rfl
  | cons c more =>
      have longer := mem_spellings_iff.mpr ⟨found, entry⟩
      have known := mem_of_spelling_append head.listed longer c rfl
      exact absurd known (apart c (by rw [behind]; rfl))

/-- A text without blanks at its ends is read as what it denotes, whatever blanks stand around it,
if the spelling of the operator ends in front of them. -/
theorem ofLine_padded (head : Head)
    (spelled : Operator.read (String.ofList head.spelling) = .ok operator)
    {gap content behind : List Char} (blankGap : AllBlank gap) (blankBehind : AllBlank behind)
    (single : '\n' ∉ content) (singleBehind : '\n' ∉ behind)
    (starts : ∀ c ∈ content.head?, isBlank c = false)
    (ends : ∀ c ∈ content.getLast?, isBlank c = false)
    (apart : ∀ c ∈ (gap ++ (content ++ behind)).head?, c ∉ ['=', '>']) :
    ofLine (String.ofList (head.text ++ (gap ++ (content ++ behind)))) =
      .ok (.comparison (String.ofList head.field) operator (valueOfText content)) := by
  have unbroken : '\n' ∉ trimStart (gap ++ (content ++ behind)) := by
    rw [Text.trimStart_append_of_allBlank blankGap]
    intro member
    have inside := (List.dropWhile_sublist _).subset member
    exact (List.mem_append.mp inside).elim single singleBehind
  rw [ofLine, String.toList_ofList,
    head.ofLine?_append (head.takeOperator?_append spelled apart) unbroken,
    Text.trim_padded blankGap blankBehind starts ends]

end Head

/-- A blank and a quote are no parts of a spelling. -/
theorem notMem_of_isBlank {c : Char} (blank : isBlank c = true) : c ∉ ['=', '>'] := by
  intro member
  rcases List.mem_pair.mp member with rfl | rfl <;> cases blank

/-- A text on one line is read back as it stands: with quotes of either kind around it, and without
quotes behind a blank if it stands alone. -/
theorem ofLine_lossless (head : Head) (gap content behind : List Char) (blankGap : AllBlank gap)
    (blankBehind : AllBlank behind) (single : '\n' ∉ content) (singleBehind : '\n' ∉ behind) :
    ∃ operator, Operator.read (String.ofList head.spelling) = .ok operator ∧
      (∀ quote ∈ quotes,
        ofLine (String.ofList
            (head.text ++ (gap ++ ((quote :: (content ++ [quote])) ++ behind)))) =
          .ok (.comparison (String.ofList head.field) operator
            (.text (String.ofList content)))) ∧
      (gap ≠ [] → StandsAlone content →
        ofLine (String.ofList (head.text ++ (gap ++ (content ++ behind)))) =
          .ok (.comparison (String.ofList head.field) operator
            (.text (String.ofList content)))) := by
  obtain ⟨operator, spelled⟩ := head.exists_operator
  refine ⟨operator, spelled, ?_, ?_⟩
  · intro quote mark
    obtain ⟨visible, apart, onLine⟩ :
        isBlank quote = false ∧ quote ∉ ['=', '>'] ∧ '\n' ≠ quote := by
      rcases List.mem_pair.mp mark with rfl | rfl <;> decide
    have value : valueOfText (quote :: (content ++ [quote])) = .text (String.ofList content) :=
      denotes_iff.mp (.quoted mark content)
    rw [← value]
    apply head.ofLine_padded spelled blankGap blankBehind _ singleBehind
    · rintro c ⟨⟩
      exact visible
    · intro c last
      rw [← List.cons_append, List.getLast?_concat] at last
      exact Option.some.inj last ▸ visible
    · intro c first
      cases gap with
      | nil =>
          cases first
          exact apart
      | cons d more =>
          cases first
          exact notMem_of_isBlank (blankGap c (List.mem_cons_self ..))
    · intro member
      rw [List.mem_cons, List.mem_append, List.mem_singleton] at member
      rcases member with equal | inside | equal
      · exact onLine equal
      · exact single inside
      · exact onLine equal
  · intro padded alone
    have value : valueOfText content = .text (String.ofList content) :=
      denotes_iff.mp (.bare alone.notTrue alone.notFalse alone.unquoted)
    obtain ⟨d, more, rfl⟩ := List.exists_cons_of_ne_nil padded
    rw [← value]
    apply head.ofLine_padded spelled blankGap blankBehind single singleBehind alone.starts
      alone.ends
    rintro c ⟨⟩
    exact notMem_of_isBlank (blankGap _ (List.mem_cons_self ..))

/-- A text with the start of a longer operator and with the other quote in it. -/
theorem ofLine_lossless_operator_in_text :
    AllBlank [' '] ∧ AllBlank ['\t'] ∧ '\n' ∉ "=5 \"or' more".toList ∧ '\n' ∉ ['\t'] ∧
      StandsAlone "=5 \"or' more".toList ∧
      ofLine " city< '=5 \"or' more'\t" =
        .ok (.comparison "city" .less (.text "=5 \"or' more")) ∧
      ofLine " city< =5 \"or' more\t" =
        .ok (.comparison "city" .less (.text "=5 \"or' more")) := by
  have blankGap : AllBlank [' '] := List.forall_mem_singleton.mpr rfl
  have blankBehind : AllBlank ['\t'] := List.forall_mem_singleton.mpr rfl
  let head : Head := ⟨[' '], "city".toList, [], ['<'], List.forall_mem_singleton.mpr rfl, by decide,
    List.all_eq_true.mp (by decide), List.forall_mem_nil _, by decide⟩
  have single : '\n' ∉ "=5 \"or' more".toList := by decide
  have singleBehind : '\n' ∉ ['\t'] := by decide
  have alone : StandsAlone "=5 \"or' more".toList := by
    refine ⟨?_, ?_, by decide, by decide, ?_⟩
    · rintro c ⟨⟩
      decide
    · rintro c ⟨⟩
      decide
    rintro ⟨quote, mark, inner, equal⟩
    rcases List.mem_pair.mp mark with rfl | rfl <;> cases equal
  obtain ⟨operator, spelled, quoted, unquoted⟩ := ofLine_lossless head [' ']
    "=5 \"or' more".toList ['\t'] blankGap blankBehind single singleBehind
  have less : Operator.read (String.ofList head.spelling) = .ok .less :=
    read_of_mem_lineOperators (by decide)
  rw [spelled] at less
  cases less
  exact ⟨blankGap, blankBehind, single, singleBehind, alone, quoted '\x27' (by decide),
    unquoted (List.cons_ne_nil _ _) alone⟩

end FilterQuery.Clause
