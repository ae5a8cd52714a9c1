import FilterQuery.Proofs.Yaml.Quoted
import FilterQuery.Yaml.Layout

namespace FilterQuery.Yaml.Layout

def MayDrop (candidate : Option Candidate) : Prop := candidate.any Candidate.required = false

/-- The layout has read some tokens and stands in front of the rest of a line, between so many
brackets, outside all blocks. -/
structure Between (layout : Layout) (brackets : Nat) (keyAllowed : Bool) (tokens : List Token)
    (rest : List Char) : Prop where
  rest_eq : layout.cursor.rest = rest
  column_pos : 0 < layout.cursor.mark.column
  reversed_eq : layout.reversed = tokens.reverse
  count_eq : layout.count = tokens.length
  indent_eq : layout.indent = -1
  outer_eq : layout.outer = []
  keyAllowed_eq : layout.keyAllowed = keyAllowed
  candidate : MayDrop layout.candidate
  length_around : layout.around.length = brackets
  around : ∀ candidate ∈ layout.around, MayDrop candidate

/-- The text is read as some tokens, and leads from one place between brackets to another. -/
def Scans (brackets : Nat) (keyAllowed : Bool) (text : List Char) (tokens : List Token)
    (bracketsAfter : Nat) (keyAllowedAfter : Bool) : Prop :=
  ∀ layout before rest, Between layout brackets keyAllowed before (text ++ rest) →
    ∃ count last, count ≤ text.length ∧
      (∀ fuel, readAll (fuel + count) layout = readAll fuel last) ∧
      Between last bracketsAfter keyAllowedAfter (before ++ tokens) rest

/-- Scans are put together. -/
theorem Scans.append {brackets middle after : Nat} {keyAllowed keyAllowedThen keyAllowedAfter : Bool}
    {first second : List Char} {tokens more : List Token}
    (left : Scans brackets keyAllowed first tokens middle keyAllowedThen)
    (right : Scans middle keyAllowedThen second more after keyAllowedAfter) :
    Scans brackets keyAllowed (first ++ second) (tokens ++ more) after keyAllowedAfter := by
  intro layout before rest start
  rw [List.append_assoc] at start
  obtain ⟨count, next, few, reads, between⟩ := left layout before _ start
  obtain ⟨others, last, fewOthers, readsOn, done⟩ := right next _ rest between
  refine ⟨others + count, last, ?_, fun fuel => ?_, ?_⟩
  · rw [List.length_append]
    omega
  · rw [← Nat.add_assoc, reads, readsOn]
  · rwa [← List.append_assoc]

/-- A candidate that may be given up is refreshed. -/
theorem exists_refresh (mark : Mark) {candidate : Option Candidate} (free : MayDrop candidate) :
    ∃ kept, refresh mark candidate = some kept ∧ MayDrop kept := by
  cases candidate with
  | none => exact ⟨none, rfl, rfl⟩
  | some candidate =>
      have optional : candidate.required = false := free
      rw [refresh, optional]
      split
      · exact ⟨_, rfl, free⟩
      · exact ⟨none, rfl, rfl⟩

theorem exists_mapM_refresh (mark : Mark) {around : List (Option Candidate)}
    (free : ∀ candidate ∈ around, MayDrop candidate) :
    ∃ kept, around.mapM (refresh mark) = some kept ∧ kept.length = around.length ∧
      ∀ candidate ∈ kept, MayDrop candidate := by
  induction around with
  | nil => exact ⟨[], rfl, rfl, nofun⟩
  | cons candidate around ih =>
      obtain ⟨first, others⟩ := List.forall_mem_cons.mp free
      obtain ⟨kept, refreshed, keptFree⟩ := exists_refresh mark first
      obtain ⟨more, refreshedMore, length, moreFree⟩ := ih others
      refine ⟨kept :: more, by simp [refreshed, refreshedMore], by simp [length], ?_⟩
      exact List.forall_mem_cons.mpr ⟨keptFree, moreFree⟩

/-- The character is the first of a token: it is no blank, starts no comment and is no mark of the
order of octets. -/
def startsToken (c : Char) : Bool := !(isSeparator c || c == '#' || c == '\ufeff')

/-- Nothing is passed in front of a token or at the end of the text. -/
theorem skip_of_startsToken {text : List Char} (starts : ∀ c ∈ text.head?, startsToken c = true)
    (inFlow keyAllowed : Bool) (mark : Mark) :
    skip inFlow false keyAllowed mark text = (keyAllowed, ⟨mark, text⟩) := by
  cases text with
  | nil => rfl
  | cons c rest =>
      have first := starts c rfl
      simp only [startsToken, isSeparator, isGap, Bool.not_eq_true', Bool.or_eq_false_iff] at first
      obtain ⟨⟨⟨⟨space, tab⟩, unbroken⟩, comment⟩, order⟩ := first
      have other : c ≠ '\r' := by
        rintro rfl
        exact absurd unbroken (by decide)
      simp [skip, space, tab, unbroken, comment, order, other]

section Steps

variable {layout : Layout} {brackets : Nat} {keyAllowed : Bool} {before : List Token}
  {rest : List Char}

/-- Outside all blocks, no block ends. -/
theorem Between.unroll (between : Between layout brackets keyAllowed before rest) (column : Int) :
    layout.unroll column = layout := by
  rw [Layout.unroll, between.outer_eq]
  split <;> rfl

/-- A candidate that may be given up is given up. -/
theorem dropCandidate_of_mayDrop (free : MayDrop layout.candidate) :
    layout.dropCandidate = some { layout with candidate := none } := by
  rw [dropCandidate, if_neg]
  rw [free]
  exact Bool.false_ne_true

/-- The place stays the same in front of a token, and so does a candidate that is in reach. -/
theorem Between.toToken (between : Between layout brackets keyAllowed before rest)
    (starts : ∀ c ∈ rest.head?, startsToken c = true) :
    ∃ next, layout.toToken = some next ∧ Between next brackets keyAllowed before rest ∧
      ∀ candidate, layout.candidate = some candidate →
        isStale layout.cursor.mark candidate = false → next.candidate = some candidate := by
  obtain ⟨candidate, refreshed, free⟩ := exists_refresh layout.cursor.mark between.candidate
  obtain ⟨around, refreshedAround, length, freeAround⟩ :=
    exists_mapM_refresh layout.cursor.mark between.around
  have still : skip layout.inFlow false layout.keyAllowed layout.cursor.mark layout.cursor.rest =
      (layout.keyAllowed, layout.cursor) := by
    rw [between.rest_eq, skip_of_startsToken starts, ← between.rest_eq]
  have kept : Between { layout with candidate := candidate, around := around } brackets keyAllowed
      before rest :=
    { between with
      candidate := free
      length_around := length.trans between.length_around
      around := freeAround }
  refine ⟨{ layout with candidate := candidate, around := around }, ?_, kept, ?_⟩
  · rw [Layout.toToken, still]
    simp only [refreshAll, refreshed, refreshedAround, Option.bind_eq_bind, Option.bind_some]
    exact congrArg some (kept.unroll _)
  · intro known found fresh
    rw [found, refresh, fresh] at refreshed
    exact (Option.some.inj refreshed).symm

/-- The step that reads a token. -/
theorem Between.readAll_succ {c : Char}
    (between : Between layout brackets keyAllowed before (c :: rest))
    (starts : startsToken c = true) :
    ∃ start, Between start brackets keyAllowed before (c :: rest) ∧
      (∀ next, start.readToken c rest = some next →
        ∀ fuel, readAll (fuel + 1) layout = readAll fuel next) ∧
      ∀ candidate, layout.candidate = some candidate →
        isStale layout.cursor.mark candidate = false → start.candidate = some candidate := by
  obtain ⟨start, found, same, stays⟩ := between.toToken (by simpa using starts)
  refine ⟨start, same, fun next read fuel => ?_, stays⟩
  rw [readAll, found]
  simp only [Option.bind_eq_bind, Option.bind_some, same.rest_eq, read]

/-- No document starts or ends within a line. -/
theorem Between.unmarked (between : Between layout brackets keyAllowed before rest) :
    atDocumentMarker layout.cursor = false ∧ (layout.cursor.column == 0) = false := by
  have inside : (layout.cursor.column == 0) = false :=
    beq_eq_false_iff_ne.mpr (Nat.ne_of_gt between.column_pos)
  exact ⟨by rw [atDocumentMarker, inside, Bool.false_and], inside⟩

/-- The layout stands between brackets. -/
theorem Between.inFlow (between : Between layout (brackets + 1) keyAllowed before rest) :
    layout.inFlow = true := by
  have length := between.length_around
  cases around : layout.around with
  | nil => simp [around] at length
  | cons => simp [Layout.inFlow, around]

/-- A candidate at this place may be given up. -/
theorem Between.saveCandidate (between : Between layout brackets keyAllowed before rest) :
    ∃ candidate, layout.saveCandidate = some { layout with candidate := candidate } ∧
      MayDrop candidate ∧
      (keyAllowed = true → candidate = some ⟨before.length, layout.cursor.mark, false⟩) := by
  have outside : (layout.indent == (layout.cursor.column : Int)) = false := by
    rw [between.indent_eq, beq_eq_false_iff_ne]
    omega
  cases keyAllowed with
  | false =>
      refine ⟨layout.candidate, ?_, between.candidate, nofun⟩
      exact if_neg (ne_true_of_eq_false between.keyAllowed_eq)
  | true =>
      refine ⟨some ⟨before.length, layout.cursor.mark, false⟩, ?_, rfl, fun _ => rfl⟩
      rw [Layout.saveCandidate, if_pos between.keyAllowed_eq,
        dropCandidate_of_mayDrop between.candidate, outside, ← between.count_eq]
      simp

/-- The layout behind one more token on the same line. -/
theorem Between.emit (between : Between layout brackets keyAllowed before rest) {cursor : Cursor}
    (inside : 0 < cursor.mark.column) (keyAllowedAfter : Bool) (token : Token) :
    Between ({ layout with cursor := cursor, keyAllowed := keyAllowedAfter }.emit token) brackets
      keyAllowedAfter (before ++ [token]) cursor.rest :=
  { between with
    rest_eq := rfl
    column_pos := inside
    reversed_eq := by simp [Layout.emit, between.reversed_eq]
    count_eq := by simp [Layout.emit, between.count_eq]
    keyAllowed_eq := rfl }

/-- The layout with another candidate that may be given up. -/
theorem Between.withCandidate (between : Between layout brackets keyAllowed before rest)
    (candidate : Option Candidate) (free : MayDrop candidate) :
    Between { layout with candidate := candidate } brackets keyAllowed before rest :=
  { between with candidate := free }

/-- A text between double quotes is read; where a key may start, it is a candidate for one. -/
theorem Between.readQuoted {text : List Char}
    (between : Between layout brackets keyAllowed before (Quoted.write text ++ rest)) :
    ∃ next, layout.readQuoted .double = some next ∧
      Between next brackets false (before ++ [.scalar text false]) rest ∧
      next.cursor.mark = layout.cursor.mark.past (Quoted.write text).length ∧
      (keyAllowed = true → next.candidate = some ⟨before.length, layout.cursor.mark, false⟩) := by
  obtain ⟨candidate, saved, free, fresh⟩ := between.saveCandidate
  have cursor : layout.cursor = ⟨layout.cursor.mark, Quoted.write text ++ rest⟩ := by
    rw [← between.rest_eq]
  have read := Quoted.read_write text layout.cursor.mark rest
  rw [← cursor] at read
  let cursor : Cursor := ⟨layout.cursor.mark.past (Quoted.write text).length, rest⟩
  let next : Layout := { layout with candidate := candidate, cursor := cursor, keyAllowed := false }
  have inside : 0 < cursor.mark.column := Nat.add_pos_left between.column_pos _
  refine ⟨next.emit (.scalar text false), ?_,
    (between.withCandidate candidate free).emit inside false (.scalar text false), rfl, fresh⟩
  simp only [Layout.readQuoted, saved, read, Option.bind_eq_bind, Option.bind_some]
  rfl

/-- The layout behind one more token of one character. -/
theorem Between.emitPast {c : Char}
    (between : Between layout brackets keyAllowed before (c :: rest)) (token : Token) :
    Between ((layout.past 1).emit token) brackets keyAllowed (before ++ [token]) rest :=
  { between with
    rest_eq := by simp [Layout.emit, Layout.past, Cursor.past, between.rest_eq]
    column_pos := Nat.succ_pos _
    reversed_eq := by simp [Layout.emit, Layout.past, between.reversed_eq]
    count_eq := by simp [Layout.emit, Layout.past, between.count_eq] }

/-- The layout with another answer to whether a key may start. -/
theorem Between.allowKey (between : Between layout brackets keyAllowed before rest)
    (allowed : Bool) : Between (layout.allowKey allowed) brackets allowed before rest :=
  { between with keyAllowed_eq := rfl }

/-- The colon behind a candidate makes a key of it. -/
theorem Between.readValue {token : Token} {mark : Mark}
    (between : Between layout (brackets + 1) false (before ++ [token]) (':' :: rest))
    (candidate : layout.candidate = some ⟨before.length, mark, false⟩) :
    ∃ next, layout.readValue = some next ∧
      Between next (brackets + 1) false (before ++ [.key, token] ++ [.value]) rest := by
  let keyed : Layout := layout.insert before.length .key
  have last : layout.count - before.length = 1 := by
    simp [between.count_eq]
  have same : Between keyed (brackets + 1) false (before ++ [.key, token]) (':' :: rest) :=
    { between with
      reversed_eq := by simp [keyed, Layout.insert, last, between.reversed_eq]
      count_eq := by simp [keyed, Layout.insert, between.count_eq] }
  have unrolled : keyed.roll mark.column before.length .blockMapping = keyed := by
    rw [roll, same.inFlow]
    rfl
  let next : Layout := { keyed with candidate := none, keyAllowed := false }
  refine ⟨(next.past 1).emit .value, ?_,
    ((same.withCandidate none rfl).allowKey false).emitPast .value⟩
  rw [Layout.readValue, candidate]
  dsimp only
  rw [unrolled]

/-- A bracket opens a collection. -/
theorem Between.openFlow {c : Char}
    (between : Between layout brackets keyAllowed before (c :: rest)) (token : Token) :
    ∃ next, layout.openFlow token = some next ∧
      Between next (brackets + 1) true (before ++ [token]) rest := by
  obtain ⟨candidate, saved, free, -⟩ := between.saveCandidate
  let inner : Layout :=
    { layout with around := candidate :: layout.around, candidate := none, keyAllowed := true }
  have opened : Between inner (brackets + 1) true before (c :: rest) :=
    { between with
      keyAllowed_eq := rfl
      candidate := rfl
      length_around := by simp [inner, between.length_around]
      around := List.forall_mem_cons.mpr ⟨free, between.around⟩ }
  refine ⟨_, ?_, opened.emitPast token⟩
  simp only [Layout.openFlow, saved, Option.bind_eq_bind, Option.bind_some]
  rfl

/-- A bracket closes a collection. -/
theorem Between.closeFlow {c : Char}
    (between : Between layout (brackets + 1) keyAllowed before (c :: rest)) (token : Token) :
    ∃ next, layout.closeFlow token = some next ∧
      Between next brackets false (before ++ [token]) rest := by
  have length := between.length_around
  have free := between.around
  cases surrounding : layout.around with
  | nil => simp [surrounding] at length
  | cons candidate around =>
      rw [surrounding] at length free
      obtain ⟨first, others⟩ := List.forall_mem_cons.mp free
      let outer : Layout := { layout with candidate := candidate, around := around }
      have closed : Between outer brackets keyAllowed before (c :: rest) :=
        { between with
          candidate := first
          length_around := Nat.succ.inj length
          around := others }
      refine ⟨_, ?_, (closed.allowKey false).emitPast token⟩
      simp only [Layout.closeFlow, dropCandidate_of_mayDrop between.candidate, surrounding,
        Option.bind_eq_bind, Option.bind_some]
      rfl

end Steps

variable {brackets after : Nat} {keyAllowed keyAllowedAfter : Bool}

/-- One token is scanned in one step. -/
theorem Scans.of_readToken {c : Char} {text : List Char} {tokens : List Token}
    (starts : startsToken c = true)
    (reads : ∀ layout before rest,
      Between layout brackets keyAllowed before (c :: (text ++ rest)) →
        ∃ next, layout.readToken c (text ++ rest) = some next ∧
          Between next after keyAllowedAfter (before ++ tokens) rest) :
    Scans brackets keyAllowed (c :: text) tokens after keyAllowedAfter := by
  intro layout before rest between
  obtain ⟨start, same, step, -⟩ := between.readAll_succ starts
  obtain ⟨next, read, done⟩ := reads start before rest same
  exact ⟨1, next, Nat.succ_pos _, step next read, done⟩

/-- A text between double quotes is a scalar. -/
theorem Scans.quoted (text : List Char) :
    Scans brackets keyAllowed (Quoted.write text) [.scalar text false] brackets false := by
  refine .of_readToken rfl fun layout before rest between => ?_
  obtain ⟨next, read, done, -⟩ := between.readQuoted
  exact ⟨next, by simpa [readToken, between.unmarked] using read, done⟩

/-- A short text between double quotes with a colon behind it is the name of a member. -/
theorem Scans.name {name : List Char} (short : (Quoted.write name).length ≤ keyLimit) :
    Scans (brackets + 1) true (Quoted.write name ++ [':']) [.key, .scalar name false, .value]
      (brackets + 1) false := by
  intro layout before rest between
  rw [List.append_assoc] at between
  obtain ⟨start, same, step, -⟩ := between.readAll_succ rfl
  obtain ⟨next, read, done, mark, fresh⟩ := same.readQuoted
  obtain ⟨colon, sameColon, stepColon, stays⟩ := done.readAll_succ (c := ':') rfl
  have reach : isStale next.cursor.mark ⟨before.length, start.cursor.mark, false⟩ = false := by
    simpa [isStale, mark, Mark.past] using short
  obtain ⟨last, readColon, keyed⟩ := sameColon.readValue (stays _ (fresh rfl) reach)
  rw [List.append_assoc] at keyed
  refine ⟨2, last, by simp [Quoted.write], fun fuel => ?_, keyed⟩
  rw [step next (by simpa [readToken, same.unmarked] using read) (fuel + 1)]
  apply stepColon
  simpa [readToken, sameColon.unmarked, sameColon.inFlow] using readColon

/-- A comma separates two members or items. -/
theorem Scans.comma : Scans brackets keyAllowed [','] [.flowEntry] brackets true := by
  refine .of_readToken rfl fun layout before rest between => ?_
  have dropped := between.withCandidate none rfl
  refine ⟨_, ?_, (dropped.allowKey true).emitPast .flowEntry⟩
  simp [readToken, between.unmarked, readFlowEntry, dropCandidate_of_mayDrop between.candidate]

theorem Scans.openSequence :
    Scans brackets keyAllowed ['['] [.flowSequence] (brackets + 1) true :=
  .of_readToken rfl fun layout before rest between => by
    simpa [readToken, between.unmarked] using between.openFlow .flowSequence

theorem Scans.openMapping :
    Scans brackets keyAllowed ['\x7b'] [.flowMapping] (brackets + 1) true :=
  .of_readToken rfl fun layout before rest between => by
    simpa [readToken, between.unmarked] using between.openFlow .flowMapping

theorem Scans.closeSequence :
    Scans (brackets + 1) keyAllowed [']'] [.flowSequenceEnd] brackets false :=
  .of_readToken rfl fun layout before rest between => by
    simpa [readToken, between.unmarked] using between.closeFlow .flowSequenceEnd

theorem Scans.closeMapping :
    Scans (brackets + 1) keyAllowed ['\x7d'] [.flowMappingEnd] brackets false :=
  .of_readToken rfl fun layout before rest between => by
    simpa [readToken, between.unmarked] using between.closeFlow .flowMappingEnd

/-- A character of a word between brackets. -/
def isWordChar (c : Char) : Bool :=
  startsToken c && !(Plain.isFlowIndicator c || c == ':')

/-- A word between brackets: its first character is no indicator, or else a hyphen. -/
structure IsWord (word : List Char) : Prop where
  nonempty : word ≠ []
  chars : ∀ c ∈ word, isWordChar c = true
  head : ∀ c ∈ word.head?, isIndicator c = false ∨ c = '-'

/-- Characters that structure a collection are no separators. -/
theorem isSeparator_of_isFlowIndicator {c : Char} (flow : Plain.isFlowIndicator c = true) :
    isSeparator c = false := by
  simp only [Plain.isFlowIndicator, Bool.or_eq_true, beq_iff_eq] at flow
  rcases flow with (((rfl | rfl) | rfl) | rfl) | rfl <;> rfl

/-- A word is taken up to a character that structures the collection. -/
theorem takeWord?_append {word : List Char} (chars : ∀ c ∈ word, isWordChar c = true) {next : Char}
    (ends : Plain.isFlowIndicator next = true) (rest : List Char) :
    Plain.takeWord? true (word ++ next :: rest) = some (word, next :: rest) := by
  induction word with
  | nil =>
      have colon : next ≠ ':' := by
        rintro rfl
        exact absurd ends (by decide)
      simp [Plain.takeWord?, isSeparator_of_isFlowIndicator ends, colon, ends]
  | cons c word ih =>
      obtain ⟨first, others⟩ := List.forall_mem_cons.mp chars
      simp only [isWordChar, startsToken, Bool.and_eq_true, Bool.not_eq_true',
        Bool.or_eq_false_iff, beq_eq_false_iff_ne] at first
      obtain ⟨⟨⟨solid, -⟩, -⟩, flow, colon⟩ := first
      simp [Plain.takeWord?, solid, flow, colon, ih others]

/-- What follows the characters of a word is no separator. -/
theorem atSeparator_append {word : List Char} (chars : ∀ c ∈ word, isWordChar c = true)
    {next : Char} (ends : Plain.isFlowIndicator next = true) (rest : List Char) :
    atSeparator (word ++ next :: rest) = false := by
  cases word with
  | nil => exact isSeparator_of_isFlowIndicator ends
  | cons c word =>
      have first := chars c List.mem_cons_self
      simp only [isWordChar, startsToken, Bool.and_eq_true, Bool.not_eq_true',
        Bool.or_eq_false_iff] at first
      exact first.1.1.1

section Words

variable {layout : Layout} {before : List Token} {rest word : List Char} {c next : Char}

/-- A word starts a plain scalar. -/
theorem Between.readToken_word (valid : IsWord (c :: word))
    (ends : Plain.isFlowIndicator next = true)
    (between : Between layout (brackets + 1) keyAllowed before (c :: (word ++ next :: rest))) :
    layout.readToken c (word ++ next :: rest) = layout.readPlain := by
  obtain ⟨first, others⟩ := List.forall_mem_cons.mp valid.chars
  have separated := atSeparator_append others ends rest
  have ungapped : (word ++ next :: rest).head?.any isGap = false := by
    cases split : word ++ next :: rest with
    | nil => rfl
    | cons d more =>
        rw [split, atSeparator, isSeparator, Bool.or_eq_false_iff] at separated
        exact separated.1
  rcases valid.head c rfl with plain | rfl
  · simp only [isWordChar, startsToken, Bool.and_eq_true, Bool.not_eq_true',
      Bool.or_eq_false_iff] at first
    have solid := first.1.1.1
    have starts : startsPlain layout.inFlow c (word ++ next :: rest) = true := by
      simp [startsPlain, solid, plain]
    simp only [isIndicator, Bool.or_eq_false_iff] at plain
    simp [readToken, between.unmarked, plain, starts]
  · have starts : startsPlain layout.inFlow '-' (word ++ next :: rest) = true := by
      rw [startsPlain, ungapped]
      simp
    simp [readToken, between.unmarked, separated, starts]

/-- A word is read as a plain scalar. -/
theorem Between.readPlain (valid : IsWord word) (ends : Plain.isFlowIndicator next = true)
    (between : Between layout (brackets + 1) keyAllowed before (word ++ next :: rest)) :
    ∃ last, layout.readPlain = some last ∧
      Between last (brackets + 1) false (before ++ [.scalar word true]) (next :: rest) := by
  obtain ⟨candidate, saved, free, -⟩ := between.saveCandidate
  let cursor : Cursor := ⟨layout.cursor.mark.past word.length, next :: rest⟩
  have reading : Plain.read layout.inFlow layout.indent layout.cursor =
      some ⟨word, false, cursor⟩ := by
    have uncommented : ((word ++ next :: rest).head? == some '#') = false := by
      obtain ⟨c, more, rfl⟩ := List.exists_cons_of_ne_nil valid.nonempty
      have first := valid.chars c List.mem_cons_self
      simp only [isWordChar, startsToken, Bool.and_eq_true, Bool.not_eq_true',
        Bool.or_eq_false_iff] at first
      exact first.1.1.2
    have taken := takeWord?_append valid.chars ends rest
    have solid := isSeparator_of_isFlowIndicator ends
    rw [between.inFlow, Plain.read, Plain.readWords, between.unmarked.1, between.rest_eq,
      uncommented, taken]
    simp [atSeparator, solid, valid.nonempty, Gap.empty, Gap.folded, cursor]
  let last : Layout := { layout with candidate := candidate, cursor := cursor, keyAllowed := false }
  have inside : 0 < cursor.mark.column := Nat.add_pos_left between.column_pos _
  refine ⟨last.emit (.scalar word true), ?_,
    (between.withCandidate candidate free).emit inside false (.scalar word true)⟩
  have same : { layout with candidate := candidate }.inFlow = layout.inFlow := rfl
  simp only [Layout.readPlain, saved, same, reading, Option.bind_eq_bind, Option.bind_some]
  rfl

end Words

/-- A word in front of a character that structures the collection is a plain scalar. -/
theorem Scans.word {word text : List Char} {next : Char} {tokens : List Token}
    (valid : IsWord word) (ends : Plain.isFlowIndicator next = true)
    (others : Scans (brackets + 1) false (next :: text) tokens after keyAllowedAfter) :
    Scans (brackets + 1) keyAllowed (word ++ next :: text) (.scalar word true :: tokens) after
      keyAllowedAfter := by
  intro layout before rest between
  rw [List.append_assoc] at between
  obtain ⟨c, more, rfl⟩ := List.exists_cons_of_ne_nil valid.nonempty
  have first := valid.chars c List.mem_cons_self
  rw [isWordChar, Bool.and_eq_true] at first
  obtain ⟨start, same, step, -⟩ := between.readAll_succ first.1
  obtain ⟨scanned, read, done⟩ := same.readPlain valid ends
  obtain ⟨count, last, few, reads, finished⟩ := others scanned _ rest done
  rw [List.append_assoc] at finished
  refine ⟨count + 1, last, ?_, fun fuel => ?_, finished⟩
  · simp only [List.length_append, List.length_cons] at few ⊢
    omega
  · rw [← Nat.add_assoc, step scanned, reads]
    exact (same.readToken_word valid ends).trans read

/-- At the end of the text, the tokens are complete. -/
theorem Between.readAll_nil {layout : Layout} {tokens : List Token}
    (between : Between layout brackets keyAllowed tokens []) (fuel : Nat) :
    readAll (fuel + 1) layout = some tokens := by
  obtain ⟨last, found, same, -⟩ := between.toToken nofun
  rw [readAll, found]
  simp only [Option.bind_eq_bind, Option.bind_some, same.rest_eq, same.unroll,
    dropCandidate_of_mayDrop same.candidate, same.reversed_eq, List.reverse_reverse]

/-- A text that starts with an opening bracket is read as the tokens of its scan. -/
theorem Scans.tokens?_eq {text : List Char} {tokens : List Token}
    (scans : Scans 1 true text tokens 0 keyAllowed)
    (allowed : ∀ c ∈ text, isAllowed c = true) :
    tokens? ('\x7b' :: text) = some (.flowMapping :: tokens) := by
  let first : Layout :=
    ⟨⟨⟨1, 0, 1⟩, text⟩, [.flowMapping], 1, -1, [], true, none, [some ⟨0, .start, false⟩]⟩
  have step (fuel : Nat) : readAll (fuel + 1) (.start ('\x7b' :: text)) = readAll fuel first := rfl
  have between : Between first 1 true [.flowMapping] (text ++ []) :=
    { rest_eq := (List.append_nil text).symm
      column_pos := Nat.one_pos
      reversed_eq := rfl
      count_eq := rfl
      indent_eq := rfl
      outer_eq := rfl
      keyAllowed_eq := rfl
      candidate := rfl
      length_around := rfl
      around := List.forall_mem_singleton.mpr rfl }
  obtain ⟨count, last, few, reads, done⟩ := scans first [.flowMapping] [] between
  have all : ('\x7b' :: text).all isAllowed = true := by
    simp only [List.all_cons, List.all_eq_true, Bool.and_eq_true]
    exact ⟨rfl, allowed⟩
  have fuel : text.length + 1 = text.length - count + 1 + count := by omega
  rw [tokens?, if_pos all, List.length_cons, step, fuel, reads, done.readAll_nil]
  rfl

end FilterQuery.Yaml.Layout
