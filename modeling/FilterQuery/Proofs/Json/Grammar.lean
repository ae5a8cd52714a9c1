import FilterQuery.Proofs.Json.Numeral

namespace FilterQuery.Json

open Decimal

/-- The text of a piece between quotes. -/
inductive Piece.Spelled : Piece → List Char → Prop where
  | plain {c : Char} (printable : 0x20 ≤ c.toNat) (inner : c ≠ '\x22') (solid : c ≠ '\x5c') :
      Spelled (.char c) [c]
  | escaped {letter c : Char} (escape : escaped? letter = some c) :
      Spelled (.char c) ['\x5c', letter]
  | numbered {first second third fourth : Char} {n : Nat}
      (digits : hexUnit? first second third fourth = some n) :
      Spelled (.unit n) ['\x5c', 'u', first, second, third, fourth]

/-- The text, with its quotes, writes down some content. -/
def Quoted (content : Option String) (text : List Char) : Prop :=
  ∃ pieces rows, List.Forall₂ Piece.Spelled pieces rows ∧
    content = (joined? pieces).map String.ofList ∧ text = '\x22' :: (rows.flatten ++ ['\x22'])

namespace Tree

/-- The text holds blanks only. -/
def AllSpace (text : List Char) : Prop := ∀ c ∈ text, isSpace c = true

/-- The text is a mark between blanks. -/
def Marked (mark : Char) (text : List Char) : Prop :=
  ∃ before behind, AllSpace before ∧ AllSpace behind ∧ text = before ++ mark :: behind

mutual

/-- The text writes down a tree, without blanks around it. -/
inductive Written : Tree → List Char → Prop where
  | null : Written .null ['n', 'u', 'l', 'l']
  | yes : Written (.boolean true) ['t', 'r', 'u', 'e']
  | no : Written (.boolean false) ['f', 'a', 'l', 's', 'e']
  | number (negative : Bool) {spelling : Spelling} (strict : spelling.IsStrict) :
      Written (.number (.ofSpelling negative spelling)) (signText negative ++ spelling.text)
  | text {content : Option String} {text : List Char} (quoted : Quoted content text) :
      Written (.text content) text
  | emptyArray {blank : List Char} (space : AllSpace blank) :
      Written (.array [] true) ('[' :: (blank ++ [']']))
  | array {items : List Tree} {before text behind : List Char} (left : AllSpace before)
      (written : WrittenItems items text) (right : AllSpace behind) :
      Written (.array items true) ('[' :: (before ++ (text ++ (behind ++ [']']))))
  | emptyObject {blank : List Char} (space : AllSpace blank) :
      Written (.object [] true) ('\x7b' :: (blank ++ ['\x7d']))
  | object {members : List (Option String × Tree)} {before text behind : List Char}
      (left : AllSpace before) (written : WrittenMembers members text) (right : AllSpace behind) :
      Written (.object members true) ('\x7b' :: (before ++ (text ++ (behind ++ ['\x7d']))))

/-- The text writes down the items of an array, with commas between them. -/
inductive WrittenItems : List Tree → List Char → Prop where
  | last {item : Tree} {text : List Char} (written : Written item text) :
      WrittenItems [item] text
  | more {item : Tree} {items : List Tree} {text comma rest : List Char}
      (written : Written item text) (marked : Marked ',' comma)
      (others : WrittenItems items rest) :
      WrittenItems (item :: items) (text ++ (comma ++ rest))

/-- The text writes down the members of an object, with commas between them. -/
inductive WrittenMembers : List (Option String × Tree) → List Char → Prop where
  | last {key : Option String} {value : Tree} {name colon text : List Char}
      (quoted : Quoted key name) (named : Marked ':' colon) (written : Written value text) :
      WrittenMembers [(key, value)] (name ++ (colon ++ text))
  | more {key : Option String} {value : Tree} {members : List (Option String × Tree)}
      {name colon text comma rest : List Char}
      (quoted : Quoted key name) (named : Marked ':' colon) (written : Written value text)
      (marked : Marked ',' comma) (others : WrittenMembers members rest) :
      WrittenMembers ((key, value) :: members) (name ++ (colon ++ (text ++ (comma ++ rest))))

end

/-- The whole text writes down a tree; blanks may stand around it. -/
def Writes (tree : Tree) (input : List Char) : Prop :=
  ∃ before text behind, AllSpace before ∧ Written tree text ∧ AllSpace behind ∧
    input = before ++ (text ++ behind)

end Tree

/-- A spelled piece is taken from a text. -/
theorem pieces?_append {piece : Piece} {row : List Char} (spelled : piece.Spelled row)
    (rest : List Char) :
    pieces? (row ++ rest) = (pieces? rest).map fun taken => (piece :: taken.1, taken.2) := by
  cases spelled with
  | plain printable inner solid =>
      rename_i c
      have high : ¬ c.toNat < 0x20 := Nat.not_lt.mpr printable
      simp [pieces?, solid, high]
      cases pieces? rest <;> rfl
  | escaped escape =>
      rename_i letter c
      have other : letter ≠ 'u' := by
        rintro rfl
        cases escape
      simp [pieces?, other, escape]
      cases pieces? rest <;> rfl
  | numbered digits =>
      simp [pieces?, digits]
      cases pieces? rest <;> rfl

/-- A text between quotes is taken as its content. -/
theorem takeText?_of_spelled {pieces : List Piece} {rows : List (List Char)}
    (spelled : List.Forall₂ Piece.Spelled pieces rows) (rest : List Char) :
    Tree.takeText? (rows.flatten ++ '\x22' :: rest) =
      some ((joined? pieces).map String.ofList, rest) := by
  have taken : pieces? (rows.flatten ++ '\x22' :: rest) = some (pieces, rest) := by
    induction spelled with
    | nil => rfl
    | cons first _ ih => rw [List.flatten_cons, List.append_assoc, pieces?_append first, ih]; rfl
  rw [Tree.takeText?, taken]
  rfl

namespace Tree

variable {tree : Tree} {text rest : List Char}

theorem skipSpace_append {blank : List Char} (space : AllSpace blank) (rest : List Char) :
    skipSpace (blank ++ rest) = skipSpace rest :=
  List.dropWhile_append_of_pos space

/-- A mark between blanks is found behind the blanks. -/
theorem Marked.skipSpace_append {mark : Char} {text : List Char} (marked : Marked mark text)
    (solid : isSpace mark = false) (rest : List Char) :
    ∃ behind, AllSpace behind ∧ skipSpace (text ++ rest) = mark :: (behind ++ rest) := by
  obtain ⟨before, behind, left, right, rfl⟩ := marked
  refine ⟨behind, right, ?_⟩
  rw [List.append_assoc, Tree.skipSpace_append left, skipSpace, List.cons_append,
    List.dropWhile_cons_of_neg (by simp [solid])]

/-- A blank is no part of a numeral. -/
theorem endsNumeral_of_isSpace {c : Char} (space : isSpace c = true) (rest : List Char) :
    Numeral.EndsNumeral (c :: rest) := by
  intro d member
  cases member
  simp only [isSpace, Bool.or_eq_true, beq_iff_eq] at space
  rcases space with ((rfl | rfl) | rfl) | rfl <;> decide

/-- Blanks in front of the end of a numeral also end it. -/
theorem endsNumeral_append {blank : List Char} (space : AllSpace blank) {rest : List Char}
    (ends : Numeral.EndsNumeral rest) : Numeral.EndsNumeral (blank ++ rest) := by
  cases blank with
  | nil => exact ends
  | cons c blank => exact endsNumeral_of_isSpace (space c List.mem_cons_self) _

theorem Marked.endsNumeral {mark : Char} {text : List Char} (marked : Marked mark text)
    (ends : ∀ rest, Numeral.EndsNumeral (mark :: rest)) (rest : List Char) :
    Numeral.EndsNumeral (text ++ rest) := by
  obtain ⟨before, behind, left, -, rfl⟩ := marked
  rw [List.append_assoc]
  exact endsNumeral_append left (ends _)

theorem endsNumeral_cons {mark : Char} (other : mark = ',' ∨ mark = ']' ∨ mark = '\x7d')
    (rest : List Char) : Numeral.EndsNumeral (mark :: rest) := by
  intro c member
  cases member
  rcases other with rfl | rfl | rfl <;> decide

/-- What is written for a tree starts with no blank and with no closing bracket. -/
theorem Written.head (written : Written tree text) :
    ∃ c rest, text = c :: rest ∧ isSpace c = false ∧ c ≠ ']' := by
  cases written with
  | number negative strict =>
      rename_i spelling
      obtain ⟨c, row, split, starts⟩ := Numeral.exists_literal negative spelling
      refine ⟨c, row, split, ?_⟩
      rcases starts with rfl | digit
      · decide
      · exact forall_isDigit (p := fun c => isSpace c = false ∧ c ≠ ']') (by decide) c digit
  | text quoted =>
      obtain ⟨pieces, rows, -, -, rfl⟩ := quoted
      exact ⟨_, _, rfl, by decide, by decide⟩
  | _ => exact ⟨_, _, rfl, by decide, by decide⟩

theorem Written.skipSpace_append (written : Written tree text) (rest : List Char) :
    skipSpace (text ++ rest) = text ++ rest := by
  obtain ⟨c, row, rfl, solid, -⟩ := written.head
  exact List.dropWhile_cons_of_neg (by simp [solid])

/-- What is written for a tree is complete. -/
theorem Written.isComplete (written : Written tree text) : tree.isComplete = true := by
  cases written <;> rfl

theorem take_append {blank : List Char} (space : AllSpace blank) (fuel : Nat)
    (rest : List Char) : take fuel (blank ++ rest) = take fuel rest := by
  cases fuel with
  | zero => rfl
  | succ fuel => rw [take, take, skipSpace_append space]

theorem takeItems_append {blank : List Char} (space : AllSpace blank) (fuel : Nat)
    (rest : List Char) : takeItems fuel (blank ++ rest) = takeItems fuel rest := by
  cases fuel with
  | zero => rfl
  | succ fuel => rw [takeItems, takeItems, take_append space]

theorem takeMembers_append {blank : List Char} (space : AllSpace blank) (fuel : Nat)
    (rest : List Char) : takeMembers fuel (blank ++ rest) = takeMembers fuel rest := by
  cases fuel with
  | zero => rfl
  | succ fuel => rw [takeMembers, takeMembers, skipSpace_append space]

/-- Behind an opening bracket, items are taken unless the closing bracket comes first. -/
theorem take_array {fuel : Nat} {input row : List Char} {c : Char}
    (first : skipSpace input = c :: row) (other : c ≠ ']') {items : List Tree} {closed : Bool}
    (taken : takeItems fuel (c :: row) = (items, closed, rest)) :
    take (fuel + 1) ('[' :: input) = (.array items closed, rest) := by
  have start : skipSpace ('[' :: input) = '[' :: input := rfl
  rw [take, start]
  simp [first, other, taken]

theorem take_emptyArray (fuel : Nat) {input : List Char} (first : skipSpace input = ']' :: rest) :
    take (fuel + 1) ('[' :: input) = (.array [] true, rest) := by
  have start : skipSpace ('[' :: input) = '[' :: input := rfl
  rw [take, start]
  simp [first]

theorem take_object {fuel : Nat} {input row : List Char}
    (first : skipSpace input = '\x22' :: row) {members : List (Option String × Tree)}
    {closed : Bool} (taken : takeMembers fuel ('\x22' :: row) = (members, closed, rest)) :
    take (fuel + 1) ('\x7b' :: input) = (.object members closed, rest) := by
  have start : skipSpace ('\x7b' :: input) = '\x7b' :: input := rfl
  rw [take, start]
  simp [first, taken]

theorem take_emptyObject (fuel : Nat) {input : List Char}
    (first : skipSpace input = '\x7d' :: rest) :
    take (fuel + 1) ('\x7b' :: input) = (.object [] true, rest) := by
  have start : skipSpace ('\x7b' :: input) = '\x7b' :: input := rfl
  rw [take, start]
  simp [first]

/-- A text between quotes is taken as its content. -/
theorem take_quoted (fuel : Nat) {content : Option String} (quoted : Quoted content text)
    (rest : List Char) : take (fuel + 1) (text ++ rest) = (.text content, rest) := by
  obtain ⟨pieces, rows, spelled, rfl, rfl⟩ := quoted
  have start (row : List Char) : skipSpace ('\x22' :: row) = '\x22' :: row := rfl
  rw [List.cons_append, List.append_assoc, List.singleton_append, take, start]
  simp [takeText?_of_spelled spelled]

section Steps

variable {fuel : Nat} {input behind more : List Char} {item : Tree}

theorem takeItems_last (taken : take fuel input = (item, behind))
    (complete : item.isComplete = true) (ends : skipSpace behind = ']' :: rest) :
    takeItems (fuel + 1) input = ([item], true, rest) := by
  simp [takeItems, taken, complete, ends]

theorem takeItems_more (taken : take fuel input = (item, behind))
    (complete : item.isComplete = true) (goesOn : skipSpace behind = ',' :: more)
    {items : List Tree} (others : takeItems fuel more = (items, true, rest)) :
    takeItems (fuel + 1) input = (item :: items, true, rest) := by
  simp [takeItems, taken, complete, goesOn, others]

variable {key : Option String} {name colon : List Char} (quoted : Quoted key name)
  (named : Marked ':' colon)

include quoted named

theorem takeMembers_last (taken : take fuel input = (item, behind))
    (complete : item.isComplete = true) (ends : skipSpace behind = '\x7d' :: rest) :
    takeMembers (fuel + 1) (name ++ (colon ++ input)) = ([(key, item)], true, rest) := by
  obtain ⟨pieces, rows, spelled, rfl, rfl⟩ := quoted
  obtain ⟨blank, space, found⟩ := named.skipSpace_append (by decide) input
  have start (row : List Char) : skipSpace ('\x22' :: row) = '\x22' :: row := rfl
  rw [List.cons_append, List.append_assoc, List.singleton_append, takeMembers, start]
  simp [takeText?_of_spelled spelled, found, take_append space, taken, complete, ends]

theorem takeMembers_more (taken : take fuel input = (item, behind))
    (complete : item.isComplete = true) (goesOn : skipSpace behind = ',' :: more)
    {members : List (Option String × Tree)}
    (others : takeMembers fuel more = (members, true, rest)) :
    takeMembers (fuel + 1) (name ++ (colon ++ input)) = ((key, item) :: members, true, rest) := by
  obtain ⟨pieces, rows, spelled, rfl, rfl⟩ := quoted
  obtain ⟨blank, space, found⟩ := named.skipSpace_append (by decide) input
  have start (row : List Char) : skipSpace ('\x22' :: row) = '\x22' :: row := rfl
  rw [List.cons_append, List.append_assoc, List.singleton_append, takeMembers, start]
  simp [takeText?_of_spelled spelled, found, take_append space, taken, complete, goesOn, others]

end Steps

/-- What is written for items starts with no blank and with no closing bracket. -/
theorem WrittenItems.head {items : List Tree} (written : WrittenItems items text) :
    ∃ c rest, text = c :: rest ∧ isSpace c = false ∧ c ≠ ']' := by
  cases written with
  | last written => exact written.head
  | more written =>
      obtain ⟨c, row, rfl, first⟩ := written.head
      exact ⟨c, _, rfl, first⟩

/-- What is written for members starts with a quote. -/
theorem WrittenMembers.head {members : List (Option String × Tree)}
    (written : WrittenMembers members text) : ∃ rest, text = '\x22' :: rest := by
  cases written with
  | last quoted | more quoted =>
      obtain ⟨pieces, rows, -, -, rfl⟩ := quoted
      exact ⟨_, rfl⟩

theorem Marked.length_pos {mark : Char} (marked : Marked mark text) : 0 < text.length := by
  obtain ⟨before, behind, -, -, rfl⟩ := marked
  simp

mutual

/-- What is written for a tree is taken as the tree. The fuel is judged by the length of what is
written. -/
theorem Written.take_eq : {tree : Tree} → {text : List Char} → Written tree text →
    ∀ {fuel : Nat}, text.length < fuel → ∀ {rest : List Char}, Numeral.EndsNumeral rest →
      take fuel (text ++ rest) = (tree, rest)
  | _, _, written, 0, enough, _, _ => absurd enough (Nat.not_lt_zero _)
  | _, _, .null, _ + 1, _, _, _ => rfl
  | _, _, .yes, _ + 1, _, _, _ => rfl
  | _, _, .no, _ + 1, _, _, _ => rfl
  | _, _, .number negative strict, fuel + 1, _, _, ends => take_literal negative strict ends fuel
  | _, _, .text quoted, fuel + 1, _, rest, _ => take_quoted fuel quoted rest
  | _, _, .emptyArray space, fuel + 1, _, rest, _ => by
      rw [List.cons_append, List.append_assoc]
      exact take_emptyArray fuel (skipSpace_append space _)
  | _, _, .array left written right, fuel + 1, enough, rest, _ => by
      rename_i items before text behind _
      obtain ⟨c, row, split, solid, goesOn⟩ := written.head
      have enoughInside : text.length + 1 < fuel := by
        simp only [List.length_cons, List.length_append, List.length_nil] at enough
        omega
      have taken := written.takeItems_eq enoughInside right rest
      rw [split] at taken ⊢
      simp only [List.cons_append, List.append_assoc, List.nil_append] at taken ⊢
      refine take_array ?_ goesOn taken
      rw [skipSpace_append left]
      exact List.dropWhile_cons_of_neg (by simp [solid])
  | _, _, .emptyObject space, fuel + 1, _, rest, _ => by
      rw [List.cons_append, List.append_assoc]
      exact take_emptyObject fuel (skipSpace_append space _)
  | _, _, .object left written right, fuel + 1, enough, rest, _ => by
      rename_i members before text behind _
      obtain ⟨row, split⟩ := written.head
      have enoughInside : text.length + 1 < fuel := by
        simp only [List.length_cons, List.length_append, List.length_nil] at enough
        omega
      have taken := written.takeMembers_eq enoughInside right rest
      rw [split] at taken ⊢
      simp only [List.cons_append, List.append_assoc, List.nil_append] at taken ⊢
      exact take_object (skipSpace_append left _) taken

/-- What is written for items is taken as the items, up to the closing bracket. -/
theorem WrittenItems.takeItems_eq : {items : List Tree} → {text : List Char} →
    WrittenItems items text → ∀ {fuel : Nat}, text.length + 1 < fuel →
      ∀ {blank : List Char}, AllSpace blank → ∀ (rest : List Char),
        takeItems fuel (text ++ (blank ++ ']' :: rest)) = (items, true, rest)
  | _, _, _, 0, enough, _, _, _ => absurd enough (Nat.not_lt_zero _)
  | _, _, .last written, fuel + 1, enough, _, space, rest => by
      have taken := written.take_eq (Nat.lt_of_succ_lt_succ enough)
        (endsNumeral_append space (endsNumeral_cons (.inr (.inl rfl)) rest))
      exact takeItems_last taken written.isComplete (skipSpace_append space _)
  | _, _, .more written marked others, fuel + 1, enough, blank, space, rest => by
      rename_i item items text comma tail
      simp only [List.length_append] at enough
      have length := marked.length_pos
      have short : text.length < fuel := by omega
      have shorter : tail.length + 1 < fuel := by omega
      have taken := written.take_eq short
        (marked.endsNumeral (endsNumeral_cons (.inl rfl)) (tail ++ (blank ++ ']' :: rest)))
      obtain ⟨behind, after, found⟩ :=
        marked.skipSpace_append (by decide) (tail ++ (blank ++ ']' :: rest))
      have more := others.takeItems_eq shorter space rest
      rw [← takeItems_append after] at more
      rw [List.append_assoc, List.append_assoc]
      exact takeItems_more taken written.isComplete found more

/-- What is written for members is taken as the members, up to the closing bracket. -/
theorem WrittenMembers.takeMembers_eq : {members : List (Option String × Tree)} →
    {text : List Char} → WrittenMembers members text → ∀ {fuel : Nat}, text.length + 1 < fuel →
      ∀ {blank : List Char}, AllSpace blank → ∀ (rest : List Char),
        takeMembers fuel (text ++ (blank ++ '\x7d' :: rest)) = (members, true, rest)
  | _, _, _, 0, enough, _, _, _ => absurd enough (Nat.not_lt_zero _)
  | _, _, .last quoted named written, fuel + 1, enough, blank, space, rest => by
      rename_i key value name colon text
      have short : text.length < fuel := by
        simp only [List.length_append] at enough
        omega
      have taken := written.take_eq short
        (endsNumeral_append space (endsNumeral_cons (.inr (.inr rfl)) rest))
      rw [List.append_assoc, List.append_assoc]
      exact takeMembers_last quoted named taken written.isComplete (skipSpace_append space _)
  | _, _, .more quoted named written marked others, fuel + 1, enough, blank, space, rest => by
      rename_i key value members name colon text comma tail
      simp only [List.length_append] at enough
      have length := marked.length_pos
      have short : text.length < fuel := by omega
      have shorter : tail.length + 1 < fuel := by omega
      have taken := written.take_eq short
        (marked.endsNumeral (endsNumeral_cons (.inl rfl)) (tail ++ (blank ++ '\x7d' :: rest)))
      obtain ⟨behind, after, found⟩ :=
        marked.skipSpace_append (by decide) (tail ++ (blank ++ '\x7d' :: rest))
      have more := others.takeMembers_eq shorter space rest
      rw [← takeMembers_append after] at more
      simp only [List.append_assoc]
      exact takeMembers_more quoted named taken written.isComplete found more

end

/-- A text that writes down a tree is read as the tree. -/
theorem Writes.read_eq {input : List Char} (writes : Writes tree input) :
    read input = (tree, true) := by
  obtain ⟨before, text, behind, left, written, right, rfl⟩ := writes
  have enough : text.length < 2 * (before ++ (text ++ behind)).length + 2 := by
    simp only [List.length_append]
    omega
  have ends : Numeral.EndsNumeral behind := by
    rw [← List.append_nil behind]
    exact endsNumeral_append right Numeral.endsNumeral_nil
  have nothing : skipSpace behind = [] := List.dropWhile_eq_nil_iff.mpr right
  rw [read, take_append left, written.take_eq enough ends]
  simp [nothing]

end Tree

/-- A text that writes down a tree is decoded as the tree. -/
theorem decode_of_writes {α : Type} {tree : Tree} {input : List Char}
    (writes : Tree.Writes tree input) (reader : Tree → Except Decoding.Error α) :
    decode reader input = reader tree := by
  rw [decode, writes.read_eq]
  dsimp only
  cases reader tree <;> rfl

end FilterQuery.Json
