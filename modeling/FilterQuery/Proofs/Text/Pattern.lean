import Mathlib.Data.List.TakeWhile

namespace FilterQuery.Text

/-- A part of a pattern: a row of characters of a class, with a least length, or one of several
words. -/
inductive Part where
  | row (inside : Char → Bool) (least : Nat)
  | oneOf (words : List (List Char))

/-- The cuts of a text behind a row of characters of a class, the longest row first. -/
def rowCuts (inside : Char → Bool) : List Char → List (List Char × List Char)
  | [] => [([], [])]
  | c :: rest =>
      (if inside c then (rowCuts inside rest).map fun cut => (c :: cut.1, cut.2) else []) ++
        [([], c :: rest)]

/-- The cuts of a text behind a part, in the order in which they are tried. -/
def Part.cuts : Part → List Char → List (List Char × List Char)
  | .row inside least, text => (rowCuts inside text).filter fun cut => least ≤ cut.1.length
  | .oneOf words, text =>
      (words.filter fun word => word.isPrefixOf text).map fun word =>
        (word, text.drop word.length)

/-- What the parts of a pattern take from a text that they match as a whole. The first cut of a part
is kept behind which the other parts match. -/
def capture? : List Part → List Char → Option (List (List Char))
  | [], text => if text.isEmpty then some [] else none
  | part :: more, text =>
      (part.cuts text).findSome? fun cut => (capture? more cut.2).map (cut.1 :: ·)

variable {inside : Char → Bool}

/-- A cut divides the text, and the class holds what stands in front of it. -/
theorem of_mem_rowCuts {text : List Char} {cut : List Char × List Char}
    (member : cut ∈ rowCuts inside text) :
    cut.1 ++ cut.2 = text ∧ ∀ c ∈ cut.1, inside c = true := by
  induction text generalizing cut with
  | nil =>
      cases List.mem_singleton.mp member
      exact ⟨rfl, List.forall_mem_nil _⟩
  | cons c rest ih =>
      rcases List.mem_append.mp member with longer | shortest
      · split at longer
        · rename_i head
          obtain ⟨previous, found, rfl⟩ := List.mem_map.mp longer
          obtain ⟨whole, chars⟩ := ih found
          exact ⟨congrArg (c :: ·) whole, List.forall_mem_cons.mpr ⟨head, chars⟩⟩
        · cases longer
      · cases List.mem_singleton.mp shortest
        exact ⟨rfl, List.forall_mem_nil _⟩

/-- The longest row is tried first; behind a shorter one the class goes on. -/
theorem exists_rowCuts (inside : Char → Bool) (text : List Char) :
    ∃ shorter, rowCuts inside text =
        (text.takeWhile inside, text.dropWhile inside) :: shorter ∧
      ∀ cut ∈ shorter, ∃ c ∈ cut.2.head?, inside c = true := by
  induction text with
  | nil => exact ⟨[], rfl, List.forall_mem_nil _⟩
  | cons c rest ih =>
      cases head : inside c with
      | false =>
          refine ⟨[], ?_, List.forall_mem_nil _⟩
          simp [rowCuts, head]
      | true =>
          obtain ⟨shorter, cuts, goesOn⟩ := ih
          refine ⟨shorter.map (fun cut => (c :: cut.1, cut.2)) ++ [([], c :: rest)], ?_, ?_⟩
          · simp [rowCuts, head, cuts]
          · intro cut member
            rcases List.mem_append.mp member with longer | shortest
            · obtain ⟨previous, found, rfl⟩ := List.mem_map.mp longer
              exact goesOn previous found
            · cases List.mem_singleton.mp shortest
              exact ⟨c, rfl, head⟩

/-- A row takes all that it can if the parts behind it match the rest. -/
theorem capture?_row_of_some {more : List Part} {text : List Char} {taken : List (List Char)}
    (matched : capture? more (text.dropWhile inside) = some taken) :
    capture? (.row inside 0 :: more) text = some (text.takeWhile inside :: taken) := by
  obtain ⟨shorter, cuts, -⟩ := exists_rowCuts inside text
  rw [capture?, Part.cuts, cuts, List.filter_cons_of_pos rfl, List.findSome?_cons, matched]
  rfl

/-- Backtracking does not help a row if the parts behind it match no text that its class goes on
in: then the row takes all that it can. -/
theorem capture?_row {more : List Part}
    (apart : ∀ text taken, capture? more text = some taken →
      ∀ c ∈ text.head?, inside c = false) (least : Nat) (text : List Char) :
    capture? (.row inside least :: more) text =
      if least ≤ (text.takeWhile inside).length then
        (capture? more (text.dropWhile inside)).map (text.takeWhile inside :: ·)
      else none := by
  obtain ⟨shorter, cuts, goesOn⟩ := exists_rowCuts inside text
  have fail : (shorter.filter fun cut => least ≤ cut.1.length).findSome?
      (fun cut => (capture? more cut.2).map (cut.1 :: ·)) = none := by
    rw [List.findSome?_eq_none_iff]
    intro cut member
    obtain ⟨c, first, more⟩ := goesOn cut (List.mem_filter.mp member).1
    cases matched : capture? _ cut.2 with
    | none => rfl
    | some taken =>
        rw [apart cut.2 taken matched c first] at more
        cases more
  rw [capture?, Part.cuts, cuts, List.filter_cons]
  by_cases enough : least ≤ (text.takeWhile inside).length
  · rw [if_pos (decide_eq_true enough), if_pos enough, List.findSome?_cons, fail]
    cases capture? more (text.dropWhile inside) <;> rfl
  · rw [if_neg (by simpa using enough), if_neg enough, fail]

/-- Words are tried in their order. -/
theorem capture?_oneOf (words : List (List Char)) (more : List Part) (text : List Char) :
    capture? (.oneOf words :: more) text =
      (words.filter fun word => word.isPrefixOf text).findSome? fun word =>
        (capture? more (text.drop word.length)).map (word :: ·) := by
  rw [capture?, Part.cuts, List.findSome?_map]
  rfl

/-- A last row takes a text of its class as a whole, and no other one. -/
theorem capture?_lastRow (inside : Char → Bool) (text : List Char) :
    capture? [.row inside 0] text = if text.all inside then some [text] else none := by
  have apart : ∀ text taken, capture? [] text = some taken →
      ∀ c ∈ text.head?, inside c = false := by
    intro text taken matched
    cases text with
    | nil => nofun
    | cons c rest => cases matched
  rw [capture?_row apart, if_pos (Nat.zero_le _)]
  cases whole : text.all inside with
  | true =>
      rw [List.all_eq_true] at whole
      rw [List.takeWhile_eq_self_iff.mpr whole, List.dropWhile_eq_nil_iff.mpr whole, if_pos rfl]
      rfl
  | false =>
      have rest : text.dropWhile inside ≠ [] := by
        intro empty
        rw [List.dropWhile_eq_nil_iff, ← List.all_eq_true, whole] at empty
        cases empty
      rw [if_neg Bool.false_ne_true, capture?, if_neg (by simpa using rest)]
      rfl

end FilterQuery.Text
