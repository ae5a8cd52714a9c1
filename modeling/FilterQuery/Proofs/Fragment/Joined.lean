import FilterQuery.Fragment
import Mathlib.Data.List.Basic

namespace FilterQuery.Fragments

variable {α : Type}

/-- Two rows with a separator between neighbours have one more between them. -/
theorem intercalate_append {β : Type} (separator : List β) {first second : List (List β)}
    (firstNonempty : first ≠ []) (secondNonempty : second ≠ []) :
    separator.intercalate (first ++ second) =
      separator.intercalate first ++ separator ++ separator.intercalate second := by
  induction first with
  | nil => exact absurd rfl firstNonempty
  | cons head rest ih =>
      cases rest with
      | nil =>
          obtain ⟨next, more, rfl⟩ := List.exists_cons_of_ne_nil secondNonempty
          simp [List.intercalate_cons_cons]
      | cons next more =>
          have tail := ih (List.cons_ne_nil _ _)
          simp only [List.cons_append, List.intercalate_cons_cons] at tail ⊢
          rw [tail]
          simp only [List.append_assoc]

/-- The parts in their order, with one joint between two neighbours. -/
def joined (joiner : Joiner) (parts : List (Fragments α)) : Fragments α :=
  List.intercalate [.joint joiner] parts

/-- The fragments with one more part, behind a joiner where one is needed. -/
def extend (fragments : Fragments α) (joiner : Joiner) (part : Fragments α) : Fragments α :=
  if fragments.needsJoiner then fragments ++ .joint joiner :: part else fragments ++ part

@[simp] theorem needsJoiner_nil : needsJoiner ([] : Fragments α) = false := rfl

/-- Only the last fragment decides whether a joiner is needed. -/
theorem needsJoiner_append {first second : Fragments α} (nonempty : second ≠ []) :
    (first ++ second).needsJoiner = second.needsJoiner := by
  obtain ⟨init, last, rfl⟩ := List.eq_nil_or_concat' second |>.resolve_left nonempty
  simp [needsJoiner, List.getLast?_append]

/-- Nothing is joined to the start of a group. -/
theorem needsJoiner_openGroup (fragments : Fragments α) :
    fragments.openGroup.needsJoiner = false := by
  unfold openGroup attach
  split <;> rw [needsJoiner_append (List.cons_ne_nil _ _)] <;> rfl

/-- A part that something can be joined to is not empty. -/
theorem ne_nil_of_needsJoiner {part : Fragments α} (closed : part.needsJoiner = true) :
    part ≠ [] := by
  rintro rfl
  exact Bool.false_ne_true closed

/-- A statement is put in as a part of one fragment. -/
theorem append_some (fragments : Fragments α) (joiner : Joiner) (content : α) :
    fragments.append joiner (some content) = fragments.extend joiner [.statement content] := rfl

/-- A group is put in as one part: its delimiters and what stands between them. -/
theorem closeGroup_openGroup_append (fragments inner : Fragments α) :
    (fragments.openGroup ++ inner).closeGroup =
      fragments.extend .and (.opening :: inner ++ [.closing]) := by
  unfold openGroup attach closeGroup extend
  split <;> simp

@[simp] theorem joined_nil (joiner : Joiner) : joined joiner ([] : List (Fragments α)) = [] := rfl

/-- One more part follows the others behind one joint. -/
theorem joined_concat (joiner : Joiner) {parts : List (Fragments α)} (nonempty : parts ≠ [])
    (part : Fragments α) :
    joined joiner (parts ++ [part]) = joined joiner parts ++ .joint joiner :: part := by
  rw [joined, intercalate_append _ nonempty (List.cons_ne_nil _ _)]
  simp [joined]

/-- Joined parts that are closed are closed. -/
theorem needsJoiner_joined (joiner : Joiner) {parts : List (Fragments α)} (nonempty : parts ≠ [])
    (closed : ∀ part ∈ parts, part.needsJoiner = true) :
    (joined joiner parts).needsJoiner = true := by
  obtain ⟨init, last, rfl⟩ := List.eq_nil_or_concat' parts |>.resolve_left nonempty
  have lastClosed : last.needsJoiner = true := closed last (by simp)
  by_cases alone : init = []
  · simpa [alone, joined] using lastClosed
  · rw [joined_concat joiner alone, List.append_cons,
      needsJoiner_append (ne_nil_of_needsJoiner lastClosed)]
    exact lastClosed

/-- A part is joined to all parts behind an open base, however many there are. -/
theorem extend_joined {base : Fragments α} (isOpen : base.needsJoiner = false) (joiner : Joiner)
    {parts : List (Fragments α)} (closed : ∀ part ∈ parts, part.needsJoiner = true)
    (part : Fragments α) :
    (base ++ joined joiner parts).extend joiner part =
      base ++ joined joiner (parts ++ [part]) := by
  by_cases empty : parts = []
  · simp [empty, extend, isOpen, joined]
  · have inner := needsJoiner_joined joiner empty closed
    have outer : (base ++ joined joiner parts).needsJoiner = true := by
      rw [needsJoiner_append (ne_nil_of_needsJoiner inner), inner]
    rw [extend, if_pos outer, joined_concat joiner empty, List.append_assoc]

/-- Statements that are put in one after another become the parts of one list. -/
theorem foldl_append_joined {β : Type} {base : Fragments α} (isOpen : base.needsJoiner = false)
    (joiner : Joiner) (statement : β → Option α) (values : List β) (before : List α) :
    values.foldl (fun fragments value => fragments.append joiner (statement value))
        (base ++ joined joiner (before.map fun content => [.statement content])) =
      base ++ joined joiner
        ((before ++ values.filterMap statement).map fun content => [.statement content]) := by
  induction values generalizing before with
  | nil => simp
  | cons value rest ih =>
      rw [List.foldl_cons]
      cases found : statement value with
      | none => rw [append_none, ih, List.filterMap_cons_none found]
      | some content =>
          have closed : ∀ part ∈ before.map fun content => [Fragment.statement content],
              needsJoiner part = true := by
            intro part member
            obtain ⟨content, -, rfl⟩ := List.mem_map.mp member
            rfl
          rw [append_some, extend_joined isOpen joiner closed]
          have step := ih (before ++ [content])
          simp only [List.map_append, List.map_cons, List.map_nil, List.append_assoc] at step ⊢
          rw [step, List.filterMap_cons_some found]
          rfl

/-- The text of joined parts is made of their texts with the text of the joiner between them. -/
theorem text_joined (statementText : α → List Char) (joiner : Joiner)
    (parts : List (Fragments α)) :
    text statementText (joined joiner parts) =
      List.intercalate joiner.text (parts.map (text statementText)) := by
  induction parts with
  | nil => rfl
  | cons first rest ih =>
      cases rest with
      | nil => simp [joined]
      | cons second rest =>
          simp only [joined, List.intercalate_cons_cons, List.map_cons, text_append] at ih ⊢
          rw [ih]
          simp [text, Fragment.text]

/-- Where no statement of the fragments has the text of an opening, the text of the last fragment
decides whether a joiner is needed. -/
theorem needsJoiner_iff_text_of_mem {statementText : α → List Char} {fragments : Fragments α}
    (distinct : ∀ content, .statement content ∈ fragments → statementText content ≠ ['(']) :
    fragments.needsJoiner = true ↔
      ∃ last, (fragments.map (Fragment.text statementText)).getLast? = some last ∧
        last ≠ ['('] := by
  rcases List.eq_nil_or_concat' fragments with rfl | ⟨init, last, rfl⟩
  · simp
  · rw [needsJoiner_append (List.cons_ne_nil _ _)]
    cases last with
    | statement content => simp [needsJoiner, Fragment.text, distinct content (by simp)]
    | joint joiner => cases joiner <;> simp [needsJoiner, Fragment.text, Joiner.text]
    | opening => simp [needsJoiner, Fragment.text]
    | closing => simp [needsJoiner, Fragment.text]

end FilterQuery.Fragments
