import FilterQuery.Fragment
import Mathlib.Data.List.Forall2

/-!
Texts that can be read in one way only. A family of texts is self-delimiting if the first member of
a row is known from the row. The main statement says that the members of such a family can be told
apart when they stand in a row with joiners between them, whichever joiners these are.
-/

namespace FilterQuery.Text

/-- Equal rows that start with characters of a class have the same start, if the class ends with
it. -/
theorem append_inj_of_forall {p : Char → Prop} {first second rest₁ rest₂ : List Char}
    (firstAll : ∀ c ∈ first, p c) (secondAll : ∀ c ∈ second, p c)
    (firstEnds : ∀ c ∈ rest₁.head?, ¬p c) (secondEnds : ∀ c ∈ rest₂.head?, ¬p c)
    (equal : first ++ rest₁ = second ++ rest₂) : first = second ∧ rest₁ = rest₂ := by
  induction first generalizing second with
  | nil =>
      cases second with
      | nil => exact ⟨rfl, equal⟩
      | cons d more =>
          rw [List.nil_append] at equal
          subst equal
          exact absurd (secondAll d (by simp)) (firstEnds d rfl)
  | cons c rest ih =>
      cases second with
      | nil =>
          rw [List.nil_append] at equal
          subst equal
          exact absurd (firstAll c (by simp)) (secondEnds c rfl)
      | cons d more =>
          rw [List.cons_append, List.cons_append, List.cons.injEq] at equal
          obtain ⟨rfl, equal⟩ := equal
          have tail := ih (fun c member => firstAll c (List.mem_cons_of_mem _ member))
            (fun c member => secondAll c (List.mem_cons_of_mem _ member)) equal
          exact ⟨congrArg _ tail.1, tail.2⟩

/-- A word ends in front of a space, of the end of a group, and at the end of a text. -/
def EndsWord (rest : List Char) : Prop := ∀ c ∈ rest.head?, c = ' ' ∨ c = ')'

/-- A row ends in front of the end of a group and at the end of a text. -/
def EndsRow (rest : List Char) : Prop := ∀ c ∈ rest.head?, c = ')'

theorem EndsRow.endsWord {rest : List Char} (ends : EndsRow rest) : EndsWord rest :=
  fun c member => .inr (ends c member)

/-- The texts of valid members delimit themselves: none starts where a word ends, and equal texts
up to the end of a word belong to members that look the same. -/
structure SelfDelimiting {α : Type} (text : α → List Char) (valid : α → Prop)
    (same : α → α → Prop) : Prop where
  starts : ∀ {member}, valid member → ∀ rest, ¬EndsWord (text member ++ rest)
  split : ∀ {first second}, valid first → valid second → ∀ {rest₁ rest₂}, EndsWord rest₁ →
    EndsWord rest₂ → text first ++ rest₁ = text second ++ rest₂ →
      same first second ∧ rest₁ = rest₂

namespace SelfDelimiting

variable {α : Type} {text : α → List Char} {valid : α → Prop} {same : α → α → Prop}

/-- The texts of members, each behind a joiner. -/
def behind (text : α → List Char) (joiner : Joiner) (members : List α) : List Char :=
  members.flatMap fun member => joiner.text ++ text member

/-- A row is its first text, and the others behind joiners. -/
theorem intercalate_cons (joiner : Joiner) (first : α) (rest : List α) :
    List.intercalate joiner.text ((first :: rest).map text) =
      text first ++ behind text joiner rest := by
  induction rest generalizing first with
  | nil => simp [behind]
  | cons second rest ih =>
      rw [List.map_cons, List.map_cons, List.intercalate_cons_cons, ← List.map_cons, ih second]
      simp [behind]

theorem endsWord_behind (joiner : Joiner) (members : List α) {rest : List Char}
    (ends : EndsWord rest) : EndsWord (behind text joiner members ++ rest) := by
  cases members with
  | nil => exact ends
  | cons member more => cases joiner <;> simp [behind, Joiner.text, EndsWord]

/-- Equal texts start with equal joiners. -/
theorem joiner_text_append_inj {joiner₁ joiner₂ : Joiner} {rest₁ rest₂ : List Char}
    (equal : joiner₁.text ++ rest₁ = joiner₂.text ++ rest₂) : rest₁ = rest₂ := by
  cases joiner₁ <;> cases joiner₂ <;> simp_all [Joiner.text]

theorem not_endsRow_joiner_append (joiner : Joiner) (rest : List Char) :
    ¬EndsRow (joiner.text ++ rest) := by
  cases joiner <;> simp [Joiner.text, EndsRow]

/-- Members behind joiners can be told apart. -/
theorem forall₂_of_behind (family : SelfDelimiting text valid same) {joiner₁ joiner₂ : Joiner}
    {rest₁ rest₂ : List Char} (ends₁ : EndsRow rest₁) (ends₂ : EndsRow rest₂)
    {first second : List α} (firstValid : ∀ member ∈ first, valid member)
    (secondValid : ∀ member ∈ second, valid member)
    (equal : behind text joiner₁ first ++ rest₁ = behind text joiner₂ second ++ rest₂) :
    List.Forall₂ same first second ∧ rest₁ = rest₂ := by
  induction first generalizing second with
  | nil =>
      cases second with
      | nil => exact ⟨.nil, equal⟩
      | cons other more =>
          simp only [behind, List.flatMap_nil, List.nil_append, List.flatMap_cons,
            List.append_assoc] at equal
          subst equal
          exact absurd ends₁ (not_endsRow_joiner_append _ _)
  | cons member rest ih =>
      cases second with
      | nil =>
          simp only [behind, List.flatMap_nil, List.nil_append, List.flatMap_cons,
            List.append_assoc] at equal
          subst equal
          exact absurd ends₂ (not_endsRow_joiner_append _ _)
      | cons other more =>
          simp only [behind, List.flatMap_cons, List.append_assoc] at equal
          obtain ⟨alike, equal⟩ := family.split (firstValid member (by simp))
            (secondValid other (by simp)) (endsWord_behind joiner₁ rest ends₁.endsWord)
            (endsWord_behind joiner₂ more ends₂.endsWord) (joiner_text_append_inj equal)
          have tail := ih (fun member inside => firstValid member (List.mem_cons_of_mem _ inside))
            (fun member inside => secondValid member (List.mem_cons_of_mem _ inside)) equal
          exact ⟨.cons alike tail.1, tail.2⟩

/-- Members in a row with joiners between them can be told apart. -/
theorem forall₂_of_intercalate (family : SelfDelimiting text valid same)
    {joiner₁ joiner₂ : Joiner} {rest₁ rest₂ : List Char} (ends₁ : EndsRow rest₁)
    (ends₂ : EndsRow rest₂) {first second : List α} (firstValid : ∀ member ∈ first, valid member)
    (secondValid : ∀ member ∈ second, valid member)
    (equal : List.intercalate joiner₁.text (first.map text) ++ rest₁ =
      List.intercalate joiner₂.text (second.map text) ++ rest₂) :
    List.Forall₂ same first second ∧ rest₁ = rest₂ := by
  cases first with
  | nil =>
      cases second with
      | nil => exact ⟨.nil, equal⟩
      | cons other more =>
          rw [List.map_nil, List.intercalate_nil, List.nil_append, intercalate_cons,
            List.append_assoc] at equal
          subst equal
          exact absurd ends₁.endsWord (family.starts (secondValid other (by simp)) _)
  | cons member rest =>
      cases second with
      | nil =>
          rw [List.map_nil, List.intercalate_nil, List.nil_append, intercalate_cons,
            List.append_assoc] at equal
          subst equal
          exact absurd ends₂.endsWord (family.starts (firstValid member (by simp)) _)
      | cons other more =>
          rw [intercalate_cons, intercalate_cons, List.append_assoc, List.append_assoc] at equal
          obtain ⟨alike, equal⟩ := family.split (firstValid member (by simp))
            (secondValid other (by simp)) (endsWord_behind joiner₁ rest ends₁.endsWord)
            (endsWord_behind joiner₂ more ends₂.endsWord) equal
          have tail := family.forall₂_of_behind ends₁ ends₂
            (fun member inside => firstValid member (List.mem_cons_of_mem _ inside))
            (fun member inside => secondValid member (List.mem_cons_of_mem _ inside)) equal
          exact ⟨.cons alike tail.1, tail.2⟩

end SelfDelimiting

end FilterQuery.Text
