import FilterQuery.Proofs.Fragment.Joined
import FilterQuery.Proofs.Fragment.Neighbours

/-!
Operations on the fragments of a filter in any order, also with groups that are empty, never closed
or never opened. What one operation does to the texts of the fragments is said once; everything
else follows from it, first for one operation and then for operations in a row. The main statement
says that joiners stand only between neighbours that have to be joined, that each is the joiner of
the operation whose fragment follows it, and that without them the texts are those asked for.
-/

namespace FilterQuery

namespace Fragment

/-- The texts of joiners and of the delimiters of groups. -/
def reserved : List (List Char) := Joiner.texts ++ [['('], [')']]

theorem mem_reserved_iff {text : List Char} :
    text ∈ reserved ↔ text ∈ Joiner.texts ∨ text = ['('] ∨ text = [')'] := by
  simp [reserved]

/-- If the fragment is a statement, its text is not reserved. -/
def IsLegible {α : Type} (statementText : α → List Char) : Fragment α → Prop
  | .statement content => statementText content ∉ reserved
  | _ => True

end Fragment

namespace Fragments

variable {α : Type}

/-- An operation on the fragments of a filter. -/
inductive Operation (α : Type) where
  | append (joiner : Joiner) (statement : Option α)
  | openGroup
  | closeGroup

namespace Operation

def run (fragments : Fragments α) : Operation α → Fragments α
  | .append joiner statement => fragments.append joiner statement
  | .openGroup => fragments.openGroup
  | .closeGroup => fragments.closeGroup

/-- The fragment that the operation asks for, if it asks for one. -/
def fragment? : Operation α → Option (Fragment α)
  | .append _ statement => statement.map .statement
  | .openGroup => some .opening
  | .closeGroup => some .closing

/-- The joiner of an operation whose fragment may have to be joined. -/
def joiner? : Operation α → Option Joiner
  | .append joiner _ => some joiner
  | .openGroup => some .and
  | .closeGroup => none

/-- Does the operations in their order, from no fragments on. -/
def runAll (operations : List (Operation α)) : Fragments α := operations.foldl run []

def texts (statementText : α → List Char) (operations : List (Operation α)) : List (List Char) :=
  (runAll operations).map (Fragment.text statementText)

/-- The operation appends no statement with a reserved text. -/
def IsLegible (statementText : α → List Char) (operation : Operation α) : Prop :=
  ∀ next ∈ operation.fragment?, next.IsLegible statementText

/-- What an operation can do to texts: leave them as they are, put a text behind them that is joined
to the last or that begins the filter or a group, or close a group. -/
inductive Extends (statementText : α → List Char) (operation : Operation α)
    (before : List (List Char)) : List (List Char) → Prop
  | idle (nothing : operation.fragment? = none) : Extends statementText operation before before
  | joined {joiner : Joiner} {next : Fragment α} {last : List Char}
      (own : operation.joiner? = some joiner) (asked : operation.fragment? = some next)
      (found : before.getLast? = some last) (inside : last ≠ ['(']) :
      Extends statementText operation before (before ++ [joiner.text, next.text statementText])
  | begun {joiner : Joiner} {next : Fragment α}
      (own : operation.joiner? = some joiner) (asked : operation.fragment? = some next)
      (alone : ∀ last ∈ before.getLast?, last = ['(']) :
      Extends statementText operation before (before ++ [next.text statementText])
  | closed (close : operation = .closeGroup) :
      Extends statementText operation before (before ++ [[')']])

variable {statementText : α → List Char}

/-- An attached fragment is joined if there is a last text that does not start a group. -/
theorem extends_attach {fragments : Fragments α}
    (legible : ∀ fragment ∈ fragments, fragment.IsLegible statementText)
    {operation : Operation α} {joiner : Joiner} {next : Fragment α}
    (own : operation.joiner? = some joiner) (asked : operation.fragment? = some next) :
    operation.Extends statementText (fragments.map (Fragment.text statementText))
      ((fragments.attach joiner next).map (Fragment.text statementText)) := by
  have distinct (content : α) (member : .statement content ∈ fragments) :
      statementText content ≠ ['('] := by
    have plain : statementText content ∉ Fragment.reserved := legible _ member
    exact fun same => plain (Fragment.mem_reserved_iff.mpr (.inr (.inl same)))
  -- The kind of the last fragment decides, and it can be told from the text.
  have decided := needsJoiner_iff_text_of_mem distinct
  unfold attach
  split
  · rename_i needed
    obtain ⟨last, found, inside⟩ := decided.mp needed
    rw [List.map_append]
    exact .joined own asked found inside
  · rename_i needless
    rw [List.map_append]
    refine .begun own asked ?_
    intro last found
    by_contra inside
    exact needless (decided.mpr ⟨last, found, inside⟩)

/-- Every operation on legible fragments does to their texts what an operation can do. -/
theorem extends_run {fragments : Fragments α}
    (legible : ∀ fragment ∈ fragments, fragment.IsLegible statementText)
    (operation : Operation α) :
    operation.Extends statementText (fragments.map (Fragment.text statementText))
      ((operation.run fragments).map (Fragment.text statementText)) := by
  cases operation with
  | append joiner statement =>
      cases statement with
      | none => exact .idle rfl
      | some content => exact extends_attach legible rfl rfl
  | openGroup => exact extends_attach legible rfl rfl
  | closeGroup =>
      change Extends _ _ _ ((fragments ++ [Fragment.closing]).map _)
      rw [List.map_append]
      exact .closed rfl

/-- What an operation asks for is no joiner. -/
theorem IsLegible.text_notMem {operation : Operation α} {next : Fragment α}
    (legible : operation.IsLegible statementText) (asked : operation.fragment? = some next) :
    next.text statementText ∉ Joiner.texts := by
  have plain := legible next asked
  cases next with
  | statement content => exact fun member => plain (Fragment.mem_reserved_iff.mpr (.inl member))
  | joint joiner => cases operation <;> simp [fragment?] at asked
  | opening => exact Joiner.opening_notMem_texts
  | closing => exact Joiner.closing_notMem_texts

/-- What may have to be joined is not the end of a group. -/
theorem IsLegible.text_ne_closing {operation : Operation α} {joiner : Joiner} {next : Fragment α}
    (legible : operation.IsLegible statementText) (own : operation.joiner? = some joiner)
    (asked : operation.fragment? = some next) : next.text statementText ≠ [')'] := by
  have plain := legible next asked
  cases next with
  | statement content => exact fun same => plain (Fragment.mem_reserved_iff.mpr (.inr (.inr same)))
  | joint joiner => cases operation <;> simp [fragment?] at asked
  | opening => simp [Fragment.text]
  | closing => cases operation <;> simp [fragment?, joiner?] at asked own

section Step

variable {operation : Operation α} {before after : List (List Char)}

/-- An operation keeps the texts that it finds. -/
theorem Extends.kept (step : operation.Extends statementText before after) :
    before <+: after := by
  cases step with
  | idle nothing => exact List.prefix_rfl
  | joined own asked found inside => exact List.prefix_append _ _
  | begun own asked alone => exact List.prefix_append _ _
  | closed close => exact List.prefix_append _ _

/-- What is asked for behind something else than the start of a group is joined. -/
theorem Extends.eq_of_joined (step : operation.Extends statementText before after)
    {joiner : Joiner} {next : Fragment α} {last : List Char}
    (own : operation.joiner? = some joiner) (asked : operation.fragment? = some next)
    (found : before.getLast? = some last) (inside : last ≠ ['(']) :
    after = before ++ [joiner.text, next.text statementText] := by
  cases step with
  | idle nothing => cases nothing.symm.trans asked
  | joined sameOwn sameAsked =>
      cases sameOwn.symm.trans own
      cases sameAsked.symm.trans asked
      rfl
  | begun _ _ alone => exact absurd (alone last found) inside
  | closed close =>
      subst close
      cases own

/-- Without joiners, an operation adds the text of what it asks for. -/
theorem Extends.filter_eq (step : operation.Extends statementText before after)
    (legible : operation.IsLegible statementText) :
    after.filter (· ∉ Joiner.texts) = before.filter (· ∉ Joiner.texts) ++
      (operation.fragment?.map (Fragment.text statementText)).toList := by
  cases step with
  | idle nothing => simp [nothing]
  | joined own asked found inside =>
      have free := legible.text_notMem asked
      simp [asked, free, Joiner.text_mem_texts]
  | begun own asked alone =>
      have free := legible.text_notMem asked
      simp [asked, free]
  | closed close =>
      subst close
      simp [fragment?, Fragment.text, Joiner.closing_notMem_texts]

/-- An operation keeps texts well joined. -/
theorem Extends.wellJoined (step : operation.Extends statementText before after)
    (legible : operation.IsLegible statementText) (joined : WellJoined before) :
    WellJoined after := by
  cases step with
  | idle nothing => exact joined
  | joined own asked found inside =>
      exact joined.concat_joined _ found inside (legible.text_notMem asked)
        (legible.text_ne_closing own asked)
  | begun own asked alone =>
      have free := legible.text_notMem asked
      apply joined.concat free
      intro last found
      rw [alone last found]
      exact .behind_opening free
  | closed close =>
      apply joined.concat Joiner.closing_notMem_texts
      intro last found
      exact .closing_behind (joined.stop last found)

end Step

/-- Legible fragments stay legible. -/
theorem legible_run {fragments : Fragments α}
    (legible : ∀ fragment ∈ fragments, fragment.IsLegible statementText) {operation : Operation α}
    (plain : operation.IsLegible statementText) :
    ∀ fragment ∈ operation.run fragments, fragment.IsLegible statementText := by
  have attached (joiner : Joiner) (next : Fragment α) (nextLegible : next.IsLegible statementText) :
      ∀ fragment ∈ fragments.attach joiner next, fragment.IsLegible statementText := by
    have joint : (Fragment.joint joiner).IsLegible statementText := trivial
    unfold attach
    split <;> simpa [or_imp, forall_and, nextLegible, joint] using legible
  cases operation with
  | append joiner statement =>
      cases statement with
      | none => exact legible
      | some content => exact attached joiner _ (plain _ rfl)
  | openGroup => exact attached .and .opening trivial
  | closeGroup =>
      intro fragment member
      rcases List.mem_append.mp member with old | new
      · exact legible fragment old
      · rw [List.mem_singleton.mp new]
        trivial

section Run

theorem runAll_concat (operations : List (Operation α)) (operation : Operation α) :
    runAll (operations ++ [operation]) = operation.run (runAll operations) := by
  rw [runAll, runAll, List.foldl_concat]

variable {operations : List (Operation α)}

/-- Legible operations leave legible fragments. -/
theorem legible_runAll (legible : ∀ operation ∈ operations, operation.IsLegible statementText) :
    ∀ fragment ∈ runAll operations, fragment.IsLegible statementText := by
  induction operations using List.reverseRecOn with
  | nil => simp [runAll]
  | append_singleton before operation ih =>
      obtain ⟨beforeLegible, plain⟩ := List.forall_mem_append.mp legible
      rw [runAll_concat]
      exact legible_run (ih beforeLegible) (plain operation (List.mem_singleton_self _))

/-- Each operation in a row extends the texts that the ones in front of it leave. -/
theorem extends_texts {before : List (Operation α)}
    (legible : ∀ operation ∈ before, operation.IsLegible statementText)
    (operation : Operation α) :
    operation.Extends statementText (texts statementText before)
      (texts statementText (before ++ [operation])) := by
  rw [texts, texts, runAll_concat]
  exact extends_run (legible_runAll legible) operation

/-- What each operation keeps is kept by operations in a row. -/
theorem texts_induction {motive : List (Operation α) → List (List Char) → Prop}
    (before after : List (Operation α))
    (legible : ∀ operation ∈ before ++ after, operation.IsLegible statementText)
    (start : motive before (texts statementText before))
    (step : ∀ done operation found left, operation.IsLegible statementText →
      operation.Extends statementText found left → motive done found →
        motive (done ++ [operation]) left) :
    motive (before ++ after) (texts statementText (before ++ after)) := by
  -- The last operation is split off, because what it does depends on all in front of it.
  induction after using List.reverseRecOn with
  | nil => simpa using start
  | append_singleton rest operation ih =>
      rw [← List.append_assoc] at legible ⊢
      obtain ⟨restLegible, plain⟩ := List.forall_mem_append.mp legible
      exact step _ operation _ _ (plain operation (List.mem_singleton_self _))
        (extends_texts restLegible operation) (ih restLegible)

/-- Operations in a row leave well joined texts. -/
theorem wellJoined_texts (legible : ∀ operation ∈ operations, operation.IsLegible statementText) :
    WellJoined (texts statementText operations) := by
  apply texts_induction (motive := fun _ left => WellJoined left) [] operations legible
    .nil
  intro _ operation found left plain step joined
  exact step.wellJoined plain joined

/-- Without joiners, the texts are those that the operations ask for. -/
theorem filter_texts (legible : ∀ operation ∈ operations, operation.IsLegible statementText) :
    (texts statementText operations).filter (· ∉ Joiner.texts) =
      operations.filterMap fun operation =>
        operation.fragment?.map (Fragment.text statementText) := by
  apply texts_induction (motive := fun done left => left.filter (· ∉ Joiner.texts) =
    done.filterMap fun operation => operation.fragment?.map (Fragment.text statementText))
    [] operations legible rfl
  intro done operation found left plain step ih
  rw [step.filter_eq plain, ih, List.filterMap_append]
  cases asked : operation.fragment? <;> simp [asked]

/-- The texts that operations leave are kept by the operations behind them. -/
theorem texts_kept (before after : List (Operation α))
    (legible : ∀ operation ∈ before ++ after, operation.IsLegible statementText) :
    texts statementText before <+: texts statementText (before ++ after) := by
  apply texts_induction (motive := fun _ left => texts statementText before <+: left)
    before after legible List.prefix_rfl
  intro _ operation found left _ step ih
  exact ih.trans step.kept

/-- What operations in a row make of the texts of a filter. -/
structure Accumulates (statementText : α → List Char) (operations : List (Operation α)) :
    Prop where
  /-- Joiners stand between neighbours that have to be joined, and nowhere else. -/
  joined : WellJoined (texts statementText operations)
  /-- What is appended or opened behind something else than the start of a group follows the joiner
  of its own operation, and what stands in front of that is no joiner. -/
  own : ∀ before operation after joiner next, operations = before ++ operation :: after →
    operation.joiner? = some joiner → operation.fragment? = some next →
      ∀ last ∈ (texts statementText before).getLast?, last ≠ ['('] →
        last ∉ Joiner.texts ∧ texts statementText (before ++ [operation]) =
          texts statementText before ++ [joiner.text, next.text statementText]
  /-- Without joiners, the texts are those that the operations ask for, in their order. -/
  asked : (texts statementText operations).filter (· ∉ Joiner.texts) =
    operations.filterMap fun operation => operation.fragment?.map (Fragment.text statementText)
  /-- Each operation keeps the texts that it finds, and so do all operations behind it. -/
  kept : ∀ before operation after, operations = before ++ operation :: after →
    texts statementText before <+: texts statementText (before ++ [operation]) ∧
      texts statementText (before ++ [operation]) <+: texts statementText operations

/-- Operations in any order, balanced or not, join the texts of a filter where they have to, if no
statement that they append has the text of a joiner or of the delimiter of a group. -/
theorem joined_in_any_order
    (legible : ∀ operation ∈ operations, operation.IsLegible statementText) :
    Accumulates statementText operations where
  joined := wellJoined_texts legible
  own := by
    rintro before operation after joiner next rfl own asked last found inside
    have beforeLegible := (List.forall_mem_append.mp legible).1
    refine ⟨(wellJoined_texts beforeLegible).stop last found, ?_⟩
    exact (extends_texts beforeLegible operation).eq_of_joined own asked found inside
  asked := filter_texts legible
  kept := by
    intro before operation after split
    rw [List.append_cons] at split
    subst split
    have firstLegible := (List.forall_mem_append.mp legible).1
    exact ⟨texts_kept before [operation] firstLegible, texts_kept _ after legible⟩

/-- A group that was never opened, one that is empty and one that is never closed, with a statement
without a text and one that holds the text of a joiner. -/
theorem joined_in_any_order_unbalanced :
    let operations : List (Operation String) :=
      [.closeGroup, .openGroup, .append .or none, .openGroup, .closeGroup, .append .or (some ""),
        .append .or (some "b AND c"), .openGroup, .append .and (some "a:1")]
    (∀ operation ∈ operations, operation.IsLegible String.toList) ∧
      (texts String.toList operations).map String.ofList =
        [")", " AND ", "(", "(", ")", " OR ", "", " OR ", "b AND c", " AND ", "(", "a:1"] ∧
      Accumulates String.toList operations := by
  intro operations
  have legible : ∀ operation ∈ operations, operation.IsLegible String.toList := by
    simp [operations, IsLegible, fragment?, Fragment.IsLegible, Fragment.mem_reserved_iff,
      Joiner.texts, Joiner.text]
  exact ⟨legible, by decide +kernel, joined_in_any_order legible⟩

end Run

end Operation

end Fragments

end FilterQuery
