import FilterQuery.Json.Decoding

namespace FilterQuery.Json.Tree

open Decoding (Content Fault Error)

/-- The value can be read as data, and is nested at most to a depth. -/
inductive Readable : Nat → Tree → Prop where
  | null {depth : Nat} : Readable depth .null
  | boolean {depth : Nat} (value : Bool) : Readable depth (.boolean value)
  | number {depth : Nat} {numeral : Numeral} (inRange : numeral.content?.isSome = true) :
      Readable depth (.number numeral)
  | text {depth : Nat} (content : String) : Readable depth (.text (some content))
  | array {depth : Nat} {items : List Tree} (readable : ∀ item ∈ items, Readable depth item) :
      Readable (depth + 1) (.array items true)
  | object {depth : Nat} {members : List (Option String × Tree)}
      (named : ∀ member ∈ members, member.1.isSome = true)
      (readable : ∀ member ∈ members, Readable depth member.2) :
      Readable (depth + 1) (.object members true)

/-- The items have contents at every depth that suffices. -/
theorem exists_contents {depth : Nat} {items : List Tree}
    (readable : ∀ item ∈ items, ∃ content, ∀ deeper, depth ≤ deeper →
      item.content? deeper = some content) :
    ∃ contents, ∀ deeper, depth ≤ deeper → contents? deeper items = some contents := by
  induction items with
  | nil => exact ⟨[], fun deeper _ => by rw [contents?]⟩
  | cons item items ih =>
      obtain ⟨first, others⟩ := List.forall_mem_cons.mp readable
      obtain ⟨content, found⟩ := first
      obtain ⟨contents, foundOthers⟩ := ih others
      refine ⟨content :: contents, fun deeper enough => ?_⟩
      rw [contents?, found deeper enough, foundOthers deeper enough]
      rfl

/-- The members have contents at every depth that suffices. -/
theorem exists_memberContents {depth : Nat} {members : List (Option String × Tree)}
    (named : ∀ member ∈ members, member.1.isSome = true)
    (readable : ∀ member ∈ members, ∃ content, ∀ deeper, depth ≤ deeper →
      member.2.content? deeper = some content) :
    ∃ contents, ∀ deeper, depth ≤ deeper → memberContents? deeper members = some contents := by
  induction members with
  | nil => exact ⟨[], fun deeper _ => by rw [memberContents?]⟩
  | cons member members ih =>
      obtain ⟨firstNamed, othersNamed⟩ := List.forall_mem_cons.mp named
      obtain ⟨first, others⟩ := List.forall_mem_cons.mp readable
      obtain ⟨name, key⟩ := Option.isSome_iff_exists.mp firstNamed
      obtain ⟨content, found⟩ := first
      obtain ⟨contents, foundOthers⟩ := ih othersNamed others
      refine ⟨(.text name, content) :: contents, fun deeper enough => ?_⟩
      rw [memberContents?, key, found deeper enough, foundOthers deeper enough]
      rfl

/-- A value that can be read has one content at every depth that suffices. -/
theorem Readable.exists_content {depth : Nat} {tree : Tree} (readable : tree.Readable depth) :
    ∃ content, ∀ deeper, depth ≤ deeper → tree.content? deeper = some content := by
  induction readable with
  | null => exact ⟨.null, fun deeper _ => by rw [content?]⟩
  | boolean value => exact ⟨.boolean value, fun deeper _ => by rw [content?]⟩
  | number inRange =>
      obtain ⟨content, found⟩ := Option.isSome_iff_exists.mp inRange
      exact ⟨content, fun deeper _ => by rw [content?, found]⟩
  | text content => exact ⟨.text content, fun deeper _ => by rw [content?]; rfl⟩
  | array _ ih =>
      obtain ⟨contents, found⟩ := exists_contents ih
      refine ⟨.sequence contents, fun deeper enough => ?_⟩
      obtain ⟨deeper, rfl⟩ := Nat.exists_eq_add_of_lt enough
      rw [content?, if_pos rfl, found _ (by omega)]
      rfl
  | object named _ ih =>
      obtain ⟨contents, found⟩ := exists_memberContents named ih
      refine ⟨.mapping contents, fun deeper enough => ?_⟩
      obtain ⟨deeper, rfl⟩ := Nat.exists_eq_add_of_lt enough
      rw [content?, if_pos rfl, found _ (by omega)]
      rfl

/-- The faults of steps that are judged one after another. -/
theorem judged_bind {α β : Type} (first : Except Fault α) (next : α → Except Fault β) :
    (judged first >>= fun value => judged (next value)) = judged (first >>= next) := by
  cases first <;> rfl

/-- A kind is read from a value, or else a fault is found in it. -/
theorem Readable.exists_kind {depth : Nat} {tree : Tree} (readable : tree.Readable depth) :
    ∃ outcome, tree.kind = judged outcome := by
  cases readable with
  | null => exact ⟨.error _, rfl⟩
  | boolean value => exact ⟨.error _, rfl⟩
  | number inRange =>
      obtain ⟨content, found⟩ := Option.isSome_iff_exists.mp inRange
      refine ⟨.error (.wrongType content.found .kindName), ?_⟩
      simp [kind, refuse, found?, found]
      rfl
  | text content => exact ⟨Decoding.kindOfText content, rfl⟩
  | array readable => exact ⟨.error _, rfl⟩
  | object named readable => exact ⟨.error _, rfl⟩

section Members

variable (depth : Nat) (closed : Bool) (kind? : Option ClauseKind) (read : List (Content × Content))
  (value : Tree) (rest : List (Option String × Tree))

/-- The member that tells the kind of a clause is read as its kind. -/
theorem clauseMembers_kind :
    clauseMembers depth closed none read ((some Decoding.kindMember, value) :: rest) =
      (value.kind >>= fun kind => clauseMembers depth closed (some kind) read rest) := rfl

/-- The kind of a clause may be told once. -/
theorem clauseMembers_repeated (kind : ClauseKind) :
    clauseMembers depth closed (some kind) read ((some Decoding.kindMember, value) :: rest) =
      faulty (.repeated Decoding.kindMember) := rfl

/-- The content of any other member is read. -/
theorem clauseMembers_member {name : String} (other : name ≠ Decoding.kindMember)
    {content : Content} (found : value.content? depth = some content) :
    clauseMembers depth closed kind? read ((some name, value) :: rest) =
      clauseMembers depth closed kind? ((.text name, content) :: read) rest := by
  have otherwise : (name == Decoding.kindMember) = false := beq_eq_false_iff_ne.mpr other
  simp [clauseMembers, demand, otherwise, found, bind, Except.bind]

end Members

/-- The members of a clause are read, or else a fault is found in them, at every depth that
suffices. -/
theorem exists_clauseMembers {depth : Nat} {members : List (Option String × Tree)}
    (named : ∀ member ∈ members, member.1.isSome = true)
    (readable : ∀ member ∈ members, member.2.Readable depth) (kind? : Option ClauseKind)
    (read : List (Content × Content)) :
    ∃ outcome, ∀ deeper, depth ≤ deeper →
      clauseMembers deeper true kind? read members = judged outcome := by
  induction members generalizing kind? read with
  | nil =>
      cases kind? with
      | none => exact ⟨.error (.missing Decoding.kindMember), fun deeper _ => rfl⟩
      | some kind => exact ⟨.ok (kind, read.reverse), fun deeper _ => rfl⟩
  | cons member members ih =>
      obtain ⟨key, value⟩ := member
      obtain ⟨firstNamed, othersNamed⟩ := List.forall_mem_cons.mp named
      obtain ⟨first, others⟩ := List.forall_mem_cons.mp readable
      obtain ⟨name, rfl⟩ := Option.isSome_iff_exists.mp firstNamed
      by_cases tells : name = Decoding.kindMember
      · subst tells
        cases kind? with
        | some kind =>
            refine ⟨.error (.repeated Decoding.kindMember), fun deeper _ => ?_⟩
            rw [clauseMembers_repeated]
            rfl
        | none =>
            obtain ⟨outcome, found⟩ := first.exists_kind
            simp only [clauseMembers_kind, found]
            cases outcome with
            | error cause => exact ⟨.error cause, fun deeper _ => rfl⟩
            | ok kind => exact ih othersNamed others (some kind) read
      · obtain ⟨content, found⟩ := first.exists_content
        obtain ⟨outcome, goesOn⟩ := ih othersNamed others kind? ((.text name, content) :: read)
        refine ⟨outcome, fun deeper enough => ?_⟩
        rw [clauseMembers_member deeper true kind? read value members tells (found deeper enough),
          goesOn deeper enough]

/-- A clause is read from a value, or else a fault is found in it, at every depth that suffices. -/
theorem Readable.exists_clause {depth : Nat} {tree : Tree} (readable : tree.Readable depth) :
    ∃ outcome, ∀ deeper, depth ≤ deeper → tree.clause deeper = judged outcome := by
  cases readable with
  | null => exact ⟨.error (.wrongType .null .clause), fun deeper _ => by cases deeper <;> rfl⟩
  | boolean value =>
      exact ⟨.error (.wrongType (.boolean value) .clause), fun deeper _ => by cases deeper <;> rfl⟩
  | number inRange =>
      obtain ⟨content, found⟩ := Option.isSome_iff_exists.mp inRange
      refine ⟨.error (.wrongType content.found .clause), fun deeper _ => ?_⟩
      cases deeper <;> simp [clause, refuse, found?, found, judged]
  | text content =>
      exact ⟨.error (.wrongType (.text content) .clause), fun deeper _ => by cases deeper <;> rfl⟩
  | array readable =>
      rename_i depth items
      cases items with
      | nil =>
          refine ⟨.error (.missing Decoding.kindMember), fun deeper enough => ?_⟩
          obtain ⟨deeper, rfl⟩ := Nat.exists_eq_add_of_lt enough
          rfl
      | cons first items =>
          obtain ⟨firstReadable, others⟩ := List.forall_mem_cons.mp readable
          obtain ⟨outcome, kind⟩ := firstReadable.exists_kind
          obtain ⟨contents, found⟩ :=
            exists_contents fun item member => (others item member).exists_content
          refine ⟨outcome >>= fun kind => Decoding.clauseOfListed kind contents,
            fun deeper enough => ?_⟩
          obtain ⟨deeper, rfl⟩ := Nat.exists_eq_add_of_lt enough
          rw [clause, kind, found _ (by omega), ← judged_bind]
          rfl
  | object named readable =>
      obtain ⟨outcome, found⟩ := exists_clauseMembers named readable none []
      refine ⟨outcome >>= fun entries => Decoding.clauseOfKeyed entries.1 entries.2,
        fun deeper enough => ?_⟩
      obtain ⟨deeper, rfl⟩ := Nat.exists_eq_add_of_lt enough
      rw [clause, found _ (by omega), ← judged_bind]

end FilterQuery.Json.Tree
