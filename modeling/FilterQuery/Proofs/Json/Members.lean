import FilterQuery.Proofs.Compact.Json
import FilterQuery.Proofs.Decoding.Members
import FilterQuery.Proofs.Json.Grammar
import FilterQuery.Proofs.Json.Readable

namespace FilterQuery.Json

open Decoding (Content Fault Error)

namespace Tree

/-- The values of the members that tell the kind of a clause. -/
def kindValues (members : List (Option String × Tree)) : List Tree :=
  (members.filter fun member => member.1 == some Decoding.kindMember).map Prod.snd

/-- The kind that values tell, if none has been told before; it may be told once. -/
def toldKind : Option ClauseKind → List Tree → Except Error ClauseKind
  | none, [] => faulty (.missing Decoding.kindMember)
  | some kind, [] => .ok kind
  | none, value :: more => do toldKind (some (← value.kind)) more
  | some _, _ :: _ => faulty (.repeated Decoding.kindMember)

/-- The content of a member that does not tell the kind. -/
def field? (depth : Nat) (member : Option String × Tree) : Option (Content × Content) :=
  member.1.bind fun name =>
    if name = Decoding.kindMember then none
    else (member.2.content? depth).map fun content => (.text name, content)

section Entries

variable {depth : Nat} (value : Tree) (members : List (Option String × Tree))

theorem kindValues_kind :
    kindValues ((some Decoding.kindMember, value) :: members) = value :: kindValues members := by
  simp [kindValues]

theorem field?_kind : field? depth (some Decoding.kindMember, value) = none := by
  simp [field?]

variable {name : String} (other : name ≠ Decoding.kindMember)

include other

theorem kindValues_member : kindValues ((some name, value) :: members) = kindValues members := by
  rw [kindValues, List.filter_cons_of_neg (by simpa using other)]
  rfl

theorem field?_member {content : Content} (found : value.content? depth = some content) :
    field? depth (some name, value) = some (.text name, content) := by
  simp [field?, other, found]

end Entries

/-- Makes up a clause from the kind that is told and the contents of the other members. -/
def clauseOfMembers (depth : Nat) (members : List (Option String × Tree)) : Except Error Clause := do
  let kind ← toldKind none (kindValues members)
  judged (Decoding.clauseOfKeyed kind (members.filterMap (field? depth)))

section Members

variable {depth : Nat} {members : List (Option String × Tree)}
  (named : ∀ member ∈ members, member.1.isSome = true)
  (readable : ∀ member ∈ members, member.2.Readable depth) (read : List (Content × Content))

include named readable

/-- The kind and the contents of the other members are read, wherever the kind is told. -/
theorem clauseMembers_eq (kind? : Option ClauseKind) :
    clauseMembers depth true kind? read members =
      (toldKind kind? (kindValues members)).map fun kind =>
        (kind, read.reverse ++ members.filterMap (field? depth)) := by
  induction members generalizing kind? read with
  | nil => cases kind? <;> simp [clauseMembers, kindValues, toldKind, Except.map, faulty]
  | cons member members ih =>
      obtain ⟨key, value⟩ := member
      obtain ⟨firstNamed, othersNamed⟩ := List.forall_mem_cons.mp named
      obtain ⟨first, others⟩ := List.forall_mem_cons.mp readable
      obtain ⟨name, rfl⟩ := Option.isSome_iff_exists.mp firstNamed
      by_cases tells : name = Decoding.kindMember
      · subst tells
        rw [kindValues_kind, List.filterMap_cons_none (field?_kind value)]
        cases kind? with
        | some kind => rfl
        | none =>
            rw [clauseMembers_kind, toldKind]
            cases value.kind with
            | error cause => rfl
            | ok kind => exact ih othersNamed others read (some kind)
      · obtain ⟨content, found⟩ := first.exists_content
        have content := found depth (Nat.le_refl depth)
        rw [clauseMembers_member depth true kind? read value members tells content,
          ih othersNamed others, kindValues_member value members tells,
          List.filterMap_cons_some (field?_member value tells content), List.reverse_cons,
          List.append_assoc, List.singleton_append]

/-- A clause is read from an object by the kind that is told and the other members. -/
theorem clause_object :
    clause (depth + 1) (.object members true) = clauseOfMembers depth members := by
  rw [clause, clauseMembers_eq named readable, clauseOfMembers]
  cases toldKind none (kindValues members) <;> rfl

end Members

/-- The names of the members that clauses of a kind use, the kind being known or not. -/
def usedNames : Option ClauseKind → List String
  | some kind => Decoding.kindMember :: Decoding.memberNames kind
  | none => Decoding.kindMember :: ClauseKind.all.flatMap Decoding.memberNames

example : (usedNames none).eraseDups = ["kind", "attribute", "operator", "value", "values"] := by
  decide

/-- The member has a name that clauses of the kind use. -/
def isUsed (kind? : Option ClauseKind) (member : Option String × Tree) : Bool :=
  member.1.any fun name => (usedNames kind?).contains name

/-- The member that tells the kind is used. -/
theorem isUsed_kind (kind? : Option ClauseKind) (value : Tree) :
    isUsed kind? (some Decoding.kindMember, value) = true := by
  have used : Decoding.kindMember ∈ usedNames kind? := by
    cases kind? <;> exact List.mem_cons_self
  exact List.contains_iff_mem.mpr used

/-- Members that the kind does not use do not tell it. -/
theorem kindValues_filter (kind? : Option ClauseKind) (members : List (Option String × Tree)) :
    kindValues (members.filter (isUsed kind?)) = kindValues members := by
  rw [kindValues, kindValues, List.filter_filter]
  refine congrArg _ (List.filter_congr fun member _ => ?_)
  cases tells : member.1 == some Decoding.kindMember with
  | false => rfl
  | true =>
      obtain ⟨key, value⟩ := member
      obtain rfl : key = some Decoding.kindMember := beq_iff_eq.mp tells
      rw [isUsed_kind]
      rfl

/-- The content of a member stands behind its name. -/
theorem exists_name_of_field? {depth : Nat} {member : Option String × Tree}
    {entry : Content × Content} (found : field? depth member = some entry) :
    ∃ name, member.1 = some name ∧ entry.1 = .text name := by
  obtain ⟨name, key, found⟩ := Option.bind_eq_some_iff.mp found
  refine ⟨name, key, ?_⟩
  split at found
  · cases found
  · obtain ⟨content, -, rfl⟩ := Option.map_eq_some_iff.mp found
    rfl

/-- Members that the kind does not use are passed over. -/
theorem readKeyed_filter {kind : ClauseKind} {kind? : Option ClauseKind}
    (covers : ∀ name ∈ Decoding.memberNames kind, name ∈ usedNames kind?) (depth : Nat)
    (read : Decoding.Members) (members : List (Option String × Tree)) :
    Decoding.readKeyed kind read ((members.filter (isUsed kind?)).filterMap (field? depth)) =
      Decoding.readKeyed kind read (members.filterMap (field? depth)) := by
  induction members generalizing read with
  | nil => rfl
  | cons member members ih =>
      cases used : isUsed kind? member with
      | true =>
          rw [List.filter_cons_of_pos used]
          cases found : field? depth member with
          | none => rw [List.filterMap_cons_none found, List.filterMap_cons_none found, ih]
          | some entry =>
              rw [List.filterMap_cons_some found, List.filterMap_cons_some found]
              simp only [Decoding.readKeyed, ih]
      | false =>
          rw [List.filter_cons_of_neg (by simp [used]), ih]
          cases found : field? depth member with
          | none => rw [List.filterMap_cons_none found]
          | some entry =>
              obtain ⟨name, key, text⟩ := exists_name_of_field? found
              have other : name ∉ Decoding.memberNames kind := by
                intro inside
                simp [isUsed, key, covers name inside] at used
              rw [List.filterMap_cons_some found, Decoding.readKeyed_of_memberOf]
              rw [text]
              exact Decoding.memberOf_text other

/-- More values than one, or none at all, tell no kind. -/
theorem toOption_toldKind_of_ne {values : List Tree} (other : ∀ value, values ≠ [value]) :
    (toldKind none values).toOption = none := by
  cases values with
  | nil => rfl
  | cons value more =>
      cases more with
      | nil => exact absurd rfl (other value)
      | cons next more =>
          rw [toldKind]
          cases value.kind <;> rfl

/-- The values that tell the kind tell the same kind in any order. -/
theorem toOption_toldKind_perm {values others : List Tree} (perm : values.Perm others) :
    (toldKind none values).toOption = (toldKind none others).toOption := by
  by_cases single : ∃ value, values = [value]
  · obtain ⟨value, rfl⟩ := single
    rw [List.perm_singleton.mp perm.symm]
  · have other : ∀ value, values ≠ [value] := not_exists.mp single
    have otherToo : ∀ value, others ≠ [value] := by
      rintro value rfl
      exact other value (List.perm_singleton.mp perm)
    rw [toOption_toldKind_of_ne other, toOption_toldKind_of_ne otherToo]

/-- The name of a kind is read as this kind. -/
theorem kind_name (kind : ClauseKind) : (text (some kind.name)).kind = .ok kind := by
  rw [Tree.kind, Decoding.kindOfText, ClauseKind.ofName?_name]
  rfl

/-- A member with the name of a kind tells this kind. -/
theorem kind_eq_of_mem {members : List (Option String × Tree)} {kind known : ClauseKind}
    (told : toldKind none (kindValues members) = .ok kind)
    (member : (some Decoding.kindMember, .text (some known.name)) ∈ members) : kind = known := by
  have single : ∃ value, kindValues members = [value] := by
    by_contra other
    have nothing := toOption_toldKind_of_ne (not_exists.mp other)
    rw [told] at nothing
    cases nothing
  obtain ⟨value, single⟩ := single
  have inside : Tree.text (some known.name) ∈ kindValues members :=
    List.mem_map.mpr ⟨_, List.mem_filter.mpr ⟨member, beq_self_eq_true _⟩, rfl⟩
  rw [single, List.mem_singleton] at inside
  rw [single, ← inside, toldKind, kind_name] at told
  exact (Except.ok.inj told).symm

/-- The members that the kind uses make up the clause. -/
theorem clauseOfMembers_filter {members : List (Option String × Tree)} {kind? : Option ClauseKind}
    (known : ∀ kind ∈ kind?, (some Decoding.kindMember, .text (some kind.name)) ∈ members)
    (depth : Nat) :
    clauseOfMembers depth (members.filter (isUsed kind?)) = clauseOfMembers depth members := by
  rw [clauseOfMembers, kindValues_filter, clauseOfMembers]
  cases told : toldKind none (kindValues members) with
  | error cause => rfl
  | ok kind =>
      -- The kind that is told may be any, unless it is known: then it is the known one.
      have covers : ∀ name ∈ Decoding.memberNames kind, name ∈ usedNames kind? := by
        intro name inside
        cases kind? with
        | none =>
            have all : kind ∈ ClauseKind.all := by cases kind <;> decide
            exact List.mem_cons_of_mem _ (List.mem_flatMap.mpr ⟨kind, all, inside⟩)
        | some expected =>
            rw [kind_eq_of_mem told (known expected rfl)] at inside
            exact List.mem_cons_of_mem _ inside
      change judged (Decoding.clauseOfKeyed kind _) = judged (Decoding.clauseOfKeyed kind _)
      rw [Decoding.clauseOfKeyed, readKeyed_filter covers, Decoding.clauseOfKeyed]

/-- Judging passes results on. -/
theorem toOption_judged {α : Type} (outcome : Except Fault α) :
    (judged outcome).toOption = outcome.toOption := by
  cases outcome <;> rfl

/-- Members in any order make up the same clause. -/
theorem toOption_clauseOfMembers_perm {members others : List (Option String × Tree)}
    (perm : members.Perm others) (depth : Nat) :
    (clauseOfMembers depth members).toOption = (clauseOfMembers depth others).toOption := by
  have told : (toldKind none (kindValues members)).toOption = (toldKind none (kindValues others)).toOption :=
    toOption_toldKind_perm ((perm.filter _).map _)
  rw [clauseOfMembers, clauseOfMembers, toOption_bind, toOption_bind, told]
  refine Option.bind_congr fun kind _ => ?_
  rw [toOption_judged, toOption_judged]
  exact Decoding.toOption_clauseOfKeyed_perm kind (perm.filterMap (field? depth))

end Tree

/-- An object is decoded as a clause from the members that clauses use: clauses of every kind, or
clauses of the kind that is told. -/
theorem decodeClause_filter {members : List (Option String × Tree)} {text : List Char}
    (written : Tree.Writes (.object members true) text)
    (readable : (Tree.object members true).Readable depthLimit) {kind? : Option ClauseKind}
    (known : ∀ kind ∈ kind?, (some Decoding.kindMember, .text (some kind.name)) ∈ members) :
    decodeClause text =
      Tree.clauseOfMembers (depthLimit - 1) (members.filter (Tree.isUsed kind?)) := by
  have decoded : decodeClause text = Tree.clause (depthLimit - 1 + 1) (.object members true) :=
    decode_of_writes written (Tree.clause depthLimit)
  rw [Tree.clauseOfMembers_filter known, decoded]
  cases readable with
  | object named readable => exact Tree.clause_object named readable

/-- Two objects are decoded alike as clauses if they have the same members, in any order, of those
that clauses use: clauses of every kind, or clauses of the kind that is told. Where these members
are also in the same order, the same fault is found in both objects, if there is one. -/
theorem decodeClause_object {members others : List (Option String × Tree)} {text input : List Char}
    (written : Tree.Writes (.object members true) text)
    (writtenOthers : Tree.Writes (.object others true) input)
    (readable : (Tree.object members true).Readable depthLimit)
    (readableOthers : (Tree.object others true).Readable depthLimit) {kind? : Option ClauseKind}
    (known : ∀ kind ∈ kind?, (some Decoding.kindMember, .text (some kind.name)) ∈ members)
    (same : (members.filter (Tree.isUsed kind?)).Perm (others.filter (Tree.isUsed kind?))) :
    (∀ clause, decodeClause text = .ok clause ↔ decodeClause input = .ok clause) ∧
      (members.filter (Tree.isUsed kind?) = others.filter (Tree.isUsed kind?) →
        decodeClause text = decodeClause input) := by
  have knownOthers : ∀ kind ∈ kind?,
      (some Decoding.kindMember, .text (some kind.name)) ∈ others := fun kind told =>
    (List.mem_filter.mp (same.subset (List.mem_filter.mpr
      ⟨known kind told, Tree.isUsed_kind kind? _⟩))).1
  have decoded := decodeClause_filter written readable known
  have decodedOthers := decodeClause_filter writtenOthers readableOthers knownOthers
  constructor
  · intro clause
    have alike := Tree.toOption_clauseOfMembers_perm same (depthLimit - 1)
    rw [decoded, decodedOthers, eq_ok_iff_toOption, eq_ok_iff_toOption, alike]
  · intro equal
    rw [decoded, decodedOthers, equal]

open FilterQuery.Compact in
/-- The members of a comparison in the opposite order, with two others between them. -/
theorem decodeClause_object_reversed :
    decodeClause "\x7b\"kind\":\"where\",\"attribute\":\"a\",\"value\":-1\x7d".toList =
        .ok (.comparison "a" .equal (.number (.int (-1)))) ∧
      decodeClause ("\x7b\"value\":-1,\"values\":[[]],\"attribute\":\"a\",\"note\":\x7b\x7d," ++
        "\"kind\":\"where\"\x7d").toList = .ok (.comparison "a" .equal (.number (.int (-1)))) := by
  let tag : Name × Data := (⟨⟨"kind", by decide⟩, by decide⟩, .text ⟨"where", by decide⟩)
  let field : Name × Data := (⟨⟨"attribute", by decide⟩, by decide⟩, .text ⟨"a", by decide⟩)
  let value : Name × Data := (⟨⟨"value", by decide⟩, by decide⟩, .integer (-1))
  let unused : Name × Data := (⟨⟨"values", by decide⟩, by decide⟩, .list [.list []])
  let unknown : Name × Data := (⟨⟨"note", by decide⟩, by decide⟩, .record [])
  let members := Data.record [tag, field, value]
  let others := Data.record [value, unused, field, unknown, tag]
  have decoded : decodeClause members.compact = .ok (.comparison "a" .equal (.number (.int (-1)))) := by
    decide +kernel
  have known : ∀ kind ∈ some ClauseKind.comparison,
      (some Decoding.kindMember, .text (some kind.name)) ∈ Data.memberTrees [tag, field, value] := by
    intro _ told
    cases told
    exact List.mem_cons_self
  have reversed : ((Data.memberTrees [tag, field, value]).filter
        (Tree.isUsed (some ClauseKind.comparison))).Perm
      ((Data.memberTrees [value, unused, field, unknown, tag]).filter
        (Tree.isUsed (some ClauseKind.comparison))) :=
    (List.reverse_perm _).symm
  have alike := decodeClause_object members.writes others.writes
    (members.readable (by decide)) (others.readable (by decide)) known reversed
  exact ⟨decoded, (alike.1 _).mp decoded⟩

end FilterQuery.Json
