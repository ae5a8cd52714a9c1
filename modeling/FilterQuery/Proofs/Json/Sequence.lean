import FilterQuery.Proofs.Decoding.Listed
import FilterQuery.Proofs.Json.Members

namespace FilterQuery.Json

open Decoding (Content Fault Error)

namespace Tree

/-- The members that do not tell the kind of a clause. -/
def fieldMembers (members : List (Option String × Tree)) : List (Option String × Tree) :=
  members.filter fun member => member.1 != some Decoding.kindMember

/-- The members of an object that tells a kind and has the items as the first members of this kind. -/
def namedMembers (kind : ClauseKind) (items : List Tree) : List (Option String × Tree) :=
  (some Decoding.kindMember, .text (some kind.name)) ::
    ((Decoding.memberNames kind).map some).zip items

/-- What is demanded is there, or nothing results. -/
theorem toOption_demand {α : Type} (value? : Option α) : (demand value?).toOption = value? := by
  cases value? <;> rfl

/-- Members have contents if the first and the others have. -/
theorem memberContents?_cons (depth : Nat) (member : Option String × Tree)
    (members : List (Option String × Tree)) :
    memberContents? depth (member :: members) =
      member.1.bind fun name => (member.2.content? depth).bind fun content =>
        (memberContents? depth members).map fun contents => (.text name, content) :: contents := by
  obtain ⟨key, value⟩ := member
  rw [memberContents?]
  cases key <;> cases value.content? depth <;> cases memberContents? depth members <;> rfl

/-- The contents of members are the content of the first and those of the others. -/
theorem memberContents?_cons_eq_some_iff {depth : Nat} {member : Option String × Tree}
    {members : List (Option String × Tree)} {entries : List (Content × Content)} :
    memberContents? depth (member :: members) = some entries ↔
      ∃ name content contents, member.1 = some name ∧ member.2.content? depth = some content ∧
        memberContents? depth members = some contents ∧
        (.text name, content) :: contents = entries := by
  simp only [memberContents?_cons, Option.bind_eq_some_iff, Option.map_eq_some_iff]
  constructor
  · rintro ⟨name, key, content, value, contents, found, rfl⟩
    exact ⟨name, content, contents, key, value, found, rfl⟩
  · rintro ⟨name, content, contents, key, value, found, rfl⟩
    exact ⟨name, key, content, value, contents, found, rfl⟩

section Object

variable (depth : Nat) (members : List (Option String × Tree))

/-- The kind and the contents of the other members are read if the kind is told once and the others
have contents, wherever the kind is told. -/
theorem toOption_clauseMembers (kind? : Option ClauseKind) (read : List (Content × Content)) :
    (clauseMembers depth true kind? read members).toOption =
      (toldKind kind? (kindValues members)).toOption.bind fun kind =>
        (memberContents? depth (fieldMembers members)).map fun entries =>
          (kind, read.reverse ++ entries) := by
  induction members generalizing kind? read with
  | nil =>
      cases kind? with
      | none => rfl
      | some kind =>
          simp [clauseMembers, kindValues, fieldMembers, memberContents?, toldKind, Except.toOption]
  | cons member members ih =>
      obtain ⟨key, value⟩ := member
      by_cases tells : key = some Decoding.kindMember
      · subst tells
        have others : fieldMembers ((some Decoding.kindMember, value) :: members) =
            fieldMembers members := List.filter_cons_of_neg (by simp)
        rw [kindValues_kind, others]
        cases kind? with
        | some kind => rfl
        | none =>
            rw [clauseMembers_kind, toldKind]
            cases value.kind with
            | error cause => rfl
            | ok kind => exact ih (some kind) read
      · have values : kindValues ((key, value) :: members) = kindValues members := by
          rw [kindValues, List.filter_cons_of_neg (by simpa using tells)]
          rfl
        have others : fieldMembers ((key, value) :: members) = (key, value) :: fieldMembers members :=
          List.filter_cons_of_pos (by simpa using tells)
        rw [values, others, memberContents?_cons]
        cases key with
        | none => simp [clauseMembers, demand, bind, Except.bind, Except.toOption]
        | some name =>
            have other : (name == Decoding.kindMember) = false := by simpa using tells
            cases found : value.content? depth with
            | none => simp [clauseMembers, demand, other, found, bind, Except.bind, Except.toOption]
            | some content =>
                rw [clauseMembers_member depth true kind? read value members (beq_eq_false_iff_ne.mp other)
                  found, ih]
                simp [Function.comp_def]

/-- A clause is read from an object if its kind is told once and its other members have contents that
make up a clause of this kind. -/
theorem toOption_clause_object :
    (clause (depth + 1) (.object members true)).toOption =
      (toldKind none (kindValues members)).toOption.bind fun kind =>
        (memberContents? depth (fieldMembers members)).bind fun entries =>
          (Decoding.clauseOfKeyed kind entries).toOption := by
  rw [clause, toOption_bind, toOption_clauseMembers]
  simp only [Option.bind_assoc, Option.bind_map, List.reverse_nil, List.nil_append, toOption_judged,
    Function.comp_def]

end Object

/-- Members in another order have the same contents in another order. -/
theorem exists_memberContents?_perm {depth : Nat} {members others : List (Option String × Tree)}
    (perm : members.Perm others) {entries : List (Content × Content)}
    (found : memberContents? depth members = some entries) :
    ∃ moved, memberContents? depth others = some moved ∧ entries.Perm moved := by
  induction perm generalizing entries with
  | nil => exact ⟨entries, found, .refl entries⟩
  | cons member perm ih =>
      obtain ⟨name, content, contents, key, value, rest, rfl⟩ :=
        memberContents?_cons_eq_some_iff.mp found
      obtain ⟨moved, restMoved, perm⟩ := ih rest
      exact ⟨_, memberContents?_cons_eq_some_iff.mpr
        ⟨name, content, moved, key, value, restMoved, rfl⟩, perm.cons _⟩
  | swap member other members =>
      obtain ⟨name, content, both, key, value, next, rfl⟩ :=
        memberContents?_cons_eq_some_iff.mp found
      obtain ⟨otherName, otherContent, contents, otherKey, otherValue, rest, rfl⟩ :=
        memberContents?_cons_eq_some_iff.mp next
      have behind := memberContents?_cons_eq_some_iff.mpr
        ⟨name, content, contents, key, value, rest, rfl⟩
      exact ⟨_, memberContents?_cons_eq_some_iff.mpr
        ⟨otherName, otherContent, _, otherKey, otherValue, behind, rfl⟩, .swap ..⟩
  | trans perm more ih ihMore =>
      obtain ⟨moved, foundMoved, perm⟩ := ih found
      obtain ⟨again, foundAgain, more⟩ := ihMore foundMoved
      exact ⟨again, foundAgain, perm.trans more⟩

/-- A clause is read from members in any order, or from none. -/
theorem toOption_clause_perm {members others : List (Option String × Tree)}
    (perm : members.Perm others) (depth : Nat) :
    (clause (depth + 1) (.object members true)).toOption =
      (clause (depth + 1) (.object others true)).toOption := by
  have told : (toldKind none (kindValues members)).toOption =
      (toldKind none (kindValues others)).toOption :=
    toOption_toldKind_perm ((perm.filter _).map _)
  have moved : (fieldMembers members).Perm (fieldMembers others) := perm.filter _
  rw [toOption_clause_object, toOption_clause_object, told]
  apply Option.bind_congr
  intro kind _
  cases found : memberContents? depth (fieldMembers members) with
  | some entries =>
      obtain ⟨entriesMoved, foundMoved, perm⟩ := exists_memberContents?_perm moved found
      rw [foundMoved]
      exact Decoding.toOption_clauseOfKeyed_perm kind perm
  | none =>
      cases foundOthers : memberContents? depth (fieldMembers others) with
      | none => rfl
      | some entries =>
          obtain ⟨back, foundBack, -⟩ := exists_memberContents?_perm moved.symm foundOthers
          rw [found] at foundBack
          cases foundBack

/-- Items behind names have the contents of the items, behind the names. -/
theorem memberContents?_zip (depth : Nat) {names : List String} {items : List Tree}
    (few : items.length ≤ names.length) :
    memberContents? depth ((names.map some).zip items) =
      (contents? depth items).map fun contents => (names.map Content.text).zip contents := by
  induction items generalizing names with
  | nil => simp [memberContents?, contents?]
  | cons item items ih =>
      cases names with
      | nil => exact absurd few (by simp)
      | cons name names =>
          rw [List.map_cons, List.zip_cons_cons, memberContents?_cons,
            ih (Nat.le_of_succ_le_succ few), contents?]
          cases item.content? depth <;> cases contents? depth items <;> rfl

/-- There is one content for each item. -/
theorem length_of_contents? {depth : Nat} {items : List Tree} {contents : List Content}
    (found : contents? depth items = some contents) : contents.length = items.length := by
  induction items generalizing contents with
  | nil =>
      rw [contents?] at found
      cases found
      rfl
  | cons item items ih =>
      rw [contents?] at found
      obtain ⟨content, -, found⟩ := Option.bind_eq_some_iff.mp found
      obtain ⟨rest, foundRest, found⟩ := Option.bind_eq_some_iff.mp found
      cases found
      rw [List.length_cons, List.length_cons, ih foundRest]

section Kind

variable (depth : Nat) (kind : ClauseKind) (items : List Tree)

/-- A clause is read from an array that starts with a kind if the other items have contents that, in
the order of the kind, make up a clause. -/
theorem toOption_clause_array :
    (clause (depth + 1) (.array (.text (some kind.name) :: items) true)).toOption =
      (contents? depth items).bind fun contents =>
        (Decoding.clauseOfListed kind contents).toOption := by
  rw [clause, kind_name]
  change (demand (contents? depth items) >>= fun contents =>
    judged (Decoding.clauseOfListed kind contents)).toOption = _
  simp only [toOption_bind, toOption_demand, toOption_judged]

/-- A clause is read from an object with the first members of its kind if they have contents that,
behind their names, make up a clause. -/
theorem toOption_clause_namedMembers (few : items.length ≤ (Decoding.membersOf kind).length) :
    (clause (depth + 1) (.object (namedMembers kind items) true)).toOption =
      (contents? depth items).bind fun contents =>
        (Decoding.clauseOfKeyed kind (Decoding.keyed kind contents)).toOption := by
  have other : ∀ member ∈ ((Decoding.memberNames kind).map some).zip items,
      member.1 ≠ some Decoding.kindMember := by
    intro member inside tells
    obtain ⟨name, own, same⟩ := List.mem_map.mp (List.of_mem_zip inside).1
    rw [tells] at same
    obtain rfl := Option.some.inj same
    revert own
    cases kind <;> decide
  have values : kindValues (namedMembers kind items) = [.text (some kind.name)] := by
    rw [namedMembers, kindValues_kind, kindValues, List.filter_eq_nil_iff.mpr]
    · rfl
    · intro member inside
      simpa using other member inside
  have fields : fieldMembers (namedMembers kind items) =
      ((Decoding.memberNames kind).map some).zip items := by
    rw [namedMembers, fieldMembers, List.filter_cons_of_neg (by simp), List.filter_eq_self]
    intro member inside
    simpa using other member inside
  have told : toldKind none [.text (some kind.name)] = .ok kind := by
    rw [toldKind, kind_name]
    rfl
  have enough : items.length ≤ (Decoding.memberNames kind).length := by
    rwa [Decoding.memberNames, List.length_map]
  rw [toOption_clause_object, values, fields, told, memberContents?_zip depth enough]
  exact Option.bind_map

/-- An array that starts with a kind is read as the object with the items as the first members of
this kind, if the kind has that many. -/
theorem toOption_clause_array_eq :
    (clause (depth + 1) (.array (.text (some kind.name) :: items) true)).toOption =
      if items.length ≤ (Decoding.membersOf kind).length then
        (clause (depth + 1) (.object (namedMembers kind items) true)).toOption
      else none := by
  have listed (contents : List Content) (found : contents ∈ contents? depth items) :
      (Decoding.clauseOfListed kind contents).toOption =
        if items.length ≤ (Decoding.membersOf kind).length then
          (Decoding.clauseOfKeyed kind (Decoding.keyed kind contents)).toOption
        else none := by
    rw [Decoding.toOption_clauseOfListed, length_of_contents? found]
  rw [toOption_clause_array, Option.bind_congr listed]
  split
  · rename_i few
    rw [toOption_clause_namedMembers depth kind items few]
  · exact Option.bind_fun_none _

end Kind

end Tree

/-- An array that starts with a kind is decoded as any object is that has this kind and the items as
the first members of the kind, if the kind has that many members. Otherwise it is not decoded. -/
theorem decodeClause_sequence {kind : ClauseKind} {items : List Tree} {text : List Char}
    (written : Tree.Writes (.array (.text (some kind.name) :: items) true) text) :
    (items.length ≤ (Decoding.membersOf kind).length →
      ∀ {members : List (Option String × Tree)} {input : List Char},
        Tree.Writes (.object members true) input → members.Perm (Tree.namedMembers kind items) →
          ∀ clause, decodeClause text = .ok clause ↔ decodeClause input = .ok clause) ∧
      ((Decoding.membersOf kind).length < items.length → ∀ clause, decodeClause text ≠ .ok clause) := by
  have decoded : decodeClause text =
      Tree.clause (depthLimit - 1 + 1) (.array (.text (some kind.name) :: items) true) :=
    decode_of_writes written (Tree.clause depthLimit)
  have alike := Tree.toOption_clause_array_eq (depthLimit - 1) kind items
  rw [← decoded] at alike
  constructor
  · intro few members input writtenMembers perm clause
    have decodedMembers : decodeClause input =
        Tree.clause (depthLimit - 1 + 1) (.object members true) :=
      decode_of_writes writtenMembers (Tree.clause depthLimit)
    rw [if_pos few, ← Tree.toOption_clause_perm perm, ← decodedMembers] at alike
    rw [eq_ok_iff_toOption, eq_ok_iff_toOption, alike]
  · intro many clause result
    rw [if_neg (Nat.not_le.mpr many), result] at alike
    cases alike

open FilterQuery.Compact in
/-- A comparison in both notations, and an exclusion with one item too many. -/
theorem decodeClause_sequence_comparison :
    (decodeClause "[\"where\",\"a\",\">\",-1]".toList =
        .ok (.comparison "a" .greater (.number (.int (-1)))) ∧
      decodeClause ("\x7b\"value\":-1,\"operator\":\">\",\"attribute\":\"a\"," ++
        "\"kind\":\"where\"\x7d").toList = .ok (.comparison "a" .greater (.number (.int (-1))))) ∧
      ∀ clause, decodeClause "[\"where_not\",\"a\",-1,null]".toList ≠ .ok clause := by
  let comparison := Data.text ⟨"where", by decide⟩
  let exclusion := Data.text ⟨"where_not", by decide⟩
  let field := Data.text ⟨"a", by decide⟩
  let operator := Data.text ⟨">", by decide⟩
  let listed := Data.list [comparison, field, operator, .integer (-1)]
  let surplus := Data.list [exclusion, field, .integer (-1), .null]
  let keyed := Data.record [(⟨⟨"value", by decide⟩, by decide⟩, .integer (-1)),
    (⟨⟨"operator", by decide⟩, by decide⟩, operator),
    (⟨⟨"attribute", by decide⟩, by decide⟩, field), (⟨⟨"kind", by decide⟩, by decide⟩, comparison)]
  have decoded : decodeClause listed.compact =
      .ok (.comparison "a" .greater (.number (.int (-1)))) := by
    decide +kernel
  have written : Tree.Writes (.array (.text (some ClauseKind.comparison.name) ::
      Data.trees [field, operator, .integer (-1)]) true) listed.compact := listed.writes
  have writtenSurplus : Tree.Writes (.array (.text (some ClauseKind.exclusion.name) ::
      Data.trees [field, .integer (-1), .null]) true) surplus.compact := surplus.writes
  have reversed := List.reverse_perm
    (Tree.namedMembers .comparison (Data.trees [field, operator, .integer (-1)]))
  have alike := (decodeClause_sequence written).1 (by decide) keyed.writes reversed
  have refused := (decodeClause_sequence writtenSurplus).2 (by decide)
  exact ⟨⟨decoded, (alike _).mp decoded⟩, refused⟩

end FilterQuery.Json
