import FilterQuery.Proofs.Decoding.Members
import FilterQuery.Proofs.Yaml.Atom
import FilterQuery.Proofs.Yaml.Flow
import FilterQuery.Yaml.Decoding

namespace FilterQuery

namespace Yaml

open Decoding (Content Fault Place Error)

namespace Source

variable (source : Source) (depth : Nat) (place : Place)

/-- The content of a text between quotes is the text. -/
theorem content_quoted (slot : Option Nat) (text : String) :
    source.content depth place (.scalar slot none text false) = pure (.text text) := by
  cases depth <;> rfl

/-- The content of a scalar without a tag is that of its atom. -/
theorem content_scalar (slot : Option Nat) (text : String) (plain : Bool) :
    source.content depth place (.scalar slot none text plain) =
      Reading.judge place ((Atom.ofScalar none text plain).bind Atom.content) := by
  cases depth <;> rfl

/-- The member that tells the kind of a clause is read as its kind. -/
theorem clauseMembers_kind (kind : ClauseKind) (read : List (Content × Content))
    (rest : List (Linked × Linked)) :
    source.clauseMembers depth place none read
        ((.scalar none none Decoding.kindMember false, .scalar none none kind.name false) :: rest) =
      source.clauseMembers depth place (some kind) read rest := by
  have named : Source.kind source (.member place Decoding.kindMember)
      (.scalar none none kind.name false) = pure kind := by
    simp only [Source.kind, text, resolve, pure_bind, Decoding.kindOfText,
      ClauseKind.ofName?_name, Reading.judge]
  have member : namesKind (.text Decoding.kindMember) = true := beq_self_eq_true _
  rw [clauseMembers, content_quoted, pure_bind, member, if_pos rfl, Option.isSome_none,
    if_neg Bool.false_ne_true, memberPlace, named, pure_bind]

/-- The contents of other members are read. -/
theorem clauseMembers_member (member : Decoding.Member) (kind? : Option ClauseKind)
    (read : List (Content × Content)) (value : Linked) (rest : List (Linked × Linked)) :
    source.clauseMembers depth place kind? read
        ((.scalar none none member.name false, value) :: rest) =
      (source.content depth (.member place member.name) value >>= fun content =>
        source.clauseMembers depth place kind? ((.text member.name, content) :: read) rest) := by
  have ordinary : namesKind (.text member.name) = false := by cases member <;> decide
  rw [clauseMembers, content_quoted, pure_bind, ordinary, if_neg Bool.false_ne_true, memberPlace]

/-- A clause is read from the members of a mapping. -/
theorem clause_mapping (list : Place) (slot : Option Nat) (members : List (Linked × Linked)) :
    source.clause list (depth + 1) place (.mapping slot none members) =
      (source.clauseMembers depth place none [] members >>= fun clause =>
        Reading.judge list (Decoding.clauseOfKeyed clause.1 clause.2)) := rfl

end Source

open Quoted (write)
open Source

/-- The name of a member and the colon behind it. -/
def nameText (name : String) : List Char := write name.toList ++ [':']

/-- A member whose value is a text between quotes, and the comma behind it. -/
def memberText (name text : String) : List Char :=
  nameText name ++ write text.toList ++ [',']

/-- A comparison in YAML: its members between brackets, with a value that is written like this. -/
def comparisonText (field : String) (operator : Operator) (value : List Char) : List Char :=
  '\x7b' :: (memberText Decoding.kindMember ClauseKind.comparison.name ++
    memberText Decoding.Member.field.name field ++
    memberText Decoding.Member.operator.name operator.token ++
    nameText Decoding.Member.value.name ++ (value ++ ['\x7d']))

def comparisonNode (field : String) (operator : Operator) (value : Linked) : Linked :=
  .mapping none none [
    (.scalar none none Decoding.kindMember false,
      .scalar none none ClauseKind.comparison.name false),
    (.scalar none none Decoding.Member.field.name false, .scalar none none field false),
    (.scalar none none Decoding.Member.operator.name false,
      .scalar none none operator.token false),
    (.scalar none none Decoding.Member.value.name false, value)]

/-- The members of a comparison make up the clause, if the value can be read. -/
theorem clauseOfKeyed_comparison (field : String) (operator : Operator) (content : Content) :
    Decoding.clauseOfKeyed .comparison [
        (.text Decoding.Member.field.name, .text field),
        (.text Decoding.Member.operator.name, .text operator.token),
        (.text Decoding.Member.value.name, content)] =
      content.value?.map (Clause.comparison field operator) := by
  let named : Decoding.Members := { Decoding.Members.empty with field := some field }
  have read : named.read (.text operator.token) .operator =
      .ok { named with operator := some operator } := by
    have spelled : (Content.text operator.token).operator? = .ok operator := by
      simp only [Content.operator?, Content.text?, bind, Except.bind, operator.read?_token]
    rw [Decoding.Members.read, spelled]
    rfl
  have members : Decoding.readKeyed .comparison .empty [
      (.text Decoding.Member.field.name, .text field),
      (.text Decoding.Member.operator.name, .text operator.token),
      (.text Decoding.Member.value.name, content)] =
      content.value?.map fun value =>
        { named with operator := some operator, value := some value } := by
    rw [Decoding.readKeyed_cons (by decide) rfl]
    change Decoding.readKeyed .comparison named _ = _
    rw [Decoding.readKeyed_cons (by decide) rfl, read]
    change Decoding.readKeyed .comparison { named with operator := some operator } _ = _
    rw [Decoding.readKeyed_cons (by decide) rfl, Decoding.Members.read]
    cases content.value? <;> rfl
  rw [Decoding.clauseOfKeyed, members]
  cases content.value? <;> rfl

/-- A comparison is read with the content of its value. -/
theorem clause_comparisonNode (source : Source) (field : String) (operator : Operator)
    (value : Linked) :
    source.clause .whole depthLimit .whole (comparisonNode field operator value) =
      (source.content 127 (.member .whole Decoding.Member.value.name) value >>= fun content =>
        Reading.judge .whole (content.value?.map (Clause.comparison field operator))) := by
  have members (place : Place) : source.clauseMembers 127 place none [] [
      (.scalar none none Decoding.kindMember false,
        .scalar none none ClauseKind.comparison.name false),
      (.scalar none none Decoding.Member.field.name false, .scalar none none field false),
      (.scalar none none Decoding.Member.operator.name false,
        .scalar none none operator.token false),
      (.scalar none none Decoding.Member.value.name false, value)] =
      (source.content 127 (.member place Decoding.Member.value.name) value >>= fun content =>
        pure (.comparison, [
          (.text Decoding.Member.field.name, .text field),
          (.text Decoding.Member.operator.name, .text operator.token),
          (.text Decoding.Member.value.name, content)])) := by
    rw [clauseMembers_kind, clauseMembers_member, content_quoted, pure_bind, clauseMembers_member,
      content_quoted, pure_bind, clauseMembers_member]
    rfl
  change source.clause .whole (127 + 1) .whole (.mapping none none _) = _
  simp only [clause_mapping, members, bind_assoc, pure_bind, clauseOfKeyed_comparison]

section Text

open Layout

/-- A member is read as a key and the text behind it. -/
theorem scans_memberText (brackets : Nat) (name text : String)
    (short : (write name.toList).length ≤ keyLimit) :
    Scans (brackets + 1) true (memberText name text)
      [.key, .scalar name.toList false, .value, .scalar text.toList false, .flowEntry]
      (brackets + 1) true :=
  ((Scans.name short).append (.quoted text.toList)).append .comma

/-- The characters of a name may stand in a YAML text. -/
theorem isAllowed_of_mem_nameText (name : String) : ∀ c ∈ nameText name, isAllowed c = true :=
  List.forall_mem_append.mpr ⟨Quoted.isAllowed_of_mem_write, List.forall_mem_singleton.mpr rfl⟩

theorem isAllowed_of_mem_memberText (name text : String) :
    ∀ c ∈ memberText name text, isAllowed c = true := by
  rw [memberText, List.forall_mem_append, List.forall_mem_append]
  exact ⟨⟨isAllowed_of_mem_nameText name, Quoted.isAllowed_of_mem_write⟩,
    List.forall_mem_singleton.mpr rfl⟩

/-- A comparison is read as its node, if its value is read as a scalar. -/
theorem read?_comparisonText (field : String) (operator : Operator) {value content : List Char}
    {plain : Bool}
    (scans : Scans 1 false (value ++ ['\x7d']) [.scalar content plain, .flowMappingEnd] 0 false)
    (allowed : ∀ c ∈ value, isAllowed c = true) :
    Source.read? (comparisonText field operator value) =
      some (.ofLinked (comparisonNode field operator
        (.scalar none none (String.ofList content) plain))) := by
  have kind := scans_memberText 0 Decoding.kindMember ClauseKind.comparison.name (by decide)
  have named := scans_memberText 0 Decoding.Member.field.name field (by decide)
  have compared := scans_memberText 0 Decoding.Member.operator.name operator.token (by decide)
  have last : (write Decoding.Member.value.name.toList).length ≤ keyLimit := by decide
  have whole := (((kind.append named).append compared).append (.name last)).append scans
  have tokens := whole.tokens?_eq (by
    refine List.forall_mem_append.mpr ⟨List.forall_mem_append.mpr ⟨List.forall_mem_append.mpr
      ⟨List.forall_mem_append.mpr ⟨?_, ?_⟩, ?_⟩, isAllowed_of_mem_nameText _⟩,
      List.forall_mem_append.mpr ⟨allowed, List.forall_mem_singleton.mpr rfl⟩⟩
    all_goals exact isAllowed_of_mem_memberText _ _)
  let scalar (text : List Char) : Node := .scalar .none text false
  let node : Node := .mapping .none [
    (scalar Decoding.kindMember.toList, scalar ClauseKind.comparison.name.toList),
    (scalar Decoding.Member.field.name.toList, scalar field.toList),
    (scalar Decoding.Member.operator.name.toList, scalar operator.token.toList),
    (scalar Decoding.Member.value.name.toList, .scalar .none content plain)]
  have composed : node? (comparisonText field operator value) = some (some node) := by
    rw [node?, comparisonText, nameText, tokens]
    rfl
  have linked : node.link? [] = some (comparisonNode field operator
      (.scalar none none (String.ofList content) plain), []) := by
    simp [node, scalar, Node.link?, Node.linkMembers?, Bindings.bind, Properties.none,
      comparisonNode]
  rw [Source.read?, composed]
  simp only [Option.bind_eq_bind, Option.bind_some, linked]

end Text

/-- A comparison is decoded with the content of its value. -/
theorem decodeClause_comparisonText (field : String) (operator : Operator)
    {value : List Char} {content : String} {plain : Bool}
    (read : Source.read? (comparisonText field operator value) =
      some (.ofLinked (comparisonNode field operator (.scalar none none content plain)))) :
    decodeClause (comparisonText field operator value) =
      match (Atom.ofScalar none content plain).bind Atom.content with
      | .ok content =>
          match content.value? with
          | .ok value => .ok (.comparison field operator value)
          | .error cause => .error (.fault .whole cause)
      | .error cause => .error (.fault (.member .whole Decoding.Member.value.name) cause) := by
  rw [decodeClause, decode, read]
  change ((Source.clause _ .whole depthLimit .whole _).run _).map Prod.fst = _
  rw [clause_comparisonNode, content_scalar]
  cases (Atom.ofScalar none content plain).bind Atom.content with
  | error cause => rfl
  | ok content =>
      change ((Reading.judge .whole (content.value?.map _)).run _).map Prod.fst = _
      dsimp only
      cases content.value? <;> rfl

section Literal

open Decimal Layout

variable (sign : Sign) (spelling : Spelling)

/-- The characters of a literal stand for themselves in a word and between quotes. -/
theorem forall_mem_literal : ∀ c ∈ sign.text ++ spelling.text,
    isWordChar c = true ∧ isAllowed c = true ∧ Quoted.written c = [c] := by
  refine List.forall_mem_append.mpr ⟨?_, ?_⟩
  · intro c member
    cases sign with
    | absent => cases member
    | plus | minus => rw [List.mem_singleton.mp member]; decide
  · exact spelling.forall_mem_text (forall_isDigit (by decide)) (by decide)

/-- A literal is a word. -/
theorem isWord_literal : IsWord (sign.text ++ spelling.text) where
  nonempty := List.append_ne_nil_of_right_ne_nil _ spelling.text_ne_nil
  chars := fun c member => (forall_mem_literal sign spelling c member).1
  head := by
    obtain ⟨c, rest, split, starts⟩ := sign.head?_append spelling
    rw [split]
    intro d member
    cases member
    rcases starts with rfl | rfl | digit
    · exact .inl rfl
    · exact .inr rfl
    · have ordinary : ∀ c, c.isDigit = true → isIndicator c = false := forall_isDigit (by decide)
      exact .inl (ordinary c digit)

/-- A literal between quotes is written as it stands. -/
theorem write_literal :
    write (sign.text ++ spelling.text) = '\x22' :: (sign.text ++ spelling.text ++ ['\x22']) := by
  have plain {text : List Char} (same : ∀ c ∈ text, Quoted.written c = [c]) :
      text.flatMap Quoted.written = text := by
    rw [List.flatMap_congr same]
    simp
  rw [write, plain fun c member => (forall_mem_literal sign spelling c member).2.2]

/-- A literal as the value of a comparison means the same with quotes and without: either both are
decoded to clauses that do the same to every query, or the literal is an integer that needs more
than 64 bits, but not more than 128, and is decoded with quotes only. -/
theorem decodeClause_literal (field : String) (operator : Operator) :
    decodeClause (comparisonText field operator
        ('\x22' :: (sign.text ++ spelling.text ++ ['\x22']))) =
      .ok (.comparison field operator (.text (String.ofList (sign.text ++ spelling.text)))) ∧
    match Atom.wideInteger? (sign.text ++ spelling.text) with
    | some n =>
        decodeClause (comparisonText field operator (sign.text ++ spelling.text)) =
          .error (.fault (.member .whole "value") (.wrongType (.wideInteger n) .anything))
    | none => ∃ value,
        decodeClause (comparisonText field operator (sign.text ++ spelling.text)) =
          .ok (.comparison field operator value) ∧
        ∀ query, (Clause.comparison field operator value).apply query =
          (Clause.comparison field operator
            (.text (String.ofList (sign.text ++ spelling.text)))).apply query := by
  have quoted := read?_comparisonText field operator
    ((Scans.quoted (sign.text ++ spelling.text)).append .closeMapping)
    Quoted.isAllowed_of_mem_write
  have plain := read?_comparisonText field operator
    (Scans.word (isWord_literal sign spelling) rfl .closeMapping)
    fun c member => (forall_mem_literal sign spelling c member).2.1
  rw [← write_literal]
  refine ⟨decodeClause_comparisonText field operator quoted, ?_⟩
  have decoded := decodeClause_comparisonText field operator plain
  have atom : Atom.ofScalar none (String.ofList (sign.text ++ spelling.text)) true =
      .ok (Atom.ofPlain (sign.text ++ spelling.text)) := by
    simp [Atom.ofScalar]
  rw [atom, Except.bind] at decoded
  cases wide : Atom.wideInteger? (sign.text ++ spelling.text) with
  | some n =>
      rw [Atom.ofPlain_of_wide sign spelling wide] at decoded
      exact decoded
  | none =>
      obtain ⟨content, value, found, read, same⟩ := Atom.agrees_ofPlain sign spelling wide
      rw [found] at decoded
      dsimp only at decoded
      rw [read] at decoded
      refine ⟨value, decoded, fun query => ?_⟩
      simp only [Clause.apply, Query.add, Condition.statement?, same]

/-- The integer 2 ^ 64 is decoded with quotes only. -/
theorem decodeClause_two_pow_64 :
    decodeClause "kind: where\nattribute: a\noperator: '<'\nvalue: 18446744073709551616".toList =
      .error (.fault (.member .whole "value")
        (.wrongType (.wideInteger 18446744073709551616) .anything)) ∧
    decodeClause "kind: where\nattribute: a\noperator: '<'\nvalue: \"18446744073709551616\"".toList =
      .ok (.comparison "a" .less (.text "18446744073709551616")) := by
  decide +kernel

end Literal

end Yaml

end FilterQuery
