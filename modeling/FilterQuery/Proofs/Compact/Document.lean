import FilterQuery.Decoding.Markup
import FilterQuery.Proofs.Compact.Clause
import FilterQuery.Proofs.Compact.Json
import FilterQuery.Proofs.Compact.Yaml

namespace FilterQuery.Compact

open Decoding (Content)

/-- The name of the member that lists the clauses of a document. -/
def clausesName : Name where
  text := Decoding.clausesMember
  printable := by decide
  short := by decide

/-- The record of a document with clauses that are written down by these members. -/
def documentRecord (clauses : List (List (Name × Data))) : Data :=
  .record [(clausesName, .list (clauses.map .record))]

namespace Data

theorem memberTrees_append (first second : List (Name × Data)) :
    memberTrees (first ++ second) = memberTrees first ++ memberTrees second := by
  induction first with
  | nil => rfl
  | cons member first ih => rw [List.cons_append, memberTrees, memberTrees, ih, List.cons_append]

theorem memberLinks_append (first second : List (Name × Data)) :
    memberLinks (first ++ second) = memberLinks first ++ memberLinks second := by
  induction first with
  | nil => rfl
  | cons member first ih => rw [List.cons_append, memberLinks, memberLinks, ih, List.cons_append]

end Data

section Members

variable {depth : Nat} {members : List (Name × Data)}
  (others : ∀ member ∈ members, member.1.text ≠ Decoding.kindMember)
  (shallow : ∀ member ∈ members, member.2.depth ≤ depth)

include others shallow

open Json in
/-- Members other than the kind are read in JSON. -/
theorem clauseMembers_memberTrees (kind? : Option ClauseKind) (read : List (Content × Content))
    (rest : List (Option String × Tree)) :
    Tree.clauseMembers depth true kind? read (Data.memberTrees members ++ rest) =
      Tree.clauseMembers depth true kind? ((Data.memberContents members).reverse ++ read) rest := by
  induction members generalizing read with
  | nil => rfl
  | cons member members ih =>
      obtain ⟨other, more⟩ := List.forall_mem_cons.mp others
      obtain ⟨flat, flatMore⟩ := List.forall_mem_cons.mp shallow
      rw [Data.memberTrees, List.cons_append, Tree.clauseMembers_member depth true kind? read _ _
        other (member.2.content?_tree flat), ih more flatMore, Data.memberContents,
        List.reverse_cons, List.append_assoc, List.singleton_append]

open Yaml in
/-- Members other than the kind are read in YAML. -/
theorem clauseMembers_memberLinks (source : Source) (place : Decoding.Place)
    (kind? : Option ClauseKind) (read : List (Content × Content)) (rest : List (Linked × Linked)) :
    source.clauseMembers depth place kind? read (Data.memberLinks members ++ rest) =
      source.clauseMembers depth place kind? ((Data.memberContents members).reverse ++ read)
        rest := by
  induction members generalizing read with
  | nil => rfl
  | cons member members ih =>
      obtain ⟨other, more⟩ := List.forall_mem_cons.mp others
      obtain ⟨flat, flatMore⟩ := List.forall_mem_cons.mp shallow
      have ordinary : Source.namesKind (.text member.1.text) = false := beq_eq_false_iff_ne.mpr other
      rw [Data.memberLinks, List.cons_append, Source.clauseMembers, Source.content_quoted, pure_bind,
        ordinary, if_neg Bool.false_ne_true, member.2.content_linked source flat, pure_bind,
        ih more flatMore, Data.memberContents, List.reverse_cons, List.append_assoc,
        List.singleton_append]

end Members

section Clauses

variable {clause : Clause} {members : List (Name × Data)} (written : WritesClause clause members)

include written

open Json in
/-- A clause is read from its tree. -/
theorem clause_tree (depth : Nat) :
    (Data.record members).tree.clause (depth + 2) = .ok clause := by
  obtain ⟨before, after, rfl, split⟩ := written.exists_splits
  obtain ⟨others, othersAfter⟩ := List.forall_mem_append.mp split.others
  obtain ⟨shallow, shallowAfter⟩ := List.forall_mem_append.mp (split.depth_le depth)
  have kind : (Data.text (kindText clause.kind)).tree.kind = .ok clause.kind := by
    change judged (Decoding.kindOfText clause.kind.name) = _
    rw [Decoding.kindOfText, ClauseKind.ofName?_name]
    rfl
  have read : Tree.clauseMembers (depth + 1) true none []
      (Data.memberTrees (before ++ (kindName, .text (kindText clause.kind)) :: after)) =
      .ok (clause.kind, Data.memberContents before ++ Data.memberContents after) := by
    have rows : Data.memberTrees (before ++ (kindName, .text (kindText clause.kind)) :: after) =
        Data.memberTrees before ++ (some Decoding.kindMember, (Data.text (kindText clause.kind)).tree)
          :: (Data.memberTrees after ++ []) := by
      rw [Data.memberTrees_append, List.append_nil]
      rfl
    rw [rows, clauseMembers_memberTrees others shallow, Tree.clauseMembers_kind, kind]
    change Tree.clauseMembers (depth + 1) true (some clause.kind) _ _ = _
    rw [clauseMembers_memberTrees othersAfter shallowAfter]
    simp [Tree.clauseMembers]
  change (Tree.clauseMembers (depth + 1) true none [] (Data.memberTrees _) >>= fun read =>
    judged (Decoding.clauseOfKeyed read.1 read.2)) = _
  rw [read]
  change judged (Decoding.clauseOfKeyed clause.kind _) = _
  rw [split.clauseOfKeyed]
  rfl

open Yaml in
/-- A clause is read from its node. -/
theorem clause_linked (source : Source) (list place : Decoding.Place) (depth : Nat) :
    source.clause list (depth + 2) place (Data.record members).linked = pure clause := by
  obtain ⟨before, after, rfl, split⟩ := written.exists_splits
  obtain ⟨others, othersAfter⟩ := List.forall_mem_append.mp split.others
  obtain ⟨shallow, shallowAfter⟩ := List.forall_mem_append.mp (split.depth_le depth)
  have read : source.clauseMembers (depth + 1) place none []
      (Data.memberLinks (before ++ (kindName, .text (kindText clause.kind)) :: after)) =
      pure (clause.kind, Data.memberContents before ++ Data.memberContents after) := by
    have rows : Data.memberLinks (before ++ (kindName, .text (kindText clause.kind)) :: after) =
        Data.memberLinks before ++ (.scalar none none Decoding.kindMember false,
          .scalar none none clause.kind.name false) :: (Data.memberLinks after ++ []) := by
      rw [Data.memberLinks_append, List.append_nil]
      rfl
    rw [rows, clauseMembers_memberLinks others shallow, Source.clauseMembers_kind,
      clauseMembers_memberLinks othersAfter shallowAfter]
    simp [Source.clauseMembers]
  rw [Data.linked, Source.clause_mapping, read, pure_bind, split.clauseOfKeyed]
  rfl

end Clauses

section Documents

variable {clauses : List Clause} {items : List (List (Name × Data))}
  (written : List.Forall₂ WritesClause clauses items)

include written

open Json in
/-- The clauses of a list are read from their trees. -/
theorem clausesOf_trees (depth : Nat) :
    Tree.clausesOf (depth + 2) (Data.trees (items.map .record)) = .ok clauses := by
  induction written with
  | nil => rfl
  | cons first _ ih =>
      rw [List.map_cons, Data.trees, Tree.clausesOf, clause_tree first, ih]
      rfl

open Yaml in
/-- The clauses of a list are read from their nodes. -/
theorem readItems_clause_links (source : Source) (place : Decoding.Place) (depth index : Nat) :
    Source.readItems (source.clause place (depth + 2)) place index
      (Data.links (items.map .record)) = pure clauses := by
  induction written generalizing index with
  | nil => rfl
  | cons first _ ih =>
      rw [List.map_cons, Data.links, Source.readItems, clause_linked first, pure_bind, ih,
        pure_bind]

/-- The document is decoded from JSON. -/
theorem decodeDocument_json : Json.decodeDocument (documentRecord items).compact = .ok ⟨clauses⟩ := by
  have read := clausesOf_trees written 123
  have decoded := Json.decode_of_writes (documentRecord items).writes Json.Tree.document
  have list : (Data.list (items.map .record)).tree.clauses (Json.depthLimit - 1) = .ok clauses := by
    change (Json.Tree.clausesOf 125 (Data.trees _)).mapError _ >>= _ = _
    rw [read]
    rfl
  rw [Json.decodeDocument, decoded]
  change ((Data.list (items.map .record)).tree.clauses (Json.depthLimit - 1) >>= fun clauses =>
    Json.Tree.documentMembers true (some clauses) []) = _
  rw [list]
  rfl

/-- The document is decoded from YAML. -/
theorem decodeDocument_yaml : Yaml.decodeDocument (documentRecord items).compact = .ok ⟨clauses⟩ := by
  have read (place : Decoding.Place) := readItems_clause_links written
    (.ofLinked (documentRecord items).linked) place 124 0
  have document : (Yaml.Source.ofLinked (documentRecord items).linked).document =
      pure ⟨clauses⟩ := by
    change (Yaml.Source.readItems (Yaml.Source.clause _ _ 126) _ 0 (Data.links _) >>= fun clauses =>
      pure (⟨clauses⟩ : Document)) = _
    rw [read]
    rfl
  rw [Yaml.decodeDocument, Yaml.decode, documentRecord, Data.read?_record]
  change ((Yaml.Source.ofLinked (documentRecord items).linked).document.run _).map Prod.fst = _
  rw [document]
  rfl

end Documents

/-- A document whose fields and texts are printable, and whose numbers are integers, has a text in
the common notation. Every such text is decoded to the document, as JSON and as YAML alike. -/
theorem document_compact {document : Document}
    (writable : ∀ clause ∈ document.clauses, IsWritable clause) :
    (∃ items, List.Forall₂ WritesClause document.clauses items) ∧
      ∀ items, List.Forall₂ WritesClause document.clauses items → ∀ markup : Decoding.Markup,
        markup.document (String.ofList (documentRecord items).compact) = .ok document := by
  refine ⟨exists_forall₂ fun clause inside => (writable clause inside).exists_writesClause, ?_⟩
  intro items written markup
  cases markup with
  | json =>
      change Decoding.Markup.report .json (Json.decodeDocument (String.ofList _).toList) = _
      rw [String.toList_ofList, decodeDocument_json written]
      rfl
  | yaml =>
      change Decoding.Markup.report .yaml (Yaml.decodeDocument (String.ofList _).toList) = _
      rw [String.toList_ofList, decodeDocument_yaml written]
      rfl

/-- Two clauses with members in two orders, and with an operator that is spelled in letters. -/
def twoClauses : String :=
  "\x7b\"conditions\":[\x7b\"operator\":\"LTE\",\"value\":-5,\"kind\":\"where\"," ++
    "\"attribute\":\"a\\\"b\"\x7d,\x7b\"values\":[\"~\",true,null],\"kind\":\"where_in\"," ++
    "\"attribute\":\"\"\x7d]\x7d"

theorem document_compact_two_clauses :
    let document : Document := ⟨[.comparison "a\"b" .atMost (.number (.int (-5))),
      .anyOf "" [.text "~", .boolean true, .absent]]⟩
    Decoding.Markup.json.document twoClauses = .ok document ∧
      Decoding.Markup.yaml.document twoClauses = .ok document := by
  intro document
  have writable : ∀ clause ∈ document.clauses, IsWritable clause :=
    List.forall_mem_cons.mpr ⟨⟨by decide, List.all_eq_true.mp (by decide)⟩,
      List.forall_mem_singleton.mpr ⟨by decide, List.all_eq_true.mp (by decide)⟩⟩
  have first : WritesClause (.comparison "a\"b" .atMost (.number (.int (-5)))) _ :=
    ⟨_, .comparison ⟨"a\"b", by decide⟩ ⟨"LTE", by decide⟩ (by decide) (.present (.integer (-5))),
      @List.perm_append_comm _ [_, _] [_, _]⟩
  have second : WritesClause (.anyOf "" [.text "~", .boolean true, .absent]) _ :=
    ⟨_, .anyOf ⟨"", by decide⟩ (.cons (.text ⟨"~", by decide⟩)
      (.cons (.boolean true) (.cons .absent .nil))),
      @List.perm_append_comm _ [_] [_, _]⟩
  have decoded (markup : Decoding.Markup) : markup.document twoClauses = .ok document :=
    Eq.trans (congrArg markup.document (by decide +kernel))
      ((document_compact writable).2 _ (.cons first (.cons second .nil)) markup)
  exact ⟨decoded .json, decoded .yaml⟩

end FilterQuery.Compact
