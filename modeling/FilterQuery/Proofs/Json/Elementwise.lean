import FilterQuery.Decoding.Message
import FilterQuery.Proofs.Compact.Json
import FilterQuery.Proofs.Json.Grammar
import FilterQuery.Proofs.Json.Readable
import FilterQuery.Proofs.Outcome

/-!
Documents in JSON, clause by clause. The main statement says that a document is decoded from its
list of clauses, each of which is decoded as if it stood alone, or else the first clause that cannot
be decoded is reported.
-/

namespace FilterQuery

namespace Json

open Decoding (Fault Error)

namespace Tree

mutual

/-- What is written is well-formed throughout. -/
theorem Written.isSound : {tree : Tree} → {text : List Char} → Written tree text →
    tree.isSound = true
  | _, _, .null => rfl
  | _, _, .yes => rfl
  | _, _, .no => rfl
  | _, _, .number _ _ => rfl
  | _, _, .text _ => rfl
  | _, _, .emptyArray _ => rfl
  | _, _, .array _ written _ => written.allSound
  | _, _, .emptyObject _ => rfl
  | _, _, .object _ written _ => written.allMembersSound

theorem WrittenItems.allSound : {items : List Tree} → {text : List Char} →
    WrittenItems items text → Tree.allSound items = true
  | _, _, .last written => by rw [Tree.allSound, written.isSound]; rfl
  | _, _, .more written _ others => by rw [Tree.allSound, written.isSound, others.allSound]; rfl

theorem WrittenMembers.allMembersSound : {members : List (Option String × Tree)} →
    {text : List Char} → WrittenMembers members text → Tree.allMembersSound members = true
  | _, _, .last _ _ written => by rw [Tree.allMembersSound, written.isSound]; rfl
  | _, _, .more _ _ written _ others => by
      rw [Tree.allMembersSound, written.isSound, others.allMembersSound]
      rfl

end

/-- The values of a written object are well-formed. -/
theorem Writes.forall_isSound {members : List (Option String × Tree)} {closed : Bool}
    {input : List Char} (writes : Writes (.object members closed) input) :
    ∀ member ∈ members, member.2.isSound = true := by
  obtain ⟨before, text, behind, -, written, -, -⟩ := writes
  have sound := written.isSound
  rw [isSound, Bool.and_eq_true] at sound
  have all : ∀ members, allMembersSound members = true →
      ∀ member ∈ members, member.2.isSound = true := by
    intro members
    induction members with
    | nil => exact fun _ => List.forall_mem_nil _
    | cons member members ih =>
        intro sound
        rw [allMembersSound, Bool.and_eq_true] at sound
        exact List.forall_mem_cons.mpr ⟨sound.1, ih sound.2⟩
  exact all members sound.2

/-- A member of a document that is not its list of clauses. -/
def IsOther (member : Option String × Tree) : Prop :=
  ∃ name, member.1 = some name ∧ name ≠ Decoding.clausesMember

section Document

variable {members : List (Option String × Tree)} (others : ∀ member ∈ members, IsOther member)
  (sound : ∀ member ∈ members, member.2.isSound = true)

include others sound

/-- Members of other names are skipped. -/
theorem documentMembers_append (read : Option (List Clause))
    (rest : List (Option String × Tree)) :
    documentMembers true read (members ++ rest) = documentMembers true read rest := by
  induction members with
  | nil => rfl
  | cons member members ih =>
      obtain ⟨key, value⟩ := member
      obtain ⟨⟨name, rfl, other⟩, more⟩ := List.forall_mem_cons.mp others
      obtain ⟨first, soundMore⟩ := List.forall_mem_cons.mp sound
      have otherwise : (name == Decoding.clausesMember) = false := beq_eq_false_iff_ne.mpr other
      rw [List.cons_append, ← ih more soundMore]
      simp [documentMembers, demand, otherwise, first, bind, Except.bind]

/-- A document without any more clauses ends with those read before. -/
theorem documentMembers_some (clauses : List Clause) :
    documentMembers true (some clauses) members = .ok ⟨clauses⟩ := by
  have skipped := documentMembers_append others sound (some clauses) []
  rw [List.append_nil] at skipped
  rw [skipped]
  rfl

end Document

/-- The depth up to which the clauses of a document may be nested. -/
def itemDepth : Nat := depthLimit - 2

/-- Clauses in a row are read one by one. -/
theorem clausesOf_eq_mapM (depth : Nat) (items : List Tree) :
    clausesOf depth items = items.mapM (clause depth) := by
  induction items with
  | nil => rfl
  | cons item items ih =>
      rw [List.mapM_cons, clausesOf, ih]
      rfl

/-- A clause in a document is read as if it stood alone; no other error than a fault is found. -/
theorem exists_judged {item : Tree} {text : List Char} (writes : Writes item text)
    (readable : item.Readable itemDepth) :
    ∃ outcome, item.clause itemDepth = judged outcome ∧ decodeClause text = judged outcome := by
  obtain ⟨outcome, found⟩ := readable.exists_clause
  have decoded := decode_of_writes writes (clause depthLimit)
  exact ⟨outcome, found itemDepth (Nat.le_refl _), decoded.trans (found depthLimit (by decide))⟩

section Items

variable {items : List Tree} {texts : List (List Char)} (alone : List.Forall₂ Writes items texts)
  (readable : ∀ item ∈ items, item.Readable itemDepth)

include alone readable

theorem clausesOf_eq : clausesOf itemDepth items = texts.mapM decodeClause := by
  rw [clausesOf_eq_mapM]
  induction alone with
  | nil => rfl
  | cons writes _ ih =>
      obtain ⟨first, others⟩ := List.forall_mem_cons.mp readable
      obtain ⟨outcome, inside, decoded⟩ := exists_judged writes first
      rw [List.mapM_cons, List.mapM_cons, inside, decoded, ih others]

/-- A list of clauses is read clause by clause. -/
theorem clauses_array :
    (array items true).clauses (depthLimit - 1) =
      (texts.mapM decodeClause).mapError (Error.locate listPlace) := by
  change (array items true).clauses (itemDepth + 1) = _
  rw [clauses, clausesOf_eq alone readable]
  cases texts.mapM decodeClause <;> rfl

/-- An error in a clause is a fault of the clause. -/
theorem exists_fault {text : List Char} (member : text ∈ texts) {error : Error}
    (failed : decodeClause text = .error error) : ∃ cause, error = .fault .whole cause := by
  induction alone with
  | nil => cases member
  | cons writes _ ih =>
      obtain ⟨first, others⟩ := List.forall_mem_cons.mp readable
      cases member with
      | tail _ member => exact ih others member
      | head =>
          obtain ⟨outcome, -, decoded⟩ := exists_judged writes first
          rw [decoded] at failed
          cases outcome with
          | ok clause => cases failed
          | error cause => exact ⟨cause, (Except.error.inj failed).symm⟩

end Items

end Tree

section Documents

variable {items : List Tree} {texts : List (List Char)}
  (alone : List.Forall₂ Tree.Writes items texts)
  (readable : ∀ item ∈ items, item.Readable Tree.itemDepth)

include alone readable

/-- An object with a list of clauses is decoded clause by clause. -/
theorem decodeDocument_object {before after : List (Option String × Tree)} {text : List Char}
    (written : Tree.Writes (.object
      (before ++ (some Decoding.clausesMember, .array items true) :: after) true) text)
    (others : ∀ member ∈ before ++ after, Tree.IsOther member) :
    decodeDocument text =
      ((texts.mapM decodeClause).mapError (Error.locate Tree.listPlace)).map Document.mk := by
  have sound := written.forall_isSound
  have soundBefore := fun member inside => sound member (List.mem_append_left _ inside)
  have soundAfter := fun member inside =>
    sound member (List.mem_append_right _ (List.mem_cons_of_mem _ inside))
  have othersBefore := fun member inside => others member (List.mem_append_left _ inside)
  have othersAfter := fun member inside => others member (List.mem_append_right _ inside)
  have list (rest : List (Option String × Tree)) :
      Tree.documentMembers true none ((some Decoding.clausesMember, .array items true) :: rest) =
        (Tree.clauses (depthLimit - 1) (.array items true) >>= fun clauses =>
          Tree.documentMembers true (some clauses) rest) := rfl
  have decoded : decodeDocument text = Tree.documentMembers true none
      (before ++ (some Decoding.clausesMember, .array items true) :: after) :=
    decode_of_writes written Tree.document
  rw [decoded, Tree.documentMembers_append othersBefore soundBefore, list,
    Tree.clauses_array alone readable]
  cases texts.mapM decodeClause with
  | error cause => rfl
  | ok clauses => exact Tree.documentMembers_some othersAfter soundAfter clauses

/-- An array with a list of clauses in it is decoded in the same way. -/
theorem decodeDocument_array {text : List Char}
    (written : Tree.Writes (.array [.array items true] true) text) :
    decodeDocument text =
      ((texts.mapM decodeClause).mapError (Error.locate Tree.listPlace)).map Document.mk := by
  have decoded : decodeDocument text = (Tree.clauses (depthLimit - 1) (.array items true) >>=
      fun clauses => .ok ⟨clauses⟩) := decode_of_writes written Tree.document
  rw [decoded, Tree.clauses_array alone readable]
  cases texts.mapM decodeClause <;> rfl

end Documents

/-- A document has the clauses of its list. -/
theorem map_mk_eq_ok_iff {outcome : Except Error (List Clause)} {document : Document} :
    (outcome.mapError (Error.locate Tree.listPlace)).map Document.mk = .ok document ↔
      outcome = .ok document.clauses := by
  cases outcome with
  | error cause => simp [Except.mapError, Except.map]
  | ok clauses =>
      obtain ⟨others⟩ := document
      simp [Except.mapError, Except.map]

/-- A document is decoded exactly if all values in its list can be decoded alone as clauses, and
then has these clauses in this order. Otherwise it fails with the fault of the first value that
cannot be decoded, and says the same of it as if this value stood alone, wherever readers stand. -/
theorem decodeDocument_elementwise {before after : List (Option String × Tree)}
    {items : List Tree} {texts : List (List Char)} {text sequence : List Char}
    (written : Tree.Writes (.object
      (before ++ (some Decoding.clausesMember, .array items true) :: after) true) text)
    (others : ∀ member ∈ before ++ after, Tree.IsOther member)
    (writtenSequence : Tree.Writes (.array [.array items true] true) sequence)
    (alone : List.Forall₂ Tree.Writes items texts)
    (readable : ∀ item ∈ items, item.Readable Tree.itemDepth) :
    (∀ document, decodeDocument text = .ok document ↔
      List.Forall₂ (fun text clause => decodeClause text = .ok clause) texts document.clauses) ∧
    (∀ document, decodeDocument sequence = .ok document ↔
      List.Forall₂ (fun text clause => decodeClause text = .ok clause) texts document.clauses) ∧
    ((∀ document, decodeDocument text ≠ .ok document) →
      ∃ earlier wrong later cause, texts = earlier ++ wrong :: later ∧
        (∀ text ∈ earlier, ∃ clause, decodeClause text = .ok clause) ∧
        decodeClause wrong = .error (.fault .whole cause) ∧
        decodeDocument text = .error (.fault Tree.listPlace cause) ∧
        ∀ inside alone, ((Error.fault Tree.listPlace cause).notice .json inside).text =
          ((Error.fault .whole cause).notice .json alone).text) := by
  have object := decodeDocument_object alone readable written others
  have array := decodeDocument_array alone readable writtenSequence
  refine ⟨fun document => ?_, fun document => ?_, fun failed => ?_⟩
  · rw [object, map_mk_eq_ok_iff, mapM_eq_ok_iff]
  · rw [array, map_mk_eq_ok_iff, mapM_eq_ok_iff]
  · cases decoded : texts.mapM decodeClause with
    | ok clauses => exact absurd (by rw [object, decoded]; rfl) (failed ⟨clauses⟩)
    | error error =>
        obtain ⟨earlier, wrong, later, split, correct, found⟩ := exists_of_mapM_eq_error decoded
        obtain ⟨cause, rfl⟩ := Tree.exists_fault alone readable (by simp [split]) found
        refine ⟨earlier, wrong, later, cause, split, correct, found, ?_, fun _ _ => rfl⟩
        rw [object, decoded]
        rfl

open FilterQuery.Compact in
/-- Two clauses, in a document with other members around its list and in an array. -/
theorem decodeDocument_elementwise_two_clauses :
    decodeDocument ("\x7b\"note\":\x7b\x7d,\"conditions\":[\x7b\"kind\":\"where\",\"attribute\":\"a\"\x7d," ++
        "[\"where_in\",\"b\",[1]]],\"last\":[]\x7d").toList =
      .ok ⟨[.comparison "a" .equal .absent, .anyOf "b" [.number (.int 1)]]⟩ ∧
    decodeDocument ("[[\x7b\"kind\":\"where\",\"attribute\":\"a\"\x7d," ++
        "[\"where_in\",\"b\",[1]]]]").toList =
      .ok ⟨[.comparison "a" .equal .absent, .anyOf "b" [.number (.int 1)]]⟩ := by
  let first := Data.record [(⟨⟨"kind", by decide⟩, by decide⟩, .text ⟨"where", by decide⟩),
    (⟨⟨"attribute", by decide⟩, by decide⟩, .text ⟨"a", by decide⟩)]
  let second := Data.list [.text ⟨"where_in", by decide⟩, .text ⟨"b", by decide⟩, .list [.integer 1]]
  let note : Name × Data := (⟨⟨"note", by decide⟩, by decide⟩, .record [])
  let list : Name × Data := (⟨⟨"conditions", by decide⟩, by decide⟩, .list [first, second])
  let last : Name × Data := (⟨⟨"last", by decide⟩, by decide⟩, .list [])
  have others : ∀ member ∈ Data.memberTrees [note] ++ Data.memberTrees [last], Tree.IsOther member :=
    List.forall_mem_cons.mpr ⟨⟨_, rfl, by decide⟩,
      List.forall_mem_singleton.mpr ⟨_, rfl, by decide⟩⟩
  have written : Tree.Writes (.object (Data.memberTrees [note] ++ (some Decoding.clausesMember,
      .array (Data.trees [first, second]) true) :: Data.memberTrees [last]) true)
      (Data.record [note, list, last]).compact := (Data.record [note, list, last]).writes
  obtain ⟨object, array, -⟩ := decodeDocument_elementwise written others
    (Data.list [.list [first, second]]).writes (.cons first.writes (.cons second.writes .nil))
    (Data.readable_of_mem_trees [first, second] (by decide))
  have clauses : List.Forall₂ (fun text clause => decodeClause text = .ok clause)
      [first.compact, second.compact]
      [.comparison "a" .equal .absent, .anyOf "b" [.number (.int 1)]] :=
    .cons (by decide +kernel) (.cons (by decide +kernel) .nil)
  exact ⟨(object ⟨_⟩).mpr clauses, (array ⟨_⟩).mpr clauses⟩

/-- A spelling that ends in a position beyond 64 bits is shown whole, alone and in a document. -/
example :
    (decodeClause ("\x7b\"kind\":\"where\",\"attribute\":\"a\",\"operator\":" ++
        "\"x at line 18446744073709551616 column 1\"\x7d").toList).mapError
      (fun cause => cause.notice .json none) =
        .error ⟨"Unknown operator: x at line 18446744073709551616 column 1", none⟩ ∧
    (decodeDocument ("\x7b\"conditions\":[\x7b\"kind\":\"where\",\"attribute\":\"a\"," ++
        "\"operator\":\"x at line 18446744073709551616 column 1\"\x7d]\x7d").toList).mapError
      (fun cause => cause.notice .json (some ⟨1, 101⟩)) =
        .error ⟨"Unknown operator: x at line 18446744073709551616 column 1", some ⟨1, 101⟩⟩ := by
  decide +kernel

end Json

end FilterQuery
