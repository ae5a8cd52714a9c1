import FilterQuery.Yaml.Reading
import FilterQuery.Decoding.Members

/-!
Decoding of YAML texts. A text has to be well-formed as a whole before its data is judged. A fault
found in members that have been read already is reported with the place of the list that holds the
clause.
-/

namespace FilterQuery.Yaml

open Decoding (Content Place Error)

namespace Source

def kind (source : Source) (place : Place) (node : Linked) : Reading ClauseKind := do
  Reading.judge place (Decoding.kindOfText (← source.text place .kindName node))

/-- The key names the member that tells the kind of a clause. -/
def namesKind : Content → Bool
  | .text name => name == Decoding.kindMember
  | _ => false

/-- Reads the kind of a clause and the contents of its other members, in the order of the text. -/
def clauseMembers (source : Source) (depth : Nat) (place : Place) (kind? : Option ClauseKind)
    (read : List (Content × Content)) :
    List (Linked × Linked) → Reading (ClauseKind × List (Content × Content))
  | [] =>
      match kind? with
      | some kind => pure (kind, read.reverse)
      | none => Reading.fault place (.missing Decoding.kindMember)
  | (key, value) :: rest => do
      let name ← source.content depth place key
      if namesKind name then
        if kind?.isSome then Reading.fault place (.repeated Decoding.kindMember)
        else
          let kind ← source.kind (memberPlace place key) value
          source.clauseMembers depth place (some kind) read rest
      else
        let content ← source.content depth (memberPlace place key) value
        source.clauseMembers depth place kind? ((name, content) :: read) rest

/-- Reads a clause: a mapping with a kind, or a sequence that starts with a kind. The clause lies
in a list with a place of its own. -/
def clause (source : Source) (list : Place) (depth : Nat) (place : Place) (node : Linked) :
    Reading Clause := do
  match ← source.resolve node with
  | .scalar slot tag text plain =>
      if hasOwnTag tag then Reading.fault place (.wrongType .tagged .clause)
      else refuse place .clause (.scalar slot tag text plain)
  | .sequence _ tag items =>
      if hasOwnTag tag then Reading.fault place (.wrongType .tagged .clause)
      else
        match depth, items with
        | 0, _ => tooDeep
        | _ + 1, [] => Reading.fault place (.missing Decoding.kindMember)
        | depth + 1, first :: rest => do
            let kind ← source.kind (.item place 0) first
            let contents ← readItems (source.content depth) place 1 rest
            Reading.judge list (Decoding.clauseOfListed kind contents)
  | .mapping _ tag members =>
      if hasOwnTag tag then Reading.fault place (.wrongType .tagged .clause)
      else
        match depth with
        | 0 => tooDeep
        | depth + 1 => do
            let (kind, contents) ← source.clauseMembers depth place none [] members
            Reading.judge list (Decoding.clauseOfKeyed kind contents)
  | .alias _ => fun _ => .error .malformed

/-- The node is a scalar where nothing is written. -/
def isVoid : Linked → Bool
  | .scalar _ _ text plain => text.isEmpty && plain
  | _ => false

/-- Reads a list of clauses; where nothing is written the list is empty. -/
def clauses (source : Source) (depth : Nat) (place : Place) (node : Linked) :
    Reading (List Clause) := do
  match ← source.resolve node with
  | .sequence _ _ items =>
      match depth with
      | 0 => tooDeep
      | depth + 1 => readItems (source.clause place depth) place 0 items
  | node => if isVoid node then pure [] else refuse place .sequence node

/-- Reads the members of a document; members of other names are skipped. -/
def documentMembers (source : Source) (depth : Nat) (read : Option (List Clause)) :
    List (Linked × Linked) → Reading Document
  | [] => pure ⟨read.getD []⟩
  | (key, value) :: rest => do
      let name ← source.text .whole .fieldName key
      if name == Decoding.clausesMember then
        if read.isSome then Reading.fault .whole (.repeated Decoding.clausesMember)
        else
          let clauses ← source.clauses depth (memberPlace .whole key) value
          source.documentMembers depth (some clauses) rest
      else source.documentMembers depth read rest

/-- Reads a document: a mapping, or nothing at all. -/
def document (source : Source) : Reading Document :=
  match source.root with
  | none => pure ⟨[]⟩
  | some (.mapping _ _ members) => source.documentMembers (depthLimit - 1) none members
  | some node => if isVoid node then pure ⟨[]⟩ else refuse .whole .document node

/-- Reads a value; where nothing is written it is absent. -/
def value (source : Source) : Reading Value :=
  match source.root with
  | none => pure .absent
  | some node => do Reading.judge .whole (← source.content depthLimit .whole node).value?

def operator (source : Source) : Reading Operator :=
  match source.root with
  | none => Reading.fault .whole .endOfText
  | some node => do
      let spelling ← source.text .whole .text node
      Reading.judge .whole (Content.text spelling).operator?

def rootClause (source : Source) : Reading Clause :=
  match source.root with
  | none => Reading.fault .whole (.wrongType .nothing .clause)
  | some node => source.clause .whole depthLimit .whole node

end Source

def decode {α : Type} (reader : Source → Reading α) (text : List Char) : Except Error α :=
  match Source.read? text with
  | none => .error .malformed
  | some source => ((reader source).run source.aliasLimit).map Prod.fst

def decodeValue : List Char → Except Error Value := decode Source.value

def decodeOperator : List Char → Except Error Operator := decode Source.operator

def decodeClause : List Char → Except Error Clause := decode Source.rootClause

def decodeDocument : List Char → Except Error Document := decode Source.document

end FilterQuery.Yaml
