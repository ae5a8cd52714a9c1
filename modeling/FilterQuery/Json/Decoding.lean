import FilterQuery.Json.Content
import FilterQuery.Decoding.Members

/-!
Decoding of JSON texts. Faults are judged in the order of the text: a fault that lies before the
place where the text goes wrong is reported as a fault. Arrays and objects may be nested to a
limited depth, except where their content is skipped.
-/

namespace FilterQuery.Json

open Decoding (Content Fault Expected Place Error)

/-- The depth up to which arrays and objects may be nested. -/
def depthLimit : Nat := 127

/-- A fault. It is one of the whole, unless it lies in the list of clauses of a document. -/
def faulty {α : Type} (cause : Fault) : Except Error α := .error (.fault .whole cause)

/-- Passes the fault of a reader of contents on. -/
def judged {α : Type} : Except Fault α → Except Error α
  | .ok value => .ok value
  | .error cause => faulty cause

namespace Tree

/-- Refuses a value that is not of the expected type. -/
def refuse {α : Type} (tree : Tree) (expected : Expected) : Except Error α :=
  match tree.found? with
  | some found => faulty (.wrongType found expected)
  | none => .error .malformed

/-- Demands that something is well-formed. -/
def demand {α : Type} : Option α → Except Error α
  | some value => .ok value
  | none => .error .malformed

def kind : Tree → Except Error ClauseKind
  | .text (some name) => judged (Decoding.kindOfText name)
  | tree => tree.refuse .kindName

/-- Reads the kind of a clause and the contents of the other members, in the order of the text. -/
def clauseMembers (depth : Nat) (closed : Bool) (kind? : Option ClauseKind)
    (read : List (Content × Content)) :
    List (Option String × Tree) → Except Error (ClauseKind × List (Content × Content))
  | [] => do
      if closed then
        match kind? with
        | some kind => .ok (kind, read.reverse)
        | none => faulty (.missing Decoding.kindMember)
      else .error .malformed
  | (key, value) :: rest => do
      let name ← demand key
      if name == Decoding.kindMember then
        if kind?.isSome then faulty (.repeated Decoding.kindMember)
        else clauseMembers depth closed (some (← value.kind)) read rest
      else
        let content ← demand (value.content? depth)
        clauseMembers depth closed kind? ((.text name, content) :: read) rest

/-- Reads a clause: an object with a kind, or an array that starts with a kind. -/
def clause : Nat → Tree → Except Error Clause
  | 0, .array .. => .error .malformed
  | 0, .object .. => .error .malformed
  | depth + 1, .array items closed =>
      match items with
      | [] => if closed then faulty (.missing Decoding.kindMember) else .error .malformed
      | first :: rest => do
          let kind ← first.kind
          let contents ← demand (contents? depth rest)
          if closed then judged (Decoding.clauseOfListed kind contents) else .error .malformed
  | depth + 1, .object members closed => do
      let (kind, contents) ← clauseMembers depth closed none [] members
      judged (Decoding.clauseOfKeyed kind contents)
  | _, tree => tree.refuse .clause

/-- Reads clauses in order, up to the first error. -/
def clausesOf (depth : Nat) : List Tree → Except Error (List Clause)
  | [] => .ok []
  | item :: rest => do
      let clause ← item.clause depth
      let clauses ← clausesOf depth rest
      .ok (clause :: clauses)

/-- The place of the list of clauses in a document. -/
def listPlace : Place := .member .whole Decoding.clausesMember

def clauses : Nat → Tree → Except Error (List Clause)
  | 0, .array .. => .error .malformed
  | depth + 1, .array items closed => do
      let clauses ← (clausesOf depth items).mapError (Error.locate listPlace)
      if closed then .ok clauses else .error .malformed
  | _, tree => tree.refuse .sequence

/-- Reads the members of a document; members of other names are skipped. -/
def documentMembers (closed : Bool) (read : Option (List Clause)) :
    List (Option String × Tree) → Except Error Document
  | [] => if closed then .ok ⟨read.getD []⟩ else .error .malformed
  | (key, value) :: rest => do
      let name ← demand key
      if name == Decoding.clausesMember then
        if read.isSome then faulty (.repeated Decoding.clausesMember)
        else documentMembers closed (some (← value.clauses (depthLimit - 1))) rest
      else if value.isSound then documentMembers closed read rest
      else .error .malformed

/-- Reads a document: an object, or an array with at most the list of clauses in it. -/
def document : Tree → Except Error Document
  | .object members closed => documentMembers closed none members
  | .array [] closed => if closed then .ok ⟨[]⟩ else .error .malformed
  | .array (first :: rest) closed => do
      let clauses ← first.clauses (depthLimit - 1)
      if closed && rest.isEmpty then .ok ⟨clauses⟩ else .error .malformed
  | tree => tree.refuse .document

def value (tree : Tree) : Except Error Value := do
  judged (← demand (tree.content? depthLimit)).value?

def operator : Tree → Except Error Operator
  | .text (some spelling) => judged (Content.text spelling).operator?
  | tree => tree.refuse .text

end Tree

/-- Decodes a whole text: nothing but blanks may follow the value. -/
def decode {α : Type} (reader : Tree → Except Error α) (input : List Char) : Except Error α := do
  let (tree, finished) := Tree.read input
  let result ← reader tree
  if finished then .ok result else .error .malformed

def decodeValue : List Char → Except Error Value := decode Tree.value

def decodeOperator : List Char → Except Error Operator := decode Tree.operator

def decodeClause : List Char → Except Error Clause := decode (Tree.clause depthLimit)

def decodeDocument : List Char → Except Error Document := decode Tree.document

end FilterQuery.Json
