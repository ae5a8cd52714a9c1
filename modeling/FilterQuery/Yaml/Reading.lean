import FilterQuery.Yaml.Alias
import FilterQuery.Yaml.Atom
import FilterQuery.Decoding.Fault

namespace FilterQuery.Yaml

open Decoding (Content Fault Found Expected Place Error)

/-- Reading keeps count of how often aliases may still be followed. -/
abbrev Reading (α : Type) := StateT Nat (Except Error) α

namespace Reading

/-- Ends with a fault at a place. -/
def fault {α : Type} (place : Place) (cause : Fault) : Reading α :=
  fun _ => .error (.fault place cause)

/-- Passes a fault on, at a place. -/
def judge {α : Type} (place : Place) : Except Fault α → Reading α
  | .ok value => pure value
  | .error cause => fault place cause

/-- Follows an alias once more. -/
def follow : Reading Unit
  | 0 => .error (.fault .whole .tooManyAliases)
  | left + 1 => .ok ((), left)

end Reading

/-- The depth up to which sequences and mappings may be nested. -/
def depthLimit : Nat := 128

/-- Nodes below this depth are refused. -/
def tooDeep {α : Type} : Reading α := Reading.fault .whole .tooDeep

/-- The node has a tag of the application. Octets that are no text do not name one. -/
def hasOwnTag (tag : Option Tag) : Bool := tag.any fun tag => tag.isLocal && tag.isText

namespace Source

/-- The node itself, or the node that an alias stands for. -/
def resolve (source : Source) : Linked → Reading Linked
  | .alias slot => do
      Reading.follow
      match source.node? slot with
      | some node => pure node
      | none => fun _ => .error .malformed
  | node => pure node

/-- The place of a member: it is named by a key that is written as a scalar. -/
def memberPlace (place : Place) : Linked → Place
  | .scalar _ _ text _ => .member place text
  | _ => .unnamed place

/-- The content of a scalar. -/
def scalarContent (place : Place) (tag : Option Tag) (text : String) (plain : Bool) :
    Reading Content :=
  if hasOwnTag tag then Reading.fault place .unexpectedTag
  else Reading.judge place ((Atom.ofScalar tag text plain).bind Atom.content)

/-- Reads the items of a sequence in order. -/
def readItems {α : Type} (read : Place → Linked → Reading α) (place : Place) (index : Nat) :
    List Linked → Reading (List α)
  | [] => pure []
  | item :: rest => do
      let first ← read (.item place index) item
      let others ← readItems read place (index + 1) rest
      pure (first :: others)

/-- Reads the members of a mapping in order. A fault in a key has the place of the mapping. -/
def readMembers {α : Type} (read : Place → Linked → Reading α) (place : Place) :
    List (Linked × Linked) → Reading (List (α × α))
  | [] => pure []
  | (key, value) :: rest => do
      let name ← read place key
      let content ← read (memberPlace place key) value
      let others ← readMembers read place rest
      pure ((name, content) :: others)

/-- The content of a node that is nested at most to a depth. -/
def content (source : Source) : Nat → Place → Linked → Reading Content
  | 0, place, node => do
      match ← source.resolve node with
      | .scalar _ tag text plain => scalarContent place tag text plain
      | .sequence _ tag _ | .mapping _ tag _ =>
          if hasOwnTag tag then Reading.fault place .unexpectedTag else tooDeep
      | .alias _ => fun _ => .error .malformed
  | depth + 1, place, node => do
      match ← source.resolve node with
      | .scalar _ tag text plain => scalarContent place tag text plain
      | .sequence _ tag items =>
          if hasOwnTag tag then Reading.fault place .unexpectedTag
          else return .sequence (← readItems (source.content depth) place 0 items)
      | .mapping _ tag members =>
          if hasOwnTag tag then Reading.fault place .unexpectedTag
          else return .mapping (← readMembers (source.content depth) place members)
      | .alias _ => fun _ => .error .malformed

/-- Refuses a node that is not of the expected type. -/
def refuse {α : Type} (place : Place) (expected : Expected) : Linked → Reading α
  | .scalar _ tag text plain =>
      Reading.fault place <|
        match Atom.ofScalar tag text plain with
        | .ok atom => .wrongType atom.found expected
        | .error cause => cause
  | .sequence .. => Reading.fault place (.wrongType .sequence expected)
  | .mapping .. => Reading.fault place (.wrongType .mapping expected)
  | .alias _ => fun _ => .error .malformed

/-- The text of a scalar, whatever it denotes. -/
def text (source : Source) (place : Place) (expected : Expected) (node : Linked) :
    Reading String := do
  match ← source.resolve node with
  | .scalar _ _ text _ => pure text
  | node => refuse place expected node

end Source

end FilterQuery.Yaml
