import FilterQuery.Json.Tree
import FilterQuery.Decoding.Content

namespace FilterQuery.Json

open Decoding (Content Found)

namespace Tree

mutual

/-- Every part of the value is well-formed. -/
def isSound : Tree → Bool
  | .array items closed => closed && allSound items
  | .object members closed => closed && allMembersSound members
  | .broken => false
  | _ => true

def allSound : List Tree → Bool
  | [] => true
  | item :: rest => item.isSound && allSound rest

def allMembersSound : List (Option String × Tree) → Bool
  | [] => true
  | (_, value) :: rest => value.isSound && allMembersSound rest

end

mutual

/-- The content of a value that is nested at most to a depth. -/
def content? : Nat → Tree → Option Content
  | _, .null => some .null
  | _, .boolean value => some (.boolean value)
  | _, .number numeral => numeral.content?
  | _, .text content => content.map .text
  | 0, .array .. => none
  | depth + 1, .array items closed =>
      if closed then (contents? depth items).map .sequence else none
  | 0, .object .. => none
  | depth + 1, .object members closed =>
      if closed then (memberContents? depth members).map .mapping else none
  | _, .broken => none

def contents? : Nat → List Tree → Option (List Content)
  | _, [] => some []
  | depth, item :: rest => do
      let content ← content? depth item
      let contents ← contents? depth rest
      some (content :: contents)

def memberContents? : Nat → List (Option String × Tree) → Option (List (Content × Content))
  | _, [] => some []
  | depth, (key, value) :: rest => do
      let name ← key
      let content ← content? depth value
      let contents ← memberContents? depth rest
      some ((.text name, content) :: contents)

end

/-- What a reader finds at the value, judged by the value's first character where it is an array
or an object. -/
def found? : Tree → Option Found
  | .null => some .null
  | .boolean value => some (.boolean value)
  | .number numeral => numeral.content?.map Content.found
  | .text content => content.map .text
  | .array .. => some .sequence
  | .object .. => some .mapping
  | .broken => none

end Tree

end FilterQuery.Json
