import FilterQuery.Json.Numeral
import FilterQuery.Json.Literal

/-!
Trees of JSON texts. A text that is not well-formed has a tree as well: it ends at the place where
the text goes wrong, so what was written before that place can be judged first.
-/

namespace FilterQuery.Json

/-- A JSON value as written. An unfinished array or object is not closed, and `broken` stands where
a value went wrong. The text `none` escapes a surrogate without its partner. -/
inductive Tree where
  | null
  | boolean (value : Bool)
  | number (numeral : Numeral)
  | text (content : Option String)
  | array (items : List Tree) (closed : Bool)
  | object (members : List (Option String × Tree)) (closed : Bool)
  | broken

namespace Tree

def isComplete : Tree → Bool
  | .array _ closed => closed
  | .object _ closed => closed
  | .broken => false
  | _ => true

def isSpace (c : Char) : Bool := c == ' ' || c == '\t' || c == '\n' || c == '\r'

def skipSpace (input : List Char) : List Char := input.dropWhile isSpace

/-- The text of a quoted text behind its opening quote, and what follows the closing one. -/
def takeText? (input : List Char) : Option (Option String × List Char) :=
  (pieces? input).map fun (pieces, rest) => ((joined? pieces).map String.ofList, rest)

mutual

/-- The value at the start of a text, and the text behind it. -/
def take : Nat → List Char → Tree × List Char
  | 0, _ => (.broken, [])
  | fuel + 1, input =>
      match skipSpace input with
      | 'n' :: 'u' :: 'l' :: 'l' :: rest => (.null, rest)
      | 't' :: 'r' :: 'u' :: 'e' :: rest => (.boolean true, rest)
      | 'f' :: 'a' :: 'l' :: 's' :: 'e' :: rest => (.boolean false, rest)
      | '\x22' :: rest =>
          match takeText? rest with
          | some (content, rest) => (.text content, rest)
          | none => (.broken, [])
      | '[' :: rest =>
          match skipSpace rest with
          | ']' :: rest => (.array [] true, rest)
          | rest =>
              let (items, closed, rest) := takeItems fuel rest
              (.array items closed, rest)
      | '\x7b' :: rest =>
          match skipSpace rest with
          | '\x7d' :: rest => (.object [] true, rest)
          | rest =>
              let (members, closed, rest) := takeMembers fuel rest
              (.object members closed, rest)
      | rest =>
          match Numeral.take? rest with
          | some (numeral, rest) => (.number numeral, rest)
          | none => (.broken, [])

/-- The items of an array from the next one on, whether it is closed, and the text behind it. -/
def takeItems : Nat → List Char → List Tree × Bool × List Char
  | 0, _ => ([], false, [])
  | fuel + 1, input =>
      let (item, rest) := take fuel input
      if item.isComplete then
        match skipSpace rest with
        | ',' :: rest =>
            let (items, closed, rest) := takeItems fuel rest
            (item :: items, closed, rest)
        | ']' :: rest => ([item], true, rest)
        | _ => ([item], false, [])
      else ([item], false, [])

/-- The members of an object from the next one on, whether it is closed, and the text behind it. -/
def takeMembers : Nat → List Char → List (Option String × Tree) × Bool × List Char
  | 0, _ => ([], false, [])
  | fuel + 1, input =>
      match skipSpace input with
      | '\x22' :: rest =>
          match takeText? rest with
          | none => ([], false, [])
          | some (key, rest) =>
              match skipSpace rest with
              | ':' :: rest =>
                  let (value, rest) := take fuel rest
                  if value.isComplete then
                    match skipSpace rest with
                    | ',' :: rest =>
                        let (members, closed, rest) := takeMembers fuel rest
                        ((key, value) :: members, closed, rest)
                    | '\x7d' :: rest => ([(key, value)], true, rest)
                    | _ => ([(key, value)], false, [])
                  else ([(key, value)], false, [])
              | _ => ([(key, .broken)], false, [])
      | _ => ([], false, [])

end

/-- The tree of a text, and whether only blanks follow it. -/
def read (input : List Char) : Tree × Bool :=
  let (tree, rest) := take (2 * input.length + 2) input
  (tree, (skipSpace rest).isEmpty)

end Tree

end FilterQuery.Json
