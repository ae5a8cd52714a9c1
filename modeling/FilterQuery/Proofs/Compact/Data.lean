import FilterQuery.Decimal.Layout
import FilterQuery.Decoding.Content
import FilterQuery.Yaml.Layout

/-!
The notation that JSON and YAML have in common: data on one line, without blanks between its parts,
with texts between double quotes. Texts hold printable characters of ASCII only, and integers have
64 bits, so both notations give the same meaning to what is written.
-/

namespace FilterQuery.Compact

/-- A character between double quotes. -/
def escaped (c : Char) : List Char := if c == '\x22' || c == '\x5c' then ['\x5c', c] else [c]

def quoted (text : String) : List Char := '\x22' :: (text.toList.flatMap escaped ++ ['\x22'])

def isPrintable (c : Char) : Bool := 0x20 ≤ c.toNat && c.toNat ≤ 0x7E

/-- A text of printable characters of ASCII. -/
structure Printable where
  text : String
  printable : text.toList.all isPrintable = true

/-- A name that is short enough to be a key in YAML. -/
structure Name extends Printable where
  short : (quoted text).length ≤ Yaml.Layout.keyLimit

/-- Data that both notations write in the same way. -/
inductive Data where
  | null
  | boolean (value : Bool)
  | integer (value : Int64)
  | text (content : Printable)
  | list (items : List Data)
  | record (members : List (Name × Data))

namespace Data

mutual

/-- The data in the common notation. -/
def compact : Data → List Char
  | null => ['n', 'u', 'l', 'l']
  | boolean true => ['t', 'r', 'u', 'e']
  | boolean false => ['f', 'a', 'l', 's', 'e']
  | integer value => Decimal.integerDigits value.toInt
  | text content => quoted content.text
  | list items => '[' :: (compactItems items ++ [']'])
  | record members => '\x7b' :: (compactMembers members ++ ['\x7d'])

def compactItems : List Data → List Char
  | [] => []
  | [item] => item.compact
  | item :: next :: rest => item.compact ++ ',' :: compactItems (next :: rest)

def compactMembers : List (Name × Data) → List Char
  | [] => []
  | [(name, value)] => quoted name.text ++ ':' :: value.compact
  | (name, value) :: next :: rest =>
      quoted name.text ++ ':' :: (value.compact ++ ',' :: compactMembers (next :: rest))

end

mutual

/-- What the data means. -/
def content : Data → Decoding.Content
  | null => .null
  | boolean value => .boolean value
  | integer value => .integer value.toInt
  | text content => .text content.text
  | list items => .sequence (contents items)
  | record members => .mapping (memberContents members)

def contents : List Data → List Decoding.Content
  | [] => []
  | item :: rest => item.content :: contents rest

def memberContents : List (Name × Data) → List (Decoding.Content × Decoding.Content)
  | [] => []
  | (name, value) :: rest => (.text name.text, value.content) :: memberContents rest

end

mutual

/-- How deep lists and records are nested. -/
def depth : Data → Nat
  | null | boolean _ | integer _ | text _ => 0
  | list items => depthOfItems items + 1
  | record members => depthOfMembers members + 1

def depthOfItems : List Data → Nat
  | [] => 0
  | item :: rest => max item.depth (depthOfItems rest)

def depthOfMembers : List (Name × Data) → Nat
  | [] => 0
  | (_, value) :: rest => max value.depth (depthOfMembers rest)

end

end Data

end FilterQuery.Compact
