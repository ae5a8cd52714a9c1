namespace FilterQuery.Yaml

/-- A position: the characters before it, its line and its column, each counted from zero. -/
structure Mark where
  index : Nat
  line : Nat
  column : Nat
deriving DecidableEq

namespace Mark

def start : Mark := ⟨0, 0, 0⟩

def past (mark : Mark) (count : Nat) : Mark :=
  ⟨mark.index + count, mark.line, mark.column + count⟩

/-- The start of the next line, behind a line break of some characters. -/
def nextLine (mark : Mark) (count : Nat) : Mark := ⟨mark.index + count, mark.line + 1, 0⟩

end Mark

/-- A text from a position on. -/
structure Cursor where
  mark : Mark
  rest : List Char

namespace Cursor

def past (cursor : Cursor) (count : Nat) : Cursor :=
  ⟨cursor.mark.past count, cursor.rest.drop count⟩

def column (cursor : Cursor) : Nat := cursor.mark.column

end Cursor

/-- A line break: one of the five characters that end a line. -/
def isBreak (c : Char) : Bool :=
  c == '\n' || c == '\r' || c == '\x85' || c == '\u2028' || c == '\u2029'

def isGap (c : Char) : Bool := c == ' ' || c == '\t'

def isSeparator (c : Char) : Bool := isGap c || isBreak c

def atSeparator : List Char → Bool
  | [] => true
  | c :: _ => isSeparator c

def atBreak : List Char → Bool
  | [] => true
  | c :: _ => isBreak c

/-- The cursor behind the line break that comes next, if one does. -/
def Cursor.pastBreak (cursor : Cursor) : Cursor :=
  match cursor.rest with
  | '\r' :: '\n' :: rest => ⟨cursor.mark.nextLine 2, rest⟩
  | c :: rest => if isBreak c then ⟨cursor.mark.nextLine 1, rest⟩ else cursor
  | [] => cursor

/-- What a line break means in a scalar: a line feed, except for the two separators of Unicode,
which stand for themselves. -/
def breakText (c : Char) : Char := if c == '\u2028' || c == '\u2029' then c else '\n'

/-- A character that a YAML text may hold. -/
def isAllowed (c : Char) : Bool :=
  let n := c.toNat
  n == 9 || n == 10 || n == 13 || (0x20 ≤ n && n ≤ 0x7E) || n == 0x85 ||
    (0xA0 ≤ n && n ≤ 0xD7FF) || (0xE000 ≤ n && n ≤ 0xFFFD) || (0x10000 ≤ n && n ≤ 0x10FFFF)

/-- A line that starts or ends a document begins here. -/
def atDocumentMarker (cursor : Cursor) : Bool :=
  cursor.column == 0 &&
    match cursor.rest with
    | '-' :: '-' :: '-' :: rest => atSeparator rest
    | '.' :: '.' :: '.' :: rest => atSeparator rest
    | _ => false

/-- A letter, a digit, a low line or a hyphen. -/
def isNameChar (c : Char) : Bool := c.isAlphanum || c == '_' || c == '-'

end FilterQuery.Yaml
