import FilterQuery.Yaml.Folding

namespace FilterQuery.Yaml.Block

/-- What becomes of the line breaks at the end of a block scalar. -/
inductive Chomping where
  | strip
  | clip
  | keep
deriving DecidableEq

/-- The header of a block scalar. -/
structure Header where
  chomping : Chomping
  increment : Nat

/-- The chomping that a sign asks for. -/
def chomping? (c : Char) : Option Chomping :=
  if c == '+' then some .keep else if c == '-' then some .strip else none

/-- Reads the chomping and the indentation in either order. A given indentation is not zero. -/
def readHeader : List Char → Option (Header × List Char)
  | first :: second :: rest =>
      match chomping? first, chomping? second with
      | some chomping, _ =>
          if !second.isDigit then some (⟨chomping, 0⟩, second :: rest)
          else if second == '0' then none
          else some (⟨chomping, second.toNat - '0'.toNat⟩, rest)
      | none, chomping =>
          if !first.isDigit then some (⟨.clip, 0⟩, first :: second :: rest)
          else if first == '0' then none
          else
            match chomping with
            | some chomping => some (⟨chomping, first.toNat - '0'.toNat⟩, rest)
            | none => some (⟨.clip, first.toNat - '0'.toNat⟩, second :: rest)
  | [first] =>
      match chomping? first with
      | some chomping => some (⟨chomping, 0⟩, [])
      | none =>
          if !first.isDigit then some (⟨.clip, 0⟩, [first])
          else if first == '0' then none
          else some (⟨.clip, first.toNat - '0'.toNat⟩, [])
  | [] => some (⟨.clip, 0⟩, [])

/-- The text of the line break that comes next. -/
def nextBreak (text : List Char) : List Char :=
  match text with
  | c :: _ => if isBreak c then [breakText c] else []
  | [] => []

/-- Passes the rest of a header line: blanks and a comment. -/
def overHeaderLine (cursor : Cursor) : Option Cursor :=
  let blanks := cursor.rest.takeWhile isGap
  let cursor := cursor.past blanks.length
  let comment := if cursor.rest.head? == some '#' then cursor.rest.takeWhile (!isBreak ·) else []
  let cursor := cursor.past comment.length
  if atBreak cursor.rest then some cursor.pastBreak else none

/-- The line breaks before a line that is not empty, and the greatest column reached in between.
The indentation is zero as long as it is not known. A tab may not stand in place of indentation. -/
structure Breaks where
  text : List Char
  widest : Nat
  cursor : Cursor

/-- Passes indentation and empty lines. -/
def readBreaks (indentation : Nat) : Nat → List Char → Nat → Cursor → Option Breaks
  | 0, _, _, _ => none
  | fuel + 1, text, widest, cursor =>
      let spaces := (cursor.rest.takeWhile (· == ' ')).length
      let count := if indentation = 0 then spaces else min spaces (indentation - cursor.column)
      let cursor := cursor.past count
      let widest := max widest cursor.column
      if (indentation = 0 || cursor.column < indentation) && cursor.rest.head? == some '\t' then
        none
      else if atBreak cursor.rest && !cursor.rest.isEmpty then
        readBreaks indentation fuel (text ++ nextBreak cursor.rest) widest cursor.pastBreak
      else some ⟨text, widest, cursor⟩

/-- A block scalar as far as it has been read: its text, the break behind the last line, the empty
lines that followed, and whether the last line began with a blank. -/
structure Lines where
  text : List Char
  leading : List Char
  trailing : List Char
  blankBefore : Bool
  cursor : Cursor

/-- Reads the lines of a block scalar. Where lines are folded, the break between two lines that do
not begin with a blank becomes a space, or nothing if empty lines follow it. -/
def readLines (folds : Bool) (indentation : Nat) : Nat → Lines → Option Lines
  | 0, _ => none
  | fuel + 1, lines =>
      let cursor := lines.cursor
      if cursor.column != indentation || cursor.rest.isEmpty then some lines
      else
        let blank := cursor.rest.head?.any isGap
        let joint :=
          if folds && lines.leading.head? == some '\n' && !lines.blankBefore && !blank then
            if lines.trailing.isEmpty then [' '] else []
          else lines.leading
        let line := cursor.rest.takeWhile (!isBreak ·)
        let behind := cursor.past line.length
        match readBreaks indentation (behind.rest.length + 1) [] 0 behind.pastBreak with
        | none => none
        | some breaks =>
            readLines folds indentation fuel
              ⟨lines.text ++ joint ++ lines.trailing ++ line, nextBreak behind.rest, breaks.text,
                blank, breaks.cursor⟩

/-- Reads a block scalar from its indicator on. Without a given indentation, that of the widest
empty line or of the first line counts, but the scalar is indented more than what holds it. -/
def read (folds : Bool) (indent : Int) (cursor : Cursor) : Option (List Char × Cursor) := do
  let (header, rest) ← readHeader (cursor.rest.drop 1)
  let cursor := cursor.past (cursor.rest.length - rest.length)
  let cursor ← overHeaderLine cursor
  let given := if header.increment = 0 then 0 else (max indent 0).toNat + header.increment
  let fuel := cursor.rest.length + 1
  let breaks ← readBreaks given fuel [] 0 cursor
  let indentation := if given = 0 then max (max breaks.widest (indent + 1).toNat) 1 else given
  let lines ← readLines folds indentation fuel ⟨[], [], breaks.text, false, breaks.cursor⟩
  let ending := match header.chomping with
    | .strip => []
    | .clip => lines.leading
    | .keep => lines.leading ++ lines.trailing
  some (lines.text ++ ending, lines.cursor)

end FilterQuery.Yaml.Block
