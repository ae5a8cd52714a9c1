import FilterQuery.Yaml.Mark

namespace FilterQuery.Yaml

/-- The separators between two words, as far as they have been read. -/
structure Gap where
  blanks : List Char
  leading : List Char
  trailing : List Char
  broken : Bool

namespace Gap

/-- The gap in which nothing has been read. -/
def empty : Gap := ⟨[], [], [], false⟩

/-- The gap behind a line break that has been escaped. -/
def escaped : Gap := ⟨[], [], [], true⟩

/-- The gap with one more blank. At the start of a line, blanks mean nothing. -/
def addBlank (gap : Gap) (c : Char) : Gap :=
  if gap.broken then gap else { gap with blanks := gap.blanks ++ [c] }

def addBreak (gap : Gap) (c : Char) : Gap :=
  if gap.broken then { gap with trailing := gap.trailing ++ [c] }
  else { gap with blanks := [], leading := [c], broken := true }

def folded (gap : Gap) : List Char :=
  if gap.broken then
    if gap.leading.head? == some '\n' then
      if gap.trailing.isEmpty then [' '] else gap.trailing
    else gap.leading ++ gap.trailing
  else gap.blanks

/-- Reads the separators that come next. A tab may not stand before the indentation of a line. -/
def read (indentation : Int) (gap : Gap) (mark : Mark) : List Char → Option (Gap × Cursor)
  | '\r' :: '\n' :: rest => read indentation (gap.addBreak '\n') (mark.nextLine 2) rest
  | c :: rest =>
      if isBreak c then read indentation (gap.addBreak (breakText c)) (mark.nextLine 1) rest
      else if isGap c then
        if gap.broken && (mark.column : Int) < indentation && c == '\t' then none
        else read indentation (gap.addBlank c) (mark.past 1) rest
      else some (gap, ⟨mark, c :: rest⟩)
  | [] => some (gap, ⟨mark, []⟩)

end Gap

end FilterQuery.Yaml
