import FilterQuery.Yaml.Token

/-!
The layout of a YAML text: the tokens read so far, the blocks that indentation forms around a
place, and the candidates for keys.
-/

namespace FilterQuery.Yaml

/-- A place where a key without an indicator may have started: the number of tokens before it, its
position, and whether nothing but a key can stand there. -/
structure Candidate where
  tokens : Nat
  mark : Mark
  required : Bool

/-- The tokens read so far, in reverse order, and what decides about the next ones: the column of
the current block and of those around it, whether a key may start here, and for the text outside
brackets and for each pair of brackets around this place the candidate for a key. -/
structure Layout where
  cursor : Cursor
  reversed : List Token
  count : Nat
  indent : Int
  outer : List Int
  keyAllowed : Bool
  candidate : Option Candidate
  around : List (Option Candidate)

namespace Layout

def start (text : List Char) : Layout :=
  ⟨⟨.start, text⟩, [], 0, -1, [], true, none, []⟩

def inFlow (layout : Layout) : Bool := !layout.around.isEmpty

def emit (layout : Layout) (token : Token) : Layout :=
  { layout with reversed := token :: layout.reversed, count := layout.count + 1 }

/-- Inserts a token behind so many tokens. -/
def insert (layout : Layout) (position : Nat) (token : Token) : Layout :=
  let behind := layout.count - position
  { layout with
    reversed := layout.reversed.take behind ++ token :: layout.reversed.drop behind
    count := layout.count + 1 }

def past (layout : Layout) (count : Nat) : Layout :=
  { layout with cursor := layout.cursor.past count }

/-- Permits or forbids that a key starts here. -/
def allowKey (layout : Layout) (allowed : Bool) : Layout := { layout with keyAllowed := allowed }

/-- Ends the blocks whose column lies beyond the given one. -/
def unrollFrom (column : Int) : List Int → Layout → Layout
  | [], layout => layout
  | next :: outer, layout =>
      if column < layout.indent then
        unrollFrom column outer { layout.emit .blockEnd with indent := next, outer := outer }
      else layout

/-- Outside brackets, ends the blocks whose column lies beyond the given one. -/
def unroll (layout : Layout) (column : Int) : Layout :=
  if layout.inFlow then layout else unrollFrom column layout.outer layout

/-- Outside brackets, starts a block at a column that lies beyond the current one. -/
def roll (layout : Layout) (column : Int) (position : Nat) (token : Token) : Layout :=
  if !layout.inFlow && layout.indent < column then
    { layout.insert position token with
      indent := column
      outer := layout.indent :: layout.outer }
  else layout

/-- Gives up the candidate for a key; a required one may not be given up. -/
def dropCandidate (layout : Layout) : Option Layout :=
  if layout.candidate.any Candidate.required then none
  else some { layout with candidate := none }

/-- Takes this place as a candidate for a key, if a key may start here. -/
def saveCandidate (layout : Layout) : Option Layout :=
  if layout.keyAllowed then do
    let required := !layout.inFlow && layout.indent == layout.cursor.column
    let layout ← layout.dropCandidate
    some { layout with candidate := some ⟨layout.count, layout.cursor.mark, required⟩ }
  else some layout

/-- The greatest distance between the start of a key and the indicator behind it. -/
def keyLimit : Nat := 1024

/-- A candidate is out of reach on another line or too far back. -/
def isStale (mark : Mark) (candidate : Candidate) : Bool :=
  candidate.mark.line < mark.line || candidate.mark.index + keyLimit < mark.index

/-- The candidate, unless it is out of reach; a required one must not be out of reach. -/
def refresh (mark : Mark) : Option Candidate → Option (Option Candidate)
  | none => some none
  | some candidate =>
      if !isStale mark candidate then some (some candidate)
      else if candidate.required then none
      else some none

/-- Gives up all candidates that are out of reach. -/
def refreshAll (layout : Layout) : Option Layout := do
  let mark := layout.cursor.mark
  let candidate ← refresh mark layout.candidate
  let around ← layout.around.mapM (refresh mark)
  some { layout with candidate := candidate, around := around }

/-- Passes blanks, comments and line breaks. Outside brackets, a key may start on each new line,
and tabs may not stand where a key may start. -/
def skip (inFlow : Bool) (inComment keyAllowed : Bool) (mark : Mark) : List Char → Bool × Cursor
  | '\r' :: '\n' :: rest => skip inFlow false (keyAllowed || !inFlow) (mark.nextLine 2) rest
  | c :: rest =>
      if isBreak c then skip inFlow false (keyAllowed || !inFlow) (mark.nextLine 1) rest
      else if inComment || c == ' ' || (c == '\t' && (inFlow || !keyAllowed)) then
        skip inFlow inComment keyAllowed (mark.past 1) rest
      else if c == '#' then skip inFlow true keyAllowed (mark.past 1) rest
      else if c == '\ufeff' && mark.index == 0 then
        skip inFlow false keyAllowed (mark.past 1) rest
      else (keyAllowed, ⟨mark, c :: rest⟩)
  | [] => (keyAllowed, ⟨mark, []⟩)

/-- Moves to the start of the next token. -/
def toToken (layout : Layout) : Option Layout := do
  let (keyAllowed, cursor) :=
    skip layout.inFlow false layout.keyAllowed layout.cursor.mark layout.cursor.rest
  let layout ← refreshAll { layout with keyAllowed := keyAllowed, cursor := cursor }
  some (layout.unroll cursor.column)

end Layout

end FilterQuery.Yaml
