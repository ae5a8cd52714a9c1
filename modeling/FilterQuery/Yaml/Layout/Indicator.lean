import FilterQuery.Yaml.Layout.Basic

namespace FilterQuery.Yaml.Layout

/-- Reads the directive at this place and the rest of its line, with its line break: no key may start
at the next line either. -/
def readDirective (layout : Layout) : Option Layout := do
  let layout ← (layout.unroll (-1)).dropCandidate
  let (directive, rest) ← Directive.take? (layout.cursor.rest.drop 1)
  let tail := rest.dropWhile isGap
  let tail := if tail.head? == some '#' then tail.dropWhile (!isBreak ·) else tail
  if atBreak tail then
    let cursor := (layout.cursor.past (layout.cursor.rest.length - tail.length)).pastBreak
    some (({ layout with cursor := cursor, keyAllowed := false }).emit (.directive directive))
  else none

def readMarker (layout : Layout) (token : Token) : Option Layout := do
  let layout ← (layout.unroll (-1)).dropCandidate
  some (((layout.allowKey false).past 3).emit token)

def openFlow (layout : Layout) (token : Token) : Option Layout := do
  let layout ← layout.saveCandidate
  some (({ layout with
    around := layout.candidate :: layout.around
    candidate := none
    keyAllowed := true }.past 1).emit token)

def closeFlow (layout : Layout) (token : Token) : Option Layout := do
  let layout ← layout.dropCandidate
  let layout := match layout.around with
    | [] => layout
    | candidate :: around => { layout with candidate := candidate, around := around }
  some (((layout.allowKey false).past 1).emit token)

def readFlowEntry (layout : Layout) : Option Layout := do
  let layout ← layout.dropCandidate
  some (((layout.allowKey true).past 1).emit .flowEntry)

def readBlockEntry (layout : Layout) : Option Layout :=
  if !layout.inFlow && !layout.keyAllowed then none
  else do
    let layout := layout.roll layout.cursor.column layout.count .blockSequence
    let layout ← layout.dropCandidate
    some (((layout.allowKey true).past 1).emit .blockEntry)

def readKey (layout : Layout) : Option Layout :=
  if !layout.inFlow && !layout.keyAllowed then none
  else do
    let layout := layout.roll layout.cursor.column layout.count .blockMapping
    let layout ← layout.dropCandidate
    some (((layout.allowKey !layout.inFlow).past 1).emit .key)

/-- Reads the indicator of a value. It makes a key of the candidate, if there is one. -/
def readValue (layout : Layout) : Option Layout :=
  match layout.candidate with
  | some candidate =>
      let layout := layout.insert candidate.tokens .key
      let layout := layout.roll candidate.mark.column candidate.tokens .blockMapping
      let layout := { layout with candidate := none, keyAllowed := false }
      some ((layout.past 1).emit .value)
  | none =>
      if !layout.inFlow && !layout.keyAllowed then none
      else
        let layout := layout.roll layout.cursor.column layout.count .blockMapping
        some (((layout.allowKey !layout.inFlow).past 1).emit .value)

def readName (layout : Layout) (token : List Char → Token) : Option Layout := do
  let layout ← layout.saveCandidate
  let (name, _) ← takeName? (layout.cursor.rest.drop 1)
  some (((layout.allowKey false).past (name.length + 1)).emit (token name))

def readTag (layout : Layout) : Option Layout := do
  let layout ← layout.saveCandidate
  let (written, rest) ← Tag.take? layout.cursor.rest
  if atSeparator rest || (layout.inFlow && rest.head? == some ',') then
    let layout := layout.past (layout.cursor.rest.length - rest.length)
    some ((layout.allowKey false).emit (.tag written))
  else none

end FilterQuery.Yaml.Layout
