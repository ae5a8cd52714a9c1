import FilterQuery.Yaml.Layout.Indicator
import FilterQuery.Yaml.Plain
import FilterQuery.Yaml.Quoted
import FilterQuery.Yaml.Block

namespace FilterQuery.Yaml.Layout

def readBlock (folds : Bool) (layout : Layout) : Option Layout := do
  let layout ← layout.dropCandidate
  let (text, cursor) ← Block.read folds layout.indent layout.cursor
  some (({ layout with cursor := cursor, keyAllowed := true }).emit (.scalar text false))

def readQuoted (quote : Quoted.Quote) (layout : Layout) : Option Layout := do
  let layout ← layout.saveCandidate
  let (text, cursor) ← Quoted.read quote layout.cursor
  some (({ layout with cursor := cursor, keyAllowed := false }).emit (.scalar text false))

def readPlain (layout : Layout) : Option Layout := do
  let layout ← layout.saveCandidate
  let reading ← Plain.read layout.inFlow layout.indent layout.cursor
  some (({ layout with cursor := reading.cursor, keyAllowed := reading.atLineStart }).emit
    (.scalar reading.text true))

/-- The characters with which no plain scalar starts. -/
def isIndicator (c : Char) : Bool :=
  c == '-' || c == '?' || c == ':' || c == ',' || c == '[' || c == ']' || c == '\x7b' ||
    c == '\x7d' || c == '#' || c == '&' || c == '*' || c == '!' || c == '|' || c == '>' ||
    c == '\x27' || c == '\x22' || c == '%' || c == '@' || c == '\x60'

/-- A plain scalar starts here. A hyphen may start one if no blank follows it; outside brackets a
question mark or a colon may as well if no separator follows. -/
def startsPlain (inFlow : Bool) (c : Char) (rest : List Char) : Bool :=
  !(isSeparator c || isIndicator c) || (c == '-' && !rest.head?.any isGap) ||
    (!inFlow && (c == '?' || c == ':') && !atSeparator rest)

/-- Reads the token that starts with a character. -/
def readToken (layout : Layout) (c : Char) (rest : List Char) : Option Layout :=
  if layout.cursor.column == 0 && c == '%' then layout.readDirective
  else if atDocumentMarker layout.cursor then
    layout.readMarker (if c == '-' then .documentStart else .documentEnd)
  else if c == '[' then layout.openFlow .flowSequence
  else if c == '\x7b' then layout.openFlow .flowMapping
  else if c == ']' then layout.closeFlow .flowSequenceEnd
  else if c == '\x7d' then layout.closeFlow .flowMappingEnd
  else if c == ',' then layout.readFlowEntry
  else if c == '-' && atSeparator rest then layout.readBlockEntry
  else if c == '?' && (layout.inFlow || atSeparator rest) then layout.readKey
  else if c == ':' && (layout.inFlow || atSeparator rest) then layout.readValue
  else if c == '*' then layout.readName .alias
  else if c == '&' then layout.readName .anchor
  else if c == '!' then layout.readTag
  else if c == '|' && !layout.inFlow then layout.readBlock false
  else if c == '>' && !layout.inFlow then layout.readBlock true
  else if c == '\x27' then layout.readQuoted .single
  else if c == '\x22' then layout.readQuoted .double
  else if startsPlain layout.inFlow c rest then layout.readPlain
  else none

/-- Reads all tokens up to the end of the text. -/
def readAll : Nat → Layout → Option (List Token)
  | 0, _ => none
  | fuel + 1, layout => do
      let layout ← layout.toToken
      match layout.cursor.rest with
      | [] =>
          let layout ← (layout.unroll (-1)).dropCandidate
          some layout.reversed.reverse
      | c :: rest => readAll fuel (← layout.readToken c rest)

end FilterQuery.Yaml.Layout

namespace FilterQuery.Yaml

/-- The tokens of a text. All its characters have to be allowed. -/
def tokens? (text : List Char) : Option (List Token) :=
  if text.all isAllowed then Layout.readAll (text.length + 1) (.start text) else none

end FilterQuery.Yaml
