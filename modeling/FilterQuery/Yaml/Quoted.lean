import FilterQuery.Yaml.Folding
import FilterQuery.Text.Hexadecimal

namespace FilterQuery.Yaml.Quoted

/-- The two kinds of quotes. -/
inductive Quote where
  | single
  | double
deriving DecidableEq

/-- The character of a quote. -/
def Quote.char : Quote → Char
  | .single => '\x27'
  | .double => '\x22'

/-- What an escape of one letter stands for. -/
def escaped? (letter : Char) : Option Char :=
  match letter with
  | '0' => some '\x00'
  | 'a' => some '\x07'
  | 'b' => some '\x08'
  | 't' => some '\t'
  | '\t' => some '\t'
  | 'n' => some '\n'
  | 'v' => some '\x0b'
  | 'f' => some '\x0c'
  | 'r' => some '\r'
  | 'e' => some '\x1b'
  | ' ' => some ' '
  | '\x22' => some '\x22'
  | '/' => some '/'
  | '\x5c' => some '\x5c'
  | 'N' => some '\x85'
  | '_' => some '\xa0'
  | 'L' => some '\u2028'
  | 'P' => some '\u2029'
  | _ => none

/-- How many hexadecimal digits follow the letter of a numbered escape. -/
def escapeWidth? (letter : Char) : Option Nat :=
  match letter with
  | 'x' => some 2
  | 'u' => some 4
  | 'U' => some 8
  | _ => none

/-- The character with a number, if there is one. -/
def charOf? (n : Nat) : Option Char :=
  if (0xD800 ≤ n && n ≤ 0xDFFF) || 0x10FFFF < n then none else some (.ofNat n)

/-- The character of a numbered escape with so many digits. -/
def numbered? (width : Nat) (text : List Char) : Option Char :=
  if text.length < width then none
  else do charOf? (← Text.valueInBase? 16 (text.take width))

/-- What ended a run of characters: a quote, a separator or the end of the text; or an escaped line
break. -/
structure Run where
  text : List Char
  escapedBreak : Bool
  cursor : Cursor

/-- Reads characters up to a separator or the closing quote. -/
def readRun (quote : Quote) : Nat → Cursor → Option Run
  | 0, _ => none
  | fuel + 1, cursor =>
      let more (c : Char) (count : Nat) : Option Run :=
        (readRun quote fuel (cursor.past count)).map fun run => { run with text := c :: run.text }
      match cursor.rest with
      | [] => some ⟨[], false, cursor⟩
      | c :: rest =>
          if isSeparator c then some ⟨[], false, cursor⟩
          else
            match quote with
            | .single =>
                if c == '\x27' then
                  if rest.head? == some '\x27' then more '\x27' 2 else some ⟨[], false, cursor⟩
                else more c 1
            | .double =>
                if c == '\x22' then some ⟨[], false, cursor⟩
                else if c == '\x5c' then
                  match rest with
                  | [] => none
                  | '\r' :: '\n' :: rest => some ⟨[], true, ⟨cursor.mark.nextLine 3, rest⟩⟩
                  | letter :: rest =>
                      if isBreak letter then some ⟨[], true, ⟨cursor.mark.nextLine 2, rest⟩⟩
                      else
                        match escapeWidth? letter with
                        | some width => do more (← numbered? width rest) (2 + width)
                        | none => do more (← escaped? letter) 2
                else more c 1

/-- Reads runs and the gaps between them up to the closing quote. -/
def readRuns (quote : Quote) : Nat → List Char → Cursor → Option (List Char × Cursor)
  | 0, _, _ => none
  | fuel + 1, text, cursor =>
      if atDocumentMarker cursor || cursor.rest.isEmpty then none
      else
        match readRun quote (cursor.rest.length + 1) cursor with
        | none => none
        | some run =>
            let text := text ++ run.text
            if run.cursor.rest.head? == some quote.char then some (text, run.cursor.past 1)
            else
              let gap := if run.escapedBreak then Gap.escaped else Gap.empty
              match Gap.read 0 gap run.cursor.mark run.cursor.rest with
              | none => none
              | some (gap, next) => readRuns quote fuel (text ++ gap.folded) next

/-- Reads a quoted scalar from its opening quote on. -/
def read (quote : Quote) (cursor : Cursor) : Option (List Char × Cursor) :=
  readRuns quote (cursor.rest.length + 1) [] (cursor.past 1)

end FilterQuery.Yaml.Quoted
