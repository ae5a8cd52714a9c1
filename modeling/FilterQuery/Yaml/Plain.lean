import FilterQuery.Yaml.Folding

namespace FilterQuery.Yaml.Plain

/-- The characters that structure a collection in brackets. -/
def isFlowIndicator (c : Char) : Bool :=
  c == ',' || c == '[' || c == ']' || c == '\x7b' || c == '\x7d'

/-- The word at the start of a text. In brackets, a colon may not stand in front of a character
that structures the collection. -/
def takeWord? (inFlow : Bool) : List Char → Option (List Char × List Char)
  | [] => some ([], [])
  | c :: rest =>
      if isSeparator c then some ([], c :: rest)
      else if inFlow && c == ':' &&
          rest.head?.any (fun next => isFlowIndicator next || next == '?') then none
      else if (c == ':' && atSeparator rest) || (inFlow && isFlowIndicator c) then
        some ([], c :: rest)
      else (takeWord? inFlow rest).map fun (word, rest) => (c :: word, rest)

/-- A plain scalar: its text, whether it ended at the start of a line, and what follows. -/
structure Reading where
  text : List Char
  atLineStart : Bool
  cursor : Cursor

/-- Reads words and the gaps between them. Outside brackets, the scalar ends at a line that is
indented less. -/
def readWords (inFlow : Bool) (indentation : Int) :
    Nat → List Char → Gap → Cursor → Option Reading
  | 0, _, _, _ => none
  | fuel + 1, text, gap, cursor =>
      if atDocumentMarker cursor || cursor.rest.head? == some '#' then
        some ⟨text, gap.broken, cursor⟩
      else
        match takeWord? inFlow cursor.rest with
        | none => none
        | some (word, rest) =>
            let behind : Cursor := ⟨cursor.mark.past word.length, rest⟩
            let joined := if word.isEmpty then text else text ++ gap.folded ++ word
            let before := if word.isEmpty then gap else Gap.empty
            if rest.isEmpty || !atSeparator rest then some ⟨joined, before.broken, behind⟩
            else
              match Gap.read indentation before behind.mark rest with
              | none => none
              | some (gap, next) =>
                  if !inFlow && (next.column : Int) < indentation then
                    some ⟨joined, gap.broken, next⟩
                  else readWords inFlow indentation fuel joined gap next

def read (inFlow : Bool) (indent : Int) (cursor : Cursor) : Option Reading :=
  readWords inFlow (indent + 1) (cursor.rest.length + 1) [] .empty cursor

end FilterQuery.Yaml.Plain
