import FilterQuery.Clause.Basic
import FilterQuery.Text.Word

namespace FilterQuery.Clause

/-- A character of a field name: a word character, a full stop or a hyphen. -/
def isFieldChar (c : Char) : Bool := Text.isWord c || c == '.' || c == '-'

/-- The spellings of operators on a line. A spelling stands before its own beginnings, so the
longest one is found first. -/
def lineOperators : List (List Char × Operator) := [
  (['<', '='], .atMost), (['>', '='], .atLeast), (['!', '='], .notEqual), (['=', '='], .equal),
  (['<', '>'], .notEqual), (['<'], .less), (['>'], .greater), (['='], .equal)]

/-- The operator at the start of a text, and the text behind it. -/
def takeOperator? (text : List Char) : Option (Operator × List Char) :=
  (lineOperators.find? fun entry => entry.1.isPrefixOf text).map fun entry =>
    (entry.2, text.drop entry.1.length)

/-- The text between two quotes of one kind, if it stands between such quotes. -/
def unquoteWith? (quote : Char) : List Char → Option (List Char)
  | [] => none
  | first :: rest =>
      if first == quote && rest.getLast? == some quote then some rest.dropLast else none

/-- The text without one pair of matching quotes around it. -/
def unquote (text : List Char) : List Char :=
  match unquoteWith? '\x22' text with
  | some inner => inner
  | none => (unquoteWith? '\x27' text).getD text

/-- The value that a trimmed text denotes. -/
def valueOfText (text : List Char) : Value :=
  if text == ['t', 'r', 'u', 'e'] then .boolean true
  else if text == ['f', 'a', 'l', 's', 'e'] then .boolean false
  else .text (String.ofList (unquote text))

/-- Reads a clause from one line. The value may not run over a line feed. -/
def ofLine? (line : List Char) : Option Clause :=
  let text := Text.trimStart line
  let field := text.takeWhile isFieldChar
  if field.isEmpty then none
  else
    match takeOperator? (Text.trimStart (text.dropWhile isFieldChar)) with
    | none => none
    | some (operator, rest) =>
        let value := Text.trimStart rest
        if value.contains '\n' then none
        else some (.comparison (String.ofList field) operator (valueOfText (Text.trimEnd value)))

end FilterQuery.Clause
