import FilterQuery.Decoding.Position
import FilterQuery.Text.Visible

namespace FilterQuery.Decoding

namespace Place

/-- The text of a place as a message shows it. -/
def text : Place → String
  | .whole => "."
  | .item parent index => parent.text ++ "[" ++ String.ofList (Decimal.digitsOf index) ++ "]"
  | .member .whole key => key
  | .member parent key => parent.text ++ "." ++ key
  | .unnamed .whole => "?"
  | .unnamed parent => parent.text ++ ".?"

/-- The text in front of a message about a place; there is none for the whole. -/
def label : Place → String
  | .whole => ""
  | place => place.text ++ ": "

end Place

/-- The text of a magnitude in JSON: positional digits from the fifth place behind the point up to
the sixteenth before it, with at least one digit behind the point. Every exponent has a sign. -/
def jsonMagnitude (decimal : Decimal) : List Char :=
  let exponent := decimal.leadingExponent
  if -5 ≤ exponent && exponent < 16 then
    if 0 ≤ decimal.exponent then decimal.positional ++ ['.', '0'] else decimal.positional
  else decimal.scientific true

/-- The text of a magnitude in YAML: positional digits with at least one behind the point. -/
def yamlMagnitude (decimal : Decimal) : List Char :=
  if 0 ≤ decimal.exponent then decimal.positional ++ ['.', '0'] else decimal.positional

/-- The text of a double in a message about data of a notation. -/
def Markup.doubleText (markup : Markup) : Double → List Char
  | .nan => ['N', 'a', 'N']
  | .infinite negative => (if negative then ['-'] else []) ++ ['i', 'n', 'f']
  | .finite negative code =>
      (if negative then ['-'] else []) ++
        if code.val = 0 then ['0', '.', '0']
        else
          match markup with
          | .json => jsonMagnitude (Decimal.shortest .even .double code.val)
          | .yaml => yamlMagnitude (Decimal.shortest .greater .double code.val)

def integerText (value : Int) : String := String.ofList (Decimal.integerDigits value)

/-- What was found, as a message shows it. -/
def Found.shown (markup : Markup) : Found → String
  | .null =>
      match markup with
      | .json => "null"
      | .yaml => "unit value"
  | .nothing => "Option value"
  | .boolean value => "boolean `" ++ (if value then "true" else "false") ++ "`"
  | .integer value => "integer `" ++ integerText value ++ "`"
  | .wideInteger value =>
      "integer `" ++ integerText value ++ "` as " ++ if value < 0 then "i128" else "u128"
  | .float value => "floating point `" ++ String.ofList (markup.doubleText value) ++ "`"
  | .text content => "string " ++ Text.shown content
  | .sequence => "sequence"
  | .mapping => "map"
  | .tagged => "enum"

/-- What was expected, as a message shows it. -/
def Expected.shown : Expected → String
  | .text => "a string"
  | .sequence => "a sequence"
  | .document => "struct FilterDocument"
  | .clause => "internally tagged enum Clause"
  | .kindName => "variant identifier"
  | .fieldName => "field identifier"
  | .anything => "any value"
  | .boolean => "a boolean"
  | .integer => "an integer"
  | .float => "a float"
  | .null => "null"

/-- The shape of a clause's members, as a message shows it. -/
def shapeText : ClauseKind → String
  | .comparison => "struct variant Clause::Where with 3 elements"
  | .exclusion => "struct variant Clause::WhereNot with 2 elements"
  | .anyOf => "struct variant Clause::WhereIn with 2 elements"
  | .noneOf => "struct variant Clause::WhereNotIn with 2 elements"

def countText (count : Nat) : String := String.ofList (Decimal.digitsOf count)

def Fault.message (markup : Markup) : Fault → String
  | .wrongType found expected =>
      "invalid type: " ++ found.shown markup ++ ", expected " ++ expected.shown
  | .unreadable content expected =>
      "invalid value: string " ++ Text.shown content ++ ", expected " ++ expected.shown
  | .missing member => "missing field `" ++ member ++ "`"
  | .repeated member => "duplicate field `" ++ member ++ "`"
  | .unknownKind name =>
      "unknown variant `" ++ name ++
        "`, expected one of `where`, `where_not`, `where_in`, `where_not_in`"
  | .tooShort length kind =>
      "invalid length " ++ countText length ++ ", expected " ++ shapeText kind
  | .tooLong length limit =>
      "invalid length " ++ countText length ++ ", expected " ++ countText limit ++
        " elements in sequence"
  | .unknownOperator spelling => "Unknown operator: " ++ spelling
  | .notScalar => "data did not match any variant of untagged enum Scalar"
  | .unexpectedTag => "untagged and internally tagged enums do not support enum input"
  | .endOfText => "EOF while parsing a value"
  | .tooDeep => "recursion limit exceeded"
  | .tooManyAliases => "repetition limit exceeded"

/-- The text in front of a message about a place; in JSON, messages name no place. -/
def Markup.label (place : Place) : Markup → String
  | .json => ""
  | .yaml => place.label

/-- The text of a position, as it follows a message. -/
def Position.text (position : Position) : String :=
  " at line " ++ countText position.line ++ " column " ++ countText position.column

/-- What is said of an error, and the position that is given behind it, if there is one. -/
structure Notice where
  text : String
  position : Option Position
deriving DecidableEq

/-- The notice as it is shown. -/
def Notice.shown (notice : Notice) : String :=
  match notice.position with
  | none => notice.text
  | some position => notice.text ++ position.text

/-- The notice of an error that a reader reports, from the position where it stands if it knows it.
A position in the wording goes before the one of the reader. -/
def Error.notice (markup : Markup) (reader : Option Position) : Error → Notice
  | .malformed => ⟨"malformed text", reader⟩
  | .fault place cause =>
      let (text, own) := markup.takePosition (markup.label place ++ cause.message markup).toList
      ⟨String.ofList text, own.or reader⟩

end FilterQuery.Decoding
