import FilterQuery.Decoding.Content
import FilterQuery.Yaml.Property

namespace FilterQuery.Yaml

open Decoding (Content Fault Found Expected)

/-- What a scalar denotes. Wide integers need more than 64 bits. -/
inductive Atom where
  | null
  | boolean (value : Bool)
  | integer (value : Int)
  | wideInteger (value : Int)
  | float (value : Double)
  | text (content : String)
deriving DecidableEq

namespace Atom

def found : Atom → Found
  | .null => .null
  | .boolean value => .boolean value
  | .integer value => .integer value
  | .wideInteger value => .wideInteger value
  | .float value => .float value
  | .text content => .text content

/-- The content of the atom; wide integers have none. -/
def content : Atom → Except Fault Content
  | .null => .ok .null
  | .boolean value => .ok (.boolean value)
  | .integer value => .ok (.integer value)
  | .wideInteger value => .error (.wrongType (.wideInteger value) .anything)
  | .float value => .ok (.float value)
  | .text content => .ok (.text content)

def isNull (text : List Char) : Bool :=
  text == "null".toList || text == "Null".toList || text == "NULL".toList || text == "~".toList

/-- Reads a boolean from one of its spellings. -/
def boolean? (text : List Char) : Option Bool :=
  if text == "true".toList || text == "True".toList || text == "TRUE".toList then some true
  else if text == "false".toList || text == "False".toList || text == "FALSE".toList then
    some false
  else none

/-- The text without one plus sign in front of it. -/
def dropPlus : List Char → List Char
  | '+' :: rest => rest
  | unsigned => unsigned

def hasSign (text : List Char) : Bool := text.head?.any fun c => c == '+' || c == '-'

/-- A row of more than one digit that starts with a zero; it may have a sign. Such a row is text. -/
def isPaddedNumeral (text : List Char) : Bool :=
  let digits := (Decimal.takeSign text).2
  1 < digits.length && digits.head? == some '0' && digits.all Char.isDigit

/-- Reads digits behind the mark of a base. -/
def inBase? : List Char → Option Nat
  | '0' :: mark :: digits =>
      if digits.isEmpty then none
      else if mark == 'x' then Text.valueInBase? 16 digits
      else if mark == 'o' then Text.valueInBase? 8 digits
      else if mark == 'b' then Text.valueInBase? 2 digits
      else none
  | _ => none

/-- Reads an integer: a numeral without padding, or digits behind the mark of a base. -/
def integer? (text : List Char) : Option Int :=
  let (negative, digits) := Decimal.takeSign text
  match inBase? digits with
  | some magnitude => some (Decimal.signed negative magnitude)
  | none => if isPaddedNumeral text then none else Decimal.readInteger? text

/-- The atom of an integer, if 128 bits hold it. -/
def ofInteger? (value : Int) : Option Atom :=
  if -0x8000000000000000 ≤ value && value < 0x10000000000000000 then some (.integer value)
  else if -0x80000000000000000000000000000000 ≤ value &&
      value < 0x100000000000000000000000000000000 then some (.wideInteger value)
  else none

def isInfinity (text : List Char) : Bool :=
  text == ".inf".toList || text == ".Inf".toList || text == ".INF".toList

/-- A spelling of the value that is no number. -/
def isNan (text : List Char) : Bool :=
  text == ".nan".toList || text == ".NaN".toList || text == ".NAN".toList

/-- Reads a float: a literal that is finite, or one of the special spellings. -/
def float? (text : List Char) : Option Double :=
  let unsigned := dropPlus text
  if unsigned.length < text.length && hasSign unsigned then none
  else if isInfinity unsigned then some (.infinite false)
  else if text.head? == some '-' && isInfinity (text.drop 1) then some (.infinite true)
  else if isNan text then some .nan
  else (Binary.read? unsigned).filter Binary.isFinite

/-- The atom of a plain scalar without a tag. -/
def ofPlain (text : List Char) : Atom :=
  if text.isEmpty || isNull text then .null
  else
    match boolean? text with
    | some value => .boolean value
    | none =>
        match (integer? text).bind ofInteger? with
        | some atom => atom
        | none =>
            match if isPaddedNumeral text then none else float? text with
            | some value => .float value
            | none => .text (String.ofList text)

/-- The atom of a scalar with a tag. Tags of the standard collection are obeyed; others make text
of the scalar, except that a plain scalar keeps its meaning under a tag of the application. -/
def ofTagged (tag : Tag) (text : String) (plain : Bool) : Except Fault Atom :=
  let chars := text.toList
  if tag == Tag.standard "bool" then
    match boolean? chars with
    | some value => .ok (.boolean value)
    | none => .error (.unreadable text .boolean)
  else if tag == Tag.standard "int" then
    match (integer? chars).bind ofInteger? with
    | some atom => .ok atom
    | none => .error (.unreadable text .integer)
  else if tag == Tag.standard "float" then
    match float? chars with
    | some value => .ok (.float value)
    | none => .error (.unreadable text .float)
  else if tag == Tag.standard "null" then
    if isNull chars then .ok .null else .error (.unreadable text .null)
  else if tag.isLocal && plain then .ok (ofPlain chars)
  else .ok (.text text)

def ofScalar (tag : Option Tag) (text : String) (plain : Bool) : Except Fault Atom :=
  match tag with
  | some tag => ofTagged tag text plain
  | none => .ok (if plain then ofPlain text.toList else .text text)

end Atom

end FilterQuery.Yaml
