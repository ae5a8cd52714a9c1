import FilterQuery.Decimal.Basic
import FilterQuery.Binary.Number

namespace FilterQuery.Decimal

/-- A decimal literal: its sign, its digits before and after the point, and its exponent. -/
structure Literal where
  negative : Bool
  whole : List Char
  fraction : List Char
  exponent : Int
deriving DecidableEq

/-- The sign in front of a text, and the text behind it. -/
def takeSign : List Char → Bool × List Char
  | '-' :: rest => (true, rest)
  | '+' :: rest => (false, rest)
  | text => (false, text)

/-- A row of at least one digit. -/
def isNumeral (text : List Char) : Bool := !text.isEmpty && text.all Char.isDigit

/-- The integer that a sign and a row of digits denote. -/
def signed (negative : Bool) (magnitude : Nat) : Int :=
  if negative then -(magnitude : Int) else magnitude

/-- The integer that a numeral with an optional sign denotes. -/
def readInteger? (text : List Char) : Option Int :=
  let (negative, digits) := takeSign text
  if isNumeral digits then some (signed negative (valueOf digits)) else none

/-- The exponent behind the digits of a literal; there may be none. -/
def readExponent? : List Char → Option Int
  | [] => some 0
  | mark :: rest => if mark == 'e' || mark == 'E' then readInteger? rest else none

/-- The digits behind the point, if there is a point, and the text behind them. -/
def takeFraction : List Char → List Char × List Char
  | '.' :: rest => (rest.takeWhile Char.isDigit, rest.dropWhile Char.isDigit)
  | text => ([], text)

namespace Literal

/-- Reads a literal; a digit must stand before or behind the point. -/
def read? (text : List Char) : Option Literal :=
  let (negative, body) := takeSign text
  let whole := body.takeWhile Char.isDigit
  let (fraction, rest) := takeFraction (body.dropWhile Char.isDigit)
  if whole.isEmpty && fraction.isEmpty then none
  else (readExponent? rest).map fun exponent => ⟨negative, whole, fraction, exponent⟩

/-- The magnitude that the literal denotes. -/
def magnitude (literal : Literal) : Decimal :=
  ⟨valueOf (literal.whole ++ literal.fraction), literal.exponent - literal.fraction.length⟩

/-- The number of a binary format that is nearest to the literal. -/
def toBinary (format : Binary.Format) (literal : Literal) : Binary format :=
  .ofDecimal literal.negative literal.magnitude.significand literal.magnitude.exponent

end Literal

end FilterQuery.Decimal

namespace FilterQuery.Binary

variable {format : Format}

/-- A name of an infinity, in any letter case. -/
def namesInfinity (text : List Char) : Bool :=
  let lower := text.map Char.toLower
  lower == ['i', 'n', 'f'] || lower == ['i', 'n', 'f', 'i', 'n', 'i', 't', 'y']

/-- The name of the value that is no number, in any letter case. -/
def namesNan (text : List Char) : Bool := text.map Char.toLower == ['n', 'a', 'n']

/-- Reads a number: a decimal literal, or the name of an infinity or of the value that is no
number, with an optional sign. A literal gives the number nearest to it. -/
def read? (text : List Char) : Option (Binary format) :=
  let (negative, name) := Decimal.takeSign text
  if namesInfinity name then some (.infinite negative)
  else if namesNan name then some .nan
  else (Decimal.Literal.read? text).map (Decimal.Literal.toBinary format)

end FilterQuery.Binary
