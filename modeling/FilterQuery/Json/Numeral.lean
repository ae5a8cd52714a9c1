import FilterQuery.Decimal.Literal
import FilterQuery.Decoding.Content

/-!
Numerals of JSON and the numbers that they are read as. Integers of 64 bits are read exactly. Any
other numeral is read through a significand of at most 64 bits, which is converted to a double and
then scaled by a power of ten, so the result may differ from the nearest double.
-/

namespace FilterQuery.Json

/-- A numeral: a sign, digits before and behind the point, and an exponent if one is written. -/
structure Numeral where
  negative : Bool
  whole : List Char
  fraction : List Char
  exponent : Option Int
deriving DecidableEq

namespace Numeral

/-- The digits before the point: a zero alone, or a row that starts with another digit. -/
def takeWhole? (text : List Char) : Option (List Char × List Char) :=
  let digits := text.takeWhile Char.isDigit
  match digits with
  | [] => none
  | '0' :: _ :: _ => none
  | _ => some (digits, text.dropWhile Char.isDigit)

/-- The digits behind a point; where there is a point there is a digit. -/
def takeFraction? : List Char → Option (List Char × List Char)
  | '.' :: rest =>
      let digits := rest.takeWhile Char.isDigit
      if digits.isEmpty then none else some (digits, rest.dropWhile Char.isDigit)
  | text => some ([], text)

/-- The exponent behind the mark of an exponent; where there is a mark there is a digit. -/
def takeExponent? : List Char → Option (Option Int × List Char)
  | mark :: rest =>
      if mark == 'e' || mark == 'E' then
        let (negative, body) := Decimal.takeSign rest
        let digits := body.takeWhile Char.isDigit
        if digits.isEmpty then none
        else some (some (Decimal.signed negative (Decimal.valueOf digits)),
          body.dropWhile Char.isDigit)
      else some (none, mark :: rest)
  | [] => some (none, [])

/-- The numeral at the start of a text, and the text behind it. -/
def take? (text : List Char) : Option (Numeral × List Char) := do
  let (negative, body) := match text with
    | '-' :: rest => (true, rest)
    | _ => (false, text)
  let (whole, rest) ← takeWhole? body
  let (fraction, rest) ← takeFraction? rest
  let (exponent, rest) ← takeExponent? rest
  some (⟨negative, whole, fraction, exponent⟩, rest)

/-- Appends digits to a significand as long as it fits 64 bits; the second answer counts the digits
from the first that does not fit. -/
def accumulate (significand : Nat) : List Char → Nat × Nat
  | [] => (significand, 0)
  | digit :: rest =>
      let next := 10 * significand + (digit.toNat - '0'.toNat)
      if next < 0x10000000000000000 then accumulate next rest else (significand, rest.length + 1)

/-- A double without a sign, as its code. -/
abbrev Magnitude := Fin Binary.Format.double.infinityCode

/-- The magnitude with a code, if the code is finite. -/
def finite? (code : Nat) : Option Magnitude :=
  if h : code < Binary.Format.double.infinityCode then some ⟨code, h⟩ else none

/-- The code of the double nearest to a power of ten. -/
def powerCode (power : Nat) : Nat := Binary.Format.double.nearest (Nat.pow 10 power) 1

/-- The code of the product of two magnitudes. -/
def times (first second : Nat) : Nat :=
  Binary.Format.double.nearest
    (Binary.Format.double.units first * Binary.Format.double.units second)
    (Nat.pow 2 (2 * Binary.Format.double.scale))

/-- The code of the quotient of two magnitudes. -/
def quotient (first second : Nat) : Nat :=
  Binary.Format.double.nearest
    (Binary.Format.double.units first) (Binary.Format.double.units second)

/-- The greatest power of ten by which a magnitude is scaled in one step. -/
def greatestPower : Nat := 308

/-- Divides a magnitude by a power of ten, in steps of the greatest power. -/
def scaleDown (code : Nat) (power : Nat) : Nat :=
  if power ≤ greatestPower then quotient code (powerCode power)
  else if code = 0 then 0
  else scaleDown (quotient code (powerCode greatestPower)) (power - greatestPower)
termination_by power
decreasing_by simp only [greatestPower] at *; omega

/-- Multiplies a magnitude by a power of ten; the result has to be finite. -/
def scaleUp? (code : Nat) (power : Nat) : Option Magnitude :=
  if power ≤ greatestPower then finite? (times code (powerCode power))
  else if code = 0 then finite? 0
  else none

/-- The magnitude of a significand and a power of ten. -/
def scale? (significand : Nat) (exponent : Int) : Option Magnitude :=
  let code := Binary.Format.double.nearest significand 1
  match exponent with
  | .ofNat power => scaleUp? code power
  | .negSucc power => finite? (scaleDown code (power + 1))

/-- The number that the numeral is read as; there is none if it is too large for a double. -/
def content? (numeral : Numeral) : Option Decoding.Content :=
  let (leading, surplus) := accumulate 0 numeral.whole
  if numeral.fraction.isEmpty && numeral.exponent.isNone && surplus = 0 &&
      (!numeral.negative || (0 < leading && leading ≤ 0x8000000000000000)) then
    some (.integer (Decimal.signed numeral.negative leading))
  else
    let (significand, unread) := accumulate leading numeral.fraction
    let places : Int := (numeral.fraction.length : Int) - unread
    let exponent := surplus - places + numeral.exponent.getD 0
    (scale? significand exponent).map fun code => .float (.finite numeral.negative code)

end Numeral

end FilterQuery.Json
