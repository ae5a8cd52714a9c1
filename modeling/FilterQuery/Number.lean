import FilterQuery.Decimal.Literal
import FilterQuery.Decimal.Shortest
import FilterQuery.Decimal.Layout

namespace FilterQuery

inductive Number where
  | int (value : Int64)
  | float (value : Double)
deriving DecidableEq

namespace Number

/-- The integers that fit 64 bits with a sign. -/
def inRange (value : Int) : Bool :=
  -0x8000000000000000 ≤ value && value < 0x8000000000000000

def isFinite : Number → Bool
  | .int _ => true
  | .float value => value.isFinite

/-- Reads a number. A numeral within 64 bits gives an integer, any other finite literal the nearest
double; names of non-finite values and literals that are too large give nothing. -/
def read? (text : List Char) : Option Number :=
  match (Decimal.readInteger? text).filter inRange with
  | some value => some (.int (.ofInt value))
  | none => ((Binary.read? text).filter Binary.isFinite).map .float

/-- A magnitude is written with positional digits if its first digit stands from the sixth place
behind the point up to the twenty-first before it. -/
def isPositional (decimal : Decimal) : Bool :=
  -6 ≤ decimal.leadingExponent && decimal.leadingExponent ≤ 20

/-- The text of a finite magnitude: the shortest digits, the greater of two equally near ones. -/
def magnitudeText (code : Nat) : List Char :=
  let decimal := Decimal.shortest .greater .double code
  if isPositional decimal then decimal.positional else decimal.scientific true

/-- The text of a double; zero has no sign. -/
def doubleText : Double → List Char
  | .nan => ['N', 'a', 'N']
  | .infinite negative => (if negative then ['-'] else []) ++ ['i', 'n', 'f']
  | .finite negative code =>
      if code.val = 0 then ['0']
      else (if negative then ['-'] else []) ++ magnitudeText code.val

def text : Number → List Char
  | .int value => Decimal.integerDigits value.toInt
  | .float value => doubleText value

/-- The number nearest to an integer: the integer itself where 64 bits hold it. -/
def ofInt (value : Int) : Number :=
  if inRange value then .int (.ofInt value)
  else .float (.ofRatio (value < 0) value.natAbs 1)

/-- The number written by the shortest digits of a single. -/
def ofSingle : Single → Number
  | .nan => .float .nan
  | .infinite negative => .float (.infinite negative)
  | .finite negative code =>
      if code.val = 0 then .float (.ofCode negative 0)
      else
        let decimal := Decimal.shortest .greater .single code.val
        .float (.ofDecimal negative decimal.significand decimal.exponent)

end Number

/-- The types whose values convert to a number. -/
class ToNumber (α : Type) where
  toNumber : α → Number

export ToNumber (toNumber)

instance : ToNumber Number := ⟨id⟩
instance : ToNumber Int8 := ⟨fun value => .int value.toInt64⟩
instance : ToNumber Int16 := ⟨fun value => .int value.toInt64⟩
instance : ToNumber Int32 := ⟨fun value => .int value.toInt64⟩
instance : ToNumber Int64 := ⟨.int⟩
instance : ToNumber UInt8 := ⟨fun value => .int (.ofNat value.toNat)⟩
instance : ToNumber UInt16 := ⟨fun value => .int (.ofNat value.toNat)⟩
instance : ToNumber UInt32 := ⟨fun value => .int (.ofNat value.toNat)⟩
instance : ToNumber UInt64 := ⟨fun value => .ofInt value.toNat⟩
instance : ToNumber USize := ⟨fun value => toNumber value.toUInt64⟩
instance : ToNumber Single := ⟨.ofSingle⟩
instance : ToNumber Double := ⟨.float⟩

end FilterQuery
