import FilterQuery.Decoding.Fault

namespace FilterQuery.Decoding

structure Position where
  line : Nat
  column : Nat
deriving DecidableEq

namespace Position

/-- The numbers of the position fit into 64 bits. -/
def fits (position : Position) : Bool :=
  position.line < 0x10000000000000000 && position.column < 0x10000000000000000

end Position

/-- Takes a number of at least one digit from the end of a reversed text. -/
def takeLastNumber? (reversed : List Char) : Option (Nat × List Char) :=
  let digits := reversed.takeWhile Char.isDigit
  if digits.isEmpty then none
  else some (Decimal.valueOf digits.reverse, reversed.dropWhile Char.isDigit)

/-- Takes a word from the end of a reversed text. -/
def takeLastWord? (word : String) (reversed : List Char) : Option (List Char) :=
  let letters := word.toList.reverse
  if letters.isPrefixOf reversed then some (reversed.drop letters.length) else none

/-- The text in front of a position at its end, and the position. -/
def splitPosition? (text : List Char) : Option (List Char × Position) := do
  let (column, reversed) ← takeLastNumber? text.reverse
  let reversed ← takeLastWord? " column " reversed
  let (line, reversed) ← takeLastNumber? reversed
  let reversed ← takeLastWord? " at line " reversed
  some (reversed.reverse, ⟨line, column⟩)

/-- The wording of a fault without a position in it, and this position. In JSON, a position at the
end of the wording is taken for that of the fault; line zero stands for none. -/
def Markup.takePosition (wording : List Char) : Markup → List Char × Option Position
  | .yaml => (wording, none)
  | .json =>
      match splitPosition? wording with
      | some (text, position) =>
          if position.fits then (text, if position.line = 0 then none else some position)
          else (wording, none)
      | none => (wording, none)

end FilterQuery.Decoding
