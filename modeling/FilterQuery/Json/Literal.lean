import FilterQuery.Text.Hexadecimal

namespace FilterQuery.Json

/-- A part of a quoted text: a character, or an escape of a sixteen-bit unit by its number. -/
inductive Piece where
  | char (c : Char)
  | unit (n : Nat)
deriving DecidableEq

def hexUnit? (first second third fourth : Char) : Option Nat :=
  Text.valueInBase? 16 [first, second, third, fourth]

/-- The character that an escape of one letter denotes. -/
def escaped? (letter : Char) : Option Char :=
  if letter == '\x22' || letter == '\x5c' || letter == '/' then some letter
  else if letter == 'b' then some '\x08'
  else if letter == 'f' then some '\x0c'
  else if letter == 'n' then some '\n'
  else if letter == 'r' then some '\r'
  else if letter == 't' then some '\t'
  else none

/-- The pieces up to the closing quote, and the text behind it. Controls have to be escaped. -/
def pieces? : List Char → Option (List Piece × List Char)
  | [] => none
  | '\x22' :: rest => some ([], rest)
  | '\x5c' :: 'u' :: a :: b :: c :: d :: rest => do
      let unit ← hexUnit? a b c d
      let (pieces, rest) ← pieces? rest
      some (.unit unit :: pieces, rest)
  | '\x5c' :: letter :: rest => do
      let c ← escaped? letter
      let (pieces, rest) ← pieces? rest
      some (.char c :: pieces, rest)
  | c :: rest => do
      if c.toNat < 0x20 || c == '\x5c' then none
      else
        let (pieces, rest) ← pieces? rest
        some (.char c :: pieces, rest)

/-- The unit starts a pair of surrogates. -/
def isHigh (n : Nat) : Bool := 0xD800 ≤ n && n < 0xDC00

/-- The unit ends a pair of surrogates. -/
def isLow (n : Nat) : Bool := 0xDC00 ≤ n && n < 0xE000

/-- The characters of the pieces. A surrogate without its partner denotes no character. -/
def joined? : List Piece → Option (List Char)
  | [] => some []
  | .char c :: rest => (joined? rest).map (c :: ·)
  | .unit high :: .unit low :: rest =>
      if isHigh high && isLow low then
        (joined? rest).map (.ofNat (0x10000 + (high - 0xD800) * 0x400 + (low - 0xDC00)) :: ·)
      else if isHigh high || isLow high then none
      else (joined? (.unit low :: rest)).map (.ofNat high :: ·)
  | .unit n :: rest =>
      if isHigh n || isLow n then none else (joined? rest).map (.ofNat n :: ·)

end FilterQuery.Json
