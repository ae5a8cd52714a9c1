namespace FilterQuery.Text.Terminal

/-- A sequence, as far as it has been read: what follows the escape character, a control sequence,
a command to the system, the parts of a string for the device, or any other string. -/
inductive Sequence where
  | escape
  | intermediate
  | control
  | command
  | deviceStart
  | deviceParameter
  | deviceIntermediate
  | deviceString
  | otherString
deriving DecidableEq, Repr

/-- The code of the character lies between two codes, ends included. -/
def isBetween (first last : Nat) (c : Char) : Bool := first ≤ c.toNat && c.toNat ≤ last

/-- A blank control character. -/
def isBlankControl (c : Char) : Bool := c == '\t' || c == '\n' || c == '\x0c' || c == '\r'

/-- A character that is shown outside of sequences. -/
def isShown (c : Char) : Bool := isBetween 0x20 0x7E c || isBlankControl c || 0x80 ≤ c.toNat

/-- The octets of the character contain the octet that ends a string. -/
def endsString (c : Char) : Bool := (String.utf8EncodeChar c).contains 0x9C

namespace Sequence

/-- Blank control characters inside of the sequence are shown. -/
def showsBlanks : Sequence → Bool
  | .escape | .intermediate | .control => true
  | _ => false

/-- The sequence that the character behind an escape character starts, if it does not end it. -/
def afterEscape (c : Char) : Option Sequence :=
  if isBetween 0x20 0x2F c then some .intermediate
  else if c == '[' then some .control
  else if c == ']' then some .command
  else if c == 'P' then some .deviceStart
  else if c == 'X' || c == '^' || c == '_' then some .otherString
  else if isBetween 0x30 0x7E c then none
  else some .escape

/-- The sequence with one more character, if that does not end it. -/
def next (c : Char) : Sequence → Option Sequence
  | .escape => afterEscape c
  | .intermediate => if isBetween 0x30 0x7E c then none else some .intermediate
  | .control => if isBetween 0x40 0x7E c then none else some .control
  | .command => if c == '\x07' then none else some .command
  | .deviceStart =>
      if isBetween 0x20 0x2F c then some .deviceIntermediate
      else if isBetween 0x30 0x3F c then some .deviceParameter
      else if isBetween 0x40 0x7E c then some .deviceString
      else some .deviceStart
  | .deviceParameter =>
      if isBetween 0x20 0x2F c then some .deviceIntermediate
      else if isBetween 0x3C 0x7E c then some .deviceString
      else some .deviceParameter
  | .deviceIntermediate =>
      if isBetween 0x30 0x7E c then some .deviceString else some .deviceIntermediate
  | .deviceString => if endsString c then none else some .deviceString
  | .otherString => if endsString c then none else some .otherString

end Sequence

/-- The shown characters of a text inside of a sequence, if there is one. A blank that is shown
suspends the sequence up to the next character that is not shown; a character beyond ASCII then ends
it. An escape character starts a sequence everywhere, and two control characters end it. -/
def shownFrom (sequence : Option Sequence) (suspended : Bool) : List Char → List Char
  | [] => []
  | c :: rest =>
      if c == '\x1b' then shownFrom (some .escape) false rest
      else if c == '\x18' || c == '\x1a' then shownFrom none false rest
      else
        match sequence, suspended with
        | some sequence, false =>
            if sequence.showsBlanks && isBlankControl c then
              c :: shownFrom (some sequence) true rest
            else shownFrom (sequence.next c) false rest
        | sequence, _ =>
            if isShown c then c :: shownFrom (if 0x80 ≤ c.toNat then none else sequence) true rest
            else shownFrom sequence false rest

def shown (text : List Char) : List Char := shownFrom none false text

/-- The text behind a command that gives it a style and in front of one that ends all styles. -/
def styled (style text : String) : String := "\x1b[" ++ style ++ "m" ++ text ++ "\x1b[0m"

def bold (text : String) : String := styled "1" text

def yellow (text : String) : String := styled "33" text

end FilterQuery.Text.Terminal
