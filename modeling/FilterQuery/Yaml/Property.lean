import FilterQuery.Yaml.Mark
import FilterQuery.Text.Hexadecimal

namespace FilterQuery.Yaml

/-- A character that may follow the name of an anchor or an alias. -/
def endsName (text : List Char) : Bool :=
  atSeparator text ||
    text.head?.any fun c =>
      c == '?' || c == ':' || c == ',' || c == ']' || c == '\x7d' || c == '%' || c == '@' ||
        c == '\x60'

/-- The name of an anchor or an alias behind its indicator. -/
def takeName? (text : List Char) : Option (List Char × List Char) :=
  let name := text.takeWhile isNameChar
  let rest := text.dropWhile isNameChar
  if name.isEmpty || !endsName rest then none else some (name, rest)

/-- A tag: the octets of its text. Percent signs can ask for octets that are no text. -/
abbrev Tag := List UInt8

namespace Tag

def ofText (text : List Char) : Tag := text.map fun c => UInt8.ofNat c.toNat

/-- The tag that has no name of its own. -/
def anonymous : Tag := ofText ['!']

/-- The start of the tags of the standard collection. -/
def standardStart : Tag := ofText "tag:yaml.org,2002:".toList

/-- The tag with a name in the standard collection. -/
def standard (name : String) : Tag := standardStart ++ ofText name.toList

/-- A tag of the application: it starts with an exclamation mark. -/
def isLocal (tag : Tag) : Bool := anonymous.isPrefixOf tag

def isText (tag : Tag) : Bool := (String.fromUTF8? ⟨tag.toArray⟩).isSome

/-- A part of a tag ends in front of the first octet that is zero. -/
def beforeZero (octets : List UInt8) : Tag := octets.takeWhile (· != 0)

/-- A character of a tag. Between angle brackets, commas and square brackets are allowed too. -/
def isTagChar (verbatim : Bool) (c : Char) : Bool :=
  isNameChar c || c == ';' || c == '/' || c == '?' || c == ':' || c == '@' || c == '&' ||
    c == '=' || c == '+' || c == '$' || c == '.' || c == '%' || c == '!' || c == '~' ||
    c == '*' || c == '\x27' || c == '(' || c == ')' ||
    (verbatim && (c == ',' || c == '[' || c == ']'))

/-- The octet that a percent sign and two hexadecimal digits denote. -/
def octet? : List Char → Option (UInt8 × List Char)
  | '%' :: first :: second :: rest =>
      (Text.valueInBase? 16 [first, second]).map fun octet => (UInt8.ofNat octet, rest)
  | _ => none

/-- The number of octets that continue a character, told by its first octet. -/
def continuations? (octet : UInt8) : Option Nat :=
  if octet < 0x80 then some 0
  else if 0xC0 ≤ octet && octet < 0xE0 then some 1
  else if 0xE0 ≤ octet && octet < 0xF0 then some 2
  else if 0xF0 ≤ octet && octet < 0xF8 then some 3
  else none

/-- So many octets that continue a character. -/
def moreOctets? : Nat → List Char → Option (List UInt8 × List Char)
  | 0, text => some ([], text)
  | count + 1, text => do
      let (octet, rest) ← octet? text
      if 0x80 ≤ octet && octet < 0xC0 then do
        let (more, rest) ← moreOctets? count rest
        some (octet :: more, rest)
      else none

/-- The octets of one character. Whether they denote a character is not asked. -/
def takeOctets? (text : List Char) : Option (List UInt8 × List Char) := do
  let (octet, rest) ← octet? text
  let count ← continuations? octet
  let (more, rest) ← moreOctets? count rest
  some (octet :: more, rest)

/-- The octets of a tag up to the first character that does not belong to it. -/
def takeOctetRow? (verbatim : Bool) : Nat → List Char → Option (List UInt8 × List Char)
  | 0, text => some ([], text)
  | fuel + 1, text =>
      match text with
      | [] => some ([], [])
      | c :: rest =>
          if c == '%' then do
            let (octets, rest) ← takeOctets? text
            let (more, rest) ← takeOctetRow? verbatim fuel rest
            some (octets ++ more, rest)
          else if isTagChar verbatim c then do
            let (more, rest) ← takeOctetRow? verbatim fuel rest
            some (ofText [c] ++ more, rest)
          else some ([], text)

/-- A part of a tag that is written with at least one octet. -/
def takePart? (verbatim : Bool) (text : List Char) : Option (Tag × List Char) := do
  let (octets, rest) ← takeOctetRow? verbatim text.length text
  if octets.isEmpty then none else some (beforeZero octets, rest)

/-- A tag as written: a handle, which is empty for a tag that is meant as it stands, and the rest. -/
structure Written where
  handle : List Char
  suffix : Tag
deriving DecidableEq

/-- The tag behind its indicator, which is included. -/
def take? : List Char → Option (Written × List Char)
  | '!' :: '<' :: rest => do
      let (suffix, rest) ← takePart? true rest
      match rest with
      | '>' :: rest => some (⟨[], suffix⟩, rest)
      | _ => none
  | '!' :: text =>
      let name := text.takeWhile isNameChar
      match text.dropWhile isNameChar with
      | '!' :: rest => do
          let (suffix, rest) ← takePart? false rest
          some (⟨'!' :: name ++ ['!'], suffix⟩, rest)
      | rest => do
          let (octets, rest) ← takeOctetRow? false rest.length rest
          let suffix := beforeZero (ofText name ++ octets)
          if suffix.isEmpty then some (⟨[], anonymous⟩, rest) else some (⟨['!'], suffix⟩, rest)
  | _ => none

end Tag

inductive Directive where
  | version (major minor : Nat)
  | handle (name : List Char) (meaning : Tag)
deriving DecidableEq

namespace Directive

/-- A number of a version: at most nine digits. -/
def takeNumber? (text : List Char) : Option (Nat × List Char) :=
  let digits := text.takeWhile Char.isDigit
  if digits.isEmpty || 9 < digits.length then none
  else some (Nat.ofDigitChars 10 digits 0, text.dropWhile Char.isDigit)

/-- The version that a directive gives. -/
def takeVersion? (text : List Char) : Option (Directive × List Char) := do
  let (major, rest) ← takeNumber? (text.dropWhile isGap)
  match rest with
  | '.' :: rest =>
      let (minor, rest) ← takeNumber? rest
      some (.version major minor, rest)
  | _ => none

/-- The handle at the start of a text: a name between exclamation marks, or one mark alone. -/
def takeHandle? : List Char → Option (List Char × List Char)
  | '!' :: text =>
      let name := text.takeWhile isNameChar
      match text.dropWhile isNameChar with
      | '!' :: rest => some ('!' :: name ++ ['!'], rest)
      | rest => if name.isEmpty then some (['!'], rest) else none
  | _ => none

/-- The handle that a directive declares, and its meaning. -/
def takeDeclaration? (text : List Char) : Option (Directive × List Char) := do
  let (name, rest) ← takeHandle? (text.dropWhile isGap)
  if rest.head?.any isGap then
    let (meaning, rest) ← Tag.takePart? true (rest.dropWhile isGap)
    if atSeparator rest then some (.handle name meaning, rest) else none
  else none

/-- The directive behind its indicator, and the rest of its line. -/
def take? (text : List Char) : Option (Directive × List Char) :=
  let name := text.takeWhile isNameChar
  let rest := text.dropWhile isNameChar
  if !atSeparator rest then none
  else if name == ['Y', 'A', 'M', 'L'] then takeVersion? rest
  else if name == ['T', 'A', 'G'] then takeDeclaration? rest
  else none

end Directive

end FilterQuery.Yaml
