import FilterQuery.Decoding.Markup

namespace FilterQuery

namespace File

inductive Entry where
  | unreachable (obstacle : Obstacle)
  | directory
  | content (bytes : ByteArray)

/-- The parts of a path between its separators. -/
def split : List Char → List (List Char)
  | [] => [[]]
  | c :: rest =>
      if c == '/' then [] :: split rest
      else
        match split rest with
        | [] => [[c]]
        | part :: parts => (c :: part) :: parts

/-- The components of a path: its parts, without empty ones and those that stay in place. -/
def components (path : String) : List (List Char) :=
  (split path.toList).filter fun part => !part.isEmpty && part != ['.']

/-- The last component of a path, if it names an entry of a directory. -/
def name? (path : String) : Option (List Char) :=
  (components path).getLast?.filter fun name => name != ['.', '.']

/-- The part of a name behind its last full stop; a full stop at the start of the name does not
count. -/
def ending? (name : List Char) : Option (List Char) :=
  let reversed := name.reverse
  let ending := reversed.takeWhile (· != '.')
  if reversed.length ≤ ending.length + 1 then none else some ending.reverse

/-- The notation of the document at a path. -/
def markup (path : String) : Decoding.Markup :=
  match (name? path).bind ending? with
  | some ending => if ending.map Char.toLower == "json".toList then .json else .yaml
  | none => .yaml

def text (lookup : String → Entry) (path : String) : Except FileFailure String :=
  match lookup path with
  | .unreachable obstacle => .error (.unreachable path obstacle)
  | .directory => .error (.directory path)
  | .content bytes =>
      match String.fromUTF8? bytes with
      | some text => .ok text
      | none => .error (.notText path)

abbrev Files := List (String × Entry)

/-- A place: one that names lead to from the working directory, or a directory outside of it. -/
inductive Location where
  | below (names : List (List Char))
  | outside

/-- What stands at a place among some entries. The directories around an entry stand there too. -/
def Files.entryAt (files : Files) : Location → Entry
  | .outside => .directory
  | .below names =>
      match files.find? fun file => components file.1 == names with
      | some file => file.2
      | none =>
          if names.isEmpty || files.any (fun file => names.isPrefixOf (components file.1)) then
            .directory
          else .unreachable .missing

def Location.parent : Location → Location
  | .below [] | .outside => .outside
  | .below names => .below names.dropLast

/-- The place that a name leads to. The entries have no names outside of the working directory. -/
def Location.child (name : List Char) : Location → Except Obstacle Location
  | .below names => .ok (.below (names ++ [name]))
  | .outside => .error .missing

def nameLimit : Nat := 255

def pathLimit : Nat := 4095

/-- The place to which a part of a path leads; it leads on from a directory only. -/
def Files.step (files : Files) (location : Location) (part : List Char) :
    Except Obstacle Location :=
  match files.entryAt location with
  | .unreachable obstacle => .error obstacle
  | .content _ => .error .notDirectory
  | .directory =>
      if part.isEmpty || part == ['.'] then .ok location
      else if part == ['.', '.'] then .ok location.parent
      else if nameLimit < (String.ofList part).utf8ByteSize then .error .longName
      else location.child part

/-- The place where a path starts. -/
def startOf (path : String) : Location :=
  if path.toList.head? == some '/' then .outside else .below []

def Files.locate (files : Files) (path : String) : Except Obstacle Location :=
  if path.toList.contains '\x00' then .error .zeroCharacter
  else if path.isEmpty then .error .missing
  else if pathLimit < path.utf8ByteSize then .error .longName
  else (split path.toList).foldlM files.step (startOf path)

/-- What stands at a path among some entries. -/
def Files.lookup (files : Files) (path : String) : Entry :=
  match files.locate path with
  | .ok location => files.entryAt location
  | .error obstacle => .unreachable obstacle

end File

/-- Loads the document at a path. The text is read before it is decoded. -/
def Document.load (lookup : String → File.Entry) (path : String) : Except Failure Document :=
  match File.text lookup path with
  | .error cause => .error (.file cause)
  | .ok text => (File.markup path).document text

end FilterQuery
