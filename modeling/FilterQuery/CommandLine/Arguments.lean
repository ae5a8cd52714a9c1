import FilterQuery.Failure
import FilterQuery.Text.Terminal

namespace FilterQuery.CommandLine

open Text.Terminal (bold yellow)

inductive UsageError where
  | invalidClause (line : String) (cause : Failure)
  | clauseMissing
  | fileMissing
  | unexpectedArgument (argument : String)
  | unexpectedValue (value flag : String)
  | repeatedFlag (flag : String)

/-- The message of an error in the use of the command line, for a terminal: what was given is
yellow. -/
def UsageError.message : UsageError → String
  | .invalidClause line cause =>
      "invalid value '" ++ yellow line ++ "' for '" ++ bold "--where <CLAUSE>" ++ "': " ++
        cause.message
  | .clauseMissing =>
      "a value is required for '" ++ yellow "--where <CLAUSE>" ++ "' but none was supplied"
  | .fileMissing => "a value is required for '" ++ yellow "[FILE]" ++ "' but none was supplied"
  | .unexpectedArgument argument => "unexpected argument '" ++ yellow argument ++ "' found"
  | .unexpectedValue value flag =>
      "unexpected value '" ++ yellow value ++ "' for '" ++ bold flag ++
        "' found; no more were expected"
  | .repeatedFlag flag =>
      "the argument '" ++ yellow flag ++ "' cannot be used multiple times"

/-- Why the arguments are not read to their end. -/
inductive Halt where
  | version
  | help
  | nothingAsked
  | usage (cause : UsageError)

/-- An argument that has been seen and not yet been read. -/
inductive Pending where
  | nothing
  | clause (line : Option String)
  | file (path : String)

/-- The arguments read so far. -/
structure Arguments where
  file : Option String
  clauses : List Clause
  verbose : Bool
  pending : Pending
  onlyFiles : Bool

namespace Arguments

def empty : Arguments := ⟨none, [], false, .nothing, false⟩

/-- Nothing has been asked for. -/
def isEmpty (arguments : Arguments) : Bool :=
  arguments.file.isNone && arguments.clauses.isEmpty && !arguments.verbose

def addClause (arguments : Arguments) (line : String) : Except Halt Arguments :=
  match Clause.ofLine line with
  | .ok clause => .ok { arguments with clauses := arguments.clauses ++ [clause] }
  | .error cause => .error (.usage (.invalidClause line cause))

def settle (arguments : Arguments) : Except Halt Arguments :=
  let settled := { arguments with pending := .nothing }
  match arguments.pending with
  | .nothing => .ok arguments
  | .clause none => .error (.usage .clauseMissing)
  | .clause (some line) => settled.addClause line
  | .file path =>
      if path.isEmpty then .error (.usage .fileMissing) else .ok { settled with file := some path }

/-- Reads the flag that asks for more output. -/
def setVerbose (arguments : Arguments) : Except Halt Arguments := do
  let arguments ← arguments.settle
  if arguments.verbose then .error (.usage (.repeatedFlag "--verbose"))
  else .ok { arguments with verbose := true }

/-- Reads an argument that ends the run. -/
def halt (arguments : Arguments) (reason : Halt) : Except Halt Arguments := do
  let _ ← arguments.settle
  .error reason

/-- Reads an argument with a long name, and its value if one is attached. -/
def readLong (arguments : Arguments) (name : String) (value : Option String) :
    Except Halt Arguments :=
  if name == "where" then do
    let arguments ← arguments.settle
    match value with
    | some line => arguments.addClause line
    | none => .ok { arguments with pending := .clause none }
  else if name == "verbose" || name == "version" || name == "help" then
    match value with
    | some value => .error (.usage (.unexpectedValue value ("--" ++ name)))
    | none =>
        if name == "verbose" then arguments.setVerbose
        else arguments.halt (if name == "version" then .version else .help)
  else .error (.usage (.unexpectedArgument ("--" ++ name)))

/-- Reads the letters of an argument with short names. -/
def readShort (arguments : Arguments) : List Char → Except Halt Arguments
  | [] => .ok arguments
  | letter :: rest =>
      if letter == 'v' then do readShort (← arguments.setVerbose) rest
      else if letter == 'V' then arguments.halt .version
      else if letter == 'h' then arguments.halt .help
      else .error (.usage (.unexpectedArgument (String.ofList ['-', letter])))

def hasFile (arguments : Arguments) : Bool :=
  match arguments.pending with
  | .file _ => true
  | _ => arguments.file.isSome

/-- Reads an argument without a name: the file. -/
def readFile (arguments : Arguments) (argument : String) : Except Halt Arguments :=
  if arguments.hasFile then .error (.usage (.unexpectedArgument argument))
  else do
    let arguments ← arguments.settle
    .ok { arguments with pending := .file argument }

def awaitsClause (arguments : Arguments) : Bool :=
  match arguments.pending with
  | .clause none => true
  | _ => false

/-- The name and the attached value of an argument behind its two hyphens. -/
def splitValue (argument : List Char) : String × Option String :=
  let name := argument.takeWhile (· != '=')
  match argument.dropWhile (· != '=') with
  | [] => (String.ofList name, none)
  | _ :: value => (String.ofList name, some (String.ofList value))

/-- Reads one argument. Behind two hyphens alone, every argument is a file. -/
def read (arguments : Arguments) (argument : String) : Except Halt Arguments :=
  if arguments.onlyFiles then arguments.readFile argument
  else
    match argument.toList with
    | ['-', '-'] => .ok { arguments with onlyFiles := true }
    | '-' :: '-' :: rest =>
        let (name, value) := splitValue rest
        arguments.readLong name value
    | '-' :: letter :: rest => arguments.readShort (letter :: rest)
    | _ =>
        if arguments.awaitsClause then .ok { arguments with pending := .clause (some argument) }
        else arguments.readFile argument

def readAll (arguments : Arguments) : List String → Except Halt Arguments
  | [] => do
      let arguments ← arguments.settle
      if arguments.isEmpty then .error .nothingAsked else .ok arguments
  | argument :: rest => do readAll (← arguments.read argument) rest

end Arguments

end FilterQuery.CommandLine
