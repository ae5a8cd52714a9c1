import FilterQuery.CommandLine.Arguments
import FilterQuery.File

namespace FilterQuery.CommandLine

inductive RunError where
  | file (path : String) (cause : Failure)
  | inapplicable (cause : Inapplicable)

def RunError.message : RunError → String
  | .file path _ => "Failed to load filter document " ++ path
  | .inapplicable cause => (Failure.inapplicable cause).message

/-- What a run prints, the error that it reports, and its exit code. -/
structure Report where
  exitCode : UInt32
  output : String
  error : Option String
deriving DecidableEq

/-- The text without one carriage return at its end. -/
def dropReturn (text : List Char) : List Char :=
  if text.getLast? == some '\r' then text.dropLast else text

/-- The first line of a text. A carriage return in front of the line feed belongs to the break. -/
def firstLine (text : String) : String :=
  String.ofList (dropReturn (text.toList.takeWhile (· != '\n')))

/-- The text about an error in the use of the command line, for a terminal. -/
def usageText (cause : UsageError) : String :=
  Text.Terminal.bold "error:" ++ " " ++ cause.message ++ "\n\nFor more information, try '" ++
    Text.Terminal.bold "--help" ++ "'.\n"

/-- The error that is reported for an error in the use of the command line: the first line of its
text, of which only what a terminal shows is kept. -/
def usageReport (cause : UsageError) : String :=
  firstLine (String.ofList (Text.Terminal.shown (usageText cause).toList))

/-- The text that names the program and its version. -/
def versionText : String := "search-filter 0.1.0\n"

namespace Arguments

/-- The query with some clauses, none of which may be refused. -/
def extend (query : Query) (clauses : List Clause) : Except RunError Query :=
  let attempt := Clause.applyAll query clauses
  match attempt.failure with
  | none => .ok attempt.query
  | some cause => .error (.inapplicable cause)

/-- The query with the clauses of the file, if one is named. -/
def start (lookup : String → File.Entry) (arguments : Arguments) : Except RunError Query :=
  match arguments.file with
  | none => .ok .empty
  | some path =>
      match Document.load lookup path with
      | .ok document => extend .empty document.clauses
      | .error cause => .error (.file path cause)

/-- The filter that the arguments ask for: the clauses of the file come first. -/
def filter (lookup : String → File.Entry) (arguments : Arguments) : Except RunError String := do
  let query ← arguments.start lookup
  let query ← extend query arguments.clauses
  .ok query.filter

end Arguments

def run (lookup : String → File.Entry) (arguments : List String) : Report :=
  match Arguments.empty.readAll arguments with
  | .error .version => ⟨0, versionText, none⟩
  | .error .help => ⟨0, "", none⟩
  | .error .nothingAsked => ⟨2, "", none⟩
  | .error (.usage cause) => ⟨2, "", some (usageReport cause)⟩
  | .ok arguments =>
      match arguments.filter lookup with
      | .ok filter => ⟨0, filter ++ "\n", none⟩
      | .error cause => ⟨1, "", some (firstLine ("Error: " ++ cause.message))⟩

end FilterQuery.CommandLine
