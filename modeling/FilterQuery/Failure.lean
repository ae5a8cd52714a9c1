import FilterQuery.Clause.Line
import FilterQuery.Decoding.Message

namespace FilterQuery

/-- Why no way leads along a path. -/
inductive Obstacle where
  | missing
  | notDirectory
  | longName
  | zeroCharacter
deriving DecidableEq

def Obstacle.message : Obstacle → String
  | .missing => "No such file or directory (os error 2)"
  | .notDirectory => "Not a directory (os error 20)"
  | .longName => "File name too long (os error 36)"
  | .zeroCharacter => "file name contained an unexpected NUL byte"

inductive FileFailure where
  | unreachable (path : String) (obstacle : Obstacle)
  | directory (path : String)
  | notText (path : String)
  | other (description : String)
deriving DecidableEq

def FileFailure.message : FileFailure → String
  | .unreachable path obstacle => "failed to open file `" ++ path ++ "`: " ++ obstacle.message
  | .directory path => "failed to read from file `" ++ path ++ "`: Is a directory (os error 21)"
  | .notText path =>
      "failed to read from file `" ++ path ++ "`: stream did not contain valid UTF-8"
  | .other description => description

inductive Failure where
  | inapplicable (cause : Inapplicable)
  | unknownOperator (spelling : String)
  | invalidClause (line : String)
  | file (cause : FileFailure)
  | decoding (markup : Decoding.Markup) (cause : Decoding.Error)
deriving DecidableEq

namespace Failure

/-- The message of the failure that lies behind this one, if there is one. A reader of data may know
the position where it stands. -/
def source? (reader : Option Decoding.Position) : Failure → Option String
  | .inapplicable _ | .unknownOperator _ | .invalidClause _ => none
  | .file cause => some cause.message
  | .decoding markup cause => some (cause.notice markup reader).shown

/-- The message of a failure. A reader of data may know the position where it stands. -/
def messageAt (reader : Option Decoding.Position) : Failure → String
  | .inapplicable cause =>
      "Invalid operator: " ++ cause.operator.token ++ " for type " ++ cause.kind.name
  | .unknownOperator spelling => "Unknown operator: " ++ spelling
  | .invalidClause line =>
      "Expected format: `attribute op value` (with optional spaces around the op), found " ++ line
  | .file cause => "IO error: " ++ cause.message
  | .decoding .json cause => "JSON error: " ++ (cause.notice .json reader).shown
  | .decoding .yaml cause => "YAML error: " ++ (cause.notice .yaml reader).shown

/-- The message of a failure that is found at no known position. -/
def message (failure : Failure) : String := failure.messageAt none

end Failure

/-- Reads an operator from one of its spellings. -/
def Operator.read (text : String) : Except Failure Operator :=
  match Operator.read? text with
  | some operator => .ok operator
  | none => .error (.unknownOperator text)

def Clause.ofLine (line : String) : Except Failure Clause :=
  match Clause.ofLine? line.toList with
  | some clause => .ok clause
  | none => .error (.invalidClause line)

end FilterQuery
