import FilterQuery.Text.Blank
import FilterQuery.Text.Lower

namespace FilterQuery

inductive Operator where
  | less
  | atMost
  | equal
  | notEqual
  | atLeast
  | greater
deriving DecidableEq, Repr

namespace Operator

def token : Operator → String
  | .less => "<"
  | .atMost => "<="
  | .equal => "="
  | .notEqual => "!="
  | .atLeast => ">="
  | .greater => ">"

/-- The operator asks for an order, which only numbers have. -/
def isOrdering : Operator → Bool
  | .less | .atMost | .atLeast | .greater => true
  | .equal | .notEqual => false

def all : List Operator := [.less, .atMost, .equal, .notEqual, .atLeast, .greater]

/-- The texts that name the operator, in lower case. -/
def spellings : Operator → List String
  | .less => ["<", "lt"]
  | .atMost => ["<=", "lte", "le"]
  | .equal => ["=", "==", "eq"]
  | .notEqual => ["!=", "<>", "ne", "neq"]
  | .atLeast => [">=", "gte", "ge"]
  | .greater => [">", "gt"]

/-- The text without blanks at its ends and in lower case. -/
def fold (text : String) : List Char := Text.lower (Text.trim text.toList)

/-- Reads an operator from one of its spellings, in any letter case and between blanks. -/
def read? (text : String) : Option Operator :=
  all.find? fun operator => operator.spellings.any fun spelling => spelling.toList == fold text

theorem mem_all (operator : Operator) : operator ∈ all := by
  cases operator <;> decide

/-- The token of an operator is one of its spellings. -/
theorem read?_token (operator : Operator) : read? operator.token = some operator := by
  cases operator <;> decide

end Operator

end FilterQuery
