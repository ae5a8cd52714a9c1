import FilterQuery.Clause.Basic

namespace FilterQuery.Decoding

inductive Markup where
  | json
  | yaml
deriving DecidableEq, Repr

/-- What a reader found. -/
inductive Found where
  | null
  | nothing
  | boolean (value : Bool)
  | integer (value : Int)
  | wideInteger (value : Int)
  | float (value : Double)
  | text (content : String)
  | sequence
  | mapping
  | tagged
deriving DecidableEq

/-- What a reader expected. -/
inductive Expected where
  | text
  | sequence
  | document
  | clause
  | kindName
  | fieldName
  | anything
  | boolean
  | integer
  | float
  | null
deriving DecidableEq, Repr

/-- A fault of well-formed data. -/
inductive Fault where
  | wrongType (found : Found) (expected : Expected)
  | unreadable (content : String) (expected : Expected)
  | missing (member : String)
  | repeated (member : String)
  | unknownKind (name : String)
  | tooShort (length : Nat) (kind : ClauseKind)
  | tooLong (length limit : Nat)
  | unknownOperator (spelling : String)
  | notScalar
  | unexpectedTag
  | endOfText
  | tooDeep
  | tooManyAliases
deriving DecidableEq

/-- A place in data: the whole, or an item or a member of a place. -/
inductive Place where
  | whole
  | item (parent : Place) (index : Nat)
  | member (parent : Place) (key : String)
  | unnamed (parent : Place)
deriving DecidableEq

/-- An error of decoding: the text is malformed, or its data has a fault at a place. -/
inductive Error where
  | malformed
  | fault (place : Place) (cause : Fault)
deriving DecidableEq

/-- The error with its fault at a place. -/
def Error.locate (place : Place) : Error → Error
  | .malformed => .malformed
  | .fault _ cause => .fault place cause

end FilterQuery.Decoding
