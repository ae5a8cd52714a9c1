import FilterQuery.Text.Blank
import FilterQuery.Number

namespace FilterQuery

/-- A value as the caller supplies it. -/
inductive Value where
  | text (content : String)
  | number (value : Number)
  | boolean (value : Bool)
  | absent
deriving DecidableEq

instance : Inhabited Value := ⟨.absent⟩

inductive Kind where
  | string
  | number
  | boolean
deriving DecidableEq, Repr

def Kind.name : Kind → String
  | .string => "string"
  | .number => "number"
  | .boolean => "boolean"

/-- A value as a filter can hold it. -/
inductive Term where
  | quoted (content : String)
  | bare (content : String)
  | number (value : Number)
  | boolean (value : Bool)
deriving DecidableEq

namespace Term

/-- The kind of a term. Quoted and bare texts are of one kind. -/
def kind : Term → Kind
  | .quoted _ | .bare _ => .string
  | .number _ => .number
  | .boolean _ => .boolean

/-- The text of the term in a filter. A quoted text stands between quotes as it is. -/
def text : Term → List Char
  | .quoted content => '\x22' :: content.toList ++ ['\x22']
  | .bare content => content.toList
  | .number value => value.text
  | .boolean true => ['t', 'r', 'u', 'e']
  | .boolean false => ['f', 'a', 'l', 's', 'e']

end Term

/-- The term of a text: quoted if it holds a blank, a number if it reads as one, and bare
otherwise. An empty text has none. -/
def Term.ofText? (content : String) : Option Term :=
  if content.isEmpty then none
  else if content.toList.any Text.isBlank then some (.quoted content)
  else
    match Number.read? content.toList with
    | some value => some (.number value)
    | none => some (.bare content)

/-- The term of a value. Absent values, empty texts and numbers that are not finite have none. -/
def Value.term? : Value → Option Term
  | .text content => Term.ofText? content
  | .number value => if value.isFinite then some (.number value) else none
  | .boolean value => some (.boolean value)
  | .absent => none

/-- The types whose values convert to the value of a condition. -/
class ToValue (α : Type) where
  toValue : α → Value

export ToValue (toValue)

instance : ToValue Value := ⟨id⟩
instance : ToValue String := ⟨.text⟩
instance : ToValue Bool := ⟨.boolean⟩
instance {α : Type} [ToNumber α] : ToValue α := ⟨fun value => .number (toNumber value)⟩

instance {α : Type} [ToValue α] : ToValue (Option α) where
  toValue
    | some value => toValue value
    | none => .absent

end FilterQuery
