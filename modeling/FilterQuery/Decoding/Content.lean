import FilterQuery.Decoding.Fault

namespace FilterQuery.Decoding

/-- Self-describing data. Integers have at most 64 bits. -/
inductive Content where
  | null
  | boolean (value : Bool)
  | integer (value : Int)
  | float (value : Double)
  | text (content : String)
  | sequence (items : List Content)
  | mapping (members : List (Content × Content))

namespace Content

/-- What a reader finds in the content. -/
def found : Content → Found
  | .null => .null
  | .boolean value => .boolean value
  | .integer value => .integer value
  | .float value => .float value
  | .text content => .text content
  | .sequence _ => .sequence
  | .mapping _ => .mapping

def text? : Content → Except Fault String
  | .text content => .ok content
  | content => .error (.wrongType content.found .text)

def operator? (content : Content) : Except Fault Operator := do
  let spelling ← content.text?
  match Operator.read? spelling with
  | some operator => .ok operator
  | none => .error (.unknownOperator spelling)

/-- Reads a value. Integers that 64 bits with a sign do not hold become doubles. -/
def value? : Content → Except Fault Value
  | .null => .ok .absent
  | .boolean value => .ok (.boolean value)
  | .integer value => .ok (.number (.ofInt value))
  | .float value => .ok (.number (.float value))
  | .text content => .ok (.text content)
  | .sequence _ | .mapping _ => .error .notScalar

/-- Reads the values of a list in order, up to the first fault. -/
def valuesOf : List Content → Except Fault (List Value)
  | [] => .ok []
  | item :: rest => do
      let value ← item.value?
      let values ← valuesOf rest
      .ok (value :: values)

def values? : Content → Except Fault (List Value)
  | .sequence items => valuesOf items
  | content => .error (.wrongType content.found .sequence)

end Content

end FilterQuery.Decoding
