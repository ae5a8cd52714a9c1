import FilterQuery.Failure
import FilterQuery.Json.Decoding
import FilterQuery.Yaml.Decoding

namespace FilterQuery.Decoding.Markup

/-- Names the notation in an error. -/
def report {α : Type} (markup : Markup) : Except Error α → Except Failure α
  | .ok value => .ok value
  | .error cause => .error (.decoding markup cause)

def value (markup : Markup) (text : String) : Except Failure Value :=
  markup.report <|
    match markup with
    | .json => Json.decodeValue text.toList
    | .yaml => Yaml.decodeValue text.toList

def operator (markup : Markup) (text : String) : Except Failure Operator :=
  markup.report <|
    match markup with
    | .json => Json.decodeOperator text.toList
    | .yaml => Yaml.decodeOperator text.toList

def clause (markup : Markup) (text : String) : Except Failure Clause :=
  markup.report <|
    match markup with
    | .json => Json.decodeClause text.toList
    | .yaml => Yaml.decodeClause text.toList

def document (markup : Markup) (text : String) : Except Failure Document :=
  markup.report <|
    match markup with
    | .json => Json.decodeDocument text.toList
    | .yaml => Yaml.decodeDocument text.toList

end FilterQuery.Decoding.Markup
