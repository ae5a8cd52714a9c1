import FilterQuery.Yaml.Property

namespace FilterQuery.Yaml

/-- A token. -/
inductive Token where
  | directive (content : Directive)
  | documentStart
  | documentEnd
  | blockSequence
  | blockMapping
  | blockEnd
  | flowSequence
  | flowSequenceEnd
  | flowMapping
  | flowMappingEnd
  | blockEntry
  | flowEntry
  | key
  | value
  | alias (name : List Char)
  | anchor (name : List Char)
  | tag (written : Tag.Written)
  | scalar (text : List Char) (plain : Bool)
deriving DecidableEq

end FilterQuery.Yaml
