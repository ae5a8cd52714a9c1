import FilterQuery.Yaml.Property

namespace FilterQuery.Yaml

structure Properties where
  anchor : Option (List Char)
  tag : Option Tag
deriving DecidableEq

def Properties.none : Properties := ⟨Option.none, Option.none⟩

inductive Node where
  | scalar (properties : Properties) (text : List Char) (plain : Bool)
  | sequence (properties : Properties) (items : List Node)
  | mapping (properties : Properties) (members : List (Node × Node))
  | alias (name : List Char)

/-- The node that stands where nothing is written. -/
def Node.empty : Node := .scalar .none [] true

/-- The meaning of a document's tag handles. -/
abbrev Handles := List (List Char × Tag)

namespace Handles

/-- The handles that need no declaration. -/
def standard : Handles := [
  (['!'], Tag.anonymous),
  (['!', '!'], Tag.standardStart)]

/-- The meaning of a written tag; a handle has to be known. -/
def resolve? (handles : Handles) (written : Tag.Written) : Option Tag :=
  if written.handle.isEmpty then some written.suffix
  else (handles.find? fun entry => entry.1 == written.handle).map (·.2 ++ written.suffix)

end Handles

end FilterQuery.Yaml
