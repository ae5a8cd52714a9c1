/-!
The fragments of a filter: statements, the delimiters of groups, and the joiners between them. A
joiner is put in front of what is appended, except at the start of the filter or of a group.
-/

namespace FilterQuery

/-- A joiner connects two neighbours of a filter. -/
inductive Joiner where
  | and
  | or
deriving DecidableEq, Repr

/-- The text of a joiner, with a space on either side. -/
def Joiner.text : Joiner → List Char
  | .and => [' ', 'A', 'N', 'D', ' ']
  | .or => [' ', 'O', 'R', ' ']

inductive Fragment (α : Type) where
  | statement (content : α)
  | joint (joiner : Joiner)
  | opening
  | closing
deriving DecidableEq

/-- The text of a fragment, given the texts of the statements. -/
def Fragment.text {α : Type} (statementText : α → List Char) : Fragment α → List Char
  | .statement content => statementText content
  | .joint joiner => joiner.text
  | .opening => ['(']
  | .closing => [')']

abbrev Fragments (α : Type) := List (Fragment α)

namespace Fragments

variable {α : Type}

/-- The next fragment follows a neighbour that it has to be joined to. -/
def needsJoiner (fragments : Fragments α) : Bool :=
  match fragments.getLast? with
  | none | some .opening => false
  | some _ => true

/-- The fragments with one more, behind a joiner where one is needed. -/
def attach (fragments : Fragments α) (joiner : Joiner) (next : Fragment α) : Fragments α :=
  if fragments.needsJoiner then fragments ++ [.joint joiner, next] else fragments ++ [next]

/-- The fragments with a statement, if there is one. -/
def append (fragments : Fragments α) (joiner : Joiner) : Option α → Fragments α
  | some content => fragments.attach joiner (.statement content)
  | none => fragments

def openGroup (fragments : Fragments α) : Fragments α := fragments.attach .and .opening

def closeGroup (fragments : Fragments α) : Fragments α := fragments ++ [.closing]

def text (statementText : α → List Char) (fragments : Fragments α) : List Char :=
  fragments.flatMap (Fragment.text statementText)

@[simp] theorem append_none (fragments : Fragments α) (joiner : Joiner) :
    fragments.append joiner none = fragments := rfl

@[simp] theorem text_nil (statementText : α → List Char) :
    text statementText ([] : Fragments α) = [] := rfl

@[simp] theorem text_append (statementText : α → List Char) (first second : Fragments α) :
    text statementText (first ++ second) = text statementText first ++ text statementText second := by
  simp [text]

end Fragments

end FilterQuery
