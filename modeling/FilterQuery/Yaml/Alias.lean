import FilterQuery.Yaml.Node

/-!
Aliases: which node each alias stands for. Names are bound to numbered slots in the order of the
text. A name that is bound again takes the slot after those of all names known so far, so two names
may come to share a slot; a slot holds the last node that was put into it.
-/

namespace FilterQuery.Yaml

/-- A node whose aliases are slots. -/
inductive Linked where
  | scalar (slot : Option Nat) (tag : Option Tag) (text : String) (plain : Bool)
  | sequence (slot : Option Nat) (tag : Option Tag) (items : List Linked)
  | mapping (slot : Option Nat) (tag : Option Tag) (members : List (Linked × Linked))
  | alias (slot : Nat)

/-- The slots of the names bound so far. -/
abbrev Bindings := List (List Char × Nat)

namespace Bindings

def slot? (bindings : Bindings) (name : List Char) : Option Nat :=
  (bindings.find? fun entry => entry.1 == name).map (·.2)

/-- Binds a name to the slot after those of all names known so far. -/
def bind (bindings : Bindings) : Option (List Char) → Bindings × Option Nat
  | none => (bindings, none)
  | some name =>
      let slot := bindings.length
      ((name, slot) :: bindings.filter fun entry => entry.1 != name, some slot)

end Bindings

namespace Node

mutual

/-- Links the aliases in a node; each has to name a node that started before it. -/
def link? (bindings : Bindings) : Node → Option (Linked × Bindings)
  | .scalar properties text plain =>
      let (bindings, slot) := bindings.bind properties.anchor
      some (.scalar slot properties.tag (String.ofList text) plain, bindings)
  | .sequence properties items => do
      let (bindings, slot) := bindings.bind properties.anchor
      let (items, bindings) ← linkItems? bindings items
      some (.sequence slot properties.tag items, bindings)
  | .mapping properties members => do
      let (bindings, slot) := bindings.bind properties.anchor
      let (members, bindings) ← linkMembers? bindings members
      some (.mapping slot properties.tag members, bindings)
  | .alias name => do
      let slot ← bindings.slot? name
      some (.alias slot, bindings)

def linkItems? (bindings : Bindings) : List Node → Option (List Linked × Bindings)
  | [] => some ([], bindings)
  | item :: rest => do
      let (item, bindings) ← link? bindings item
      let (items, bindings) ← linkItems? bindings rest
      some (item :: items, bindings)

def linkMembers? (bindings : Bindings) :
    List (Node × Node) → Option (List (Linked × Linked) × Bindings)
  | [] => some ([], bindings)
  | (key, value) :: rest => do
      let (key, bindings) ← link? bindings key
      let (value, bindings) ← link? bindings value
      let (members, bindings) ← linkMembers? bindings rest
      some ((key, value) :: members, bindings)

end

end Node

namespace Linked

/-- The node with its slot, if it has one. -/
def own (slot : Option Nat) (node : Linked) : List (Nat × Linked) :=
  match slot with
  | some slot => [(slot, node)]
  | none => []

mutual

/-- The nodes that have a slot, in the order of the text. -/
def slotted : Linked → List (Nat × Linked)
  | .scalar slot tag text plain => own slot (.scalar slot tag text plain)
  | .sequence slot tag items => own slot (.sequence slot tag items) ++ slottedItems items
  | .mapping slot tag members => own slot (.mapping slot tag members) ++ slottedMembers members
  | .alias _ => []

def slottedItems : List Linked → List (Nat × Linked)
  | [] => []
  | item :: rest => item.slotted ++ slottedItems rest

def slottedMembers : List (Linked × Linked) → List (Nat × Linked)
  | [] => []
  | (key, value) :: rest => key.slotted ++ value.slotted ++ slottedMembers rest

end

mutual

/-- The number of scalars and aliases, and of starts and ends of collections. -/
def size : Linked → Nat
  | .scalar .. => 1
  | .sequence _ _ items => 2 + sizeOfItems items
  | .mapping _ _ members => 2 + sizeOfMembers members
  | .alias _ => 1

def sizeOfItems : List Linked → Nat
  | [] => 0
  | item :: rest => item.size + sizeOfItems rest

def sizeOfMembers : List (Linked × Linked) → Nat
  | [] => 0
  | (key, value) :: rest => key.size + value.size + sizeOfMembers rest

end

end Linked

/-- The data of a text: its node, if it has one, the nodes in the slots, and how often aliases may
be followed in all. -/
structure Source where
  root : Option Linked
  slots : List (Nat × Linked)
  aliasLimit : Nat

namespace Source

/-- The node in a slot: the last one that was put into it. -/
def node? (source : Source) (slot : Nat) : Option Linked :=
  (source.slots.reverse.find? fun entry => entry.1 == slot).map (·.2)

/-- The data of a node. Aliases may be followed a hundred times as often as the text has parts. -/
def ofLinked (node : Linked) : Source := ⟨some node, node.slotted, 100 * node.size⟩

/-- The data of a text, unless it is malformed. -/
def read? (text : List Char) : Option Source := do
  match ← Yaml.node? text with
  | none => some ⟨none, [], 0⟩
  | some node => do
      let (linked, _) ← node.link? []
      some (ofLinked linked)

end Source

end FilterQuery.Yaml
