import FilterQuery.Decoding.Content

namespace FilterQuery.Decoding

inductive Member where
  | field
  | operator
  | value
  | values
deriving DecidableEq, Repr

def Member.name : Member → String
  | .field => "attribute"
  | .operator => "operator"
  | .value => "value"
  | .values => "values"

/-- The members of a kind of clauses in their order. -/
def membersOf : ClauseKind → List Member
  | .comparison => [.field, .operator, .value]
  | .exclusion => [.field, .value]
  | .anyOf | .noneOf => [.field, .values]

/-- The members read so far. -/
structure Members where
  field : Option String
  operator : Option Operator
  value : Option Value
  values : Option (List Value)

namespace Members

def empty : Members := ⟨none, none, none, none⟩

def has (members : Members) : Member → Bool
  | .field => members.field.isSome
  | .operator => members.operator.isSome
  | .value => members.value.isSome
  | .values => members.values.isSome

def read (members : Members) (content : Content) : Member → Except Fault Members
  | .field => content.text?.map fun name => { members with field := some name }
  | .operator => content.operator?.map fun operator => { members with operator := some operator }
  | .value => content.value?.map fun value => { members with value := some value }
  | .values => content.values?.map fun values => { members with values := some values }

/-- The clause of a kind with these members. The operator of equality and the absent value stand in
for an operator and a value that are missing. -/
def clause? (members : Members) (kind : ClauseKind) : Except Fault Clause :=
  match members.field with
  | none => .error (.missing Member.field.name)
  | some name =>
      let value := members.value.getD .absent
      match kind, members.values with
      | .comparison, _ => .ok (.comparison name (members.operator.getD .equal) value)
      | .exclusion, _ => .ok (.exclusion name value)
      | .anyOf, some values => .ok (.anyOf name values)
      | .noneOf, some values => .ok (.noneOf name values)
      | .anyOf, none | .noneOf, none => .error (.missing Member.values.name)

end Members

/-- The member that a key names, among the members of a kind: by its name or by its index. Keys of
other names or indices name no member. -/
def memberOf (kind : ClauseKind) : Content → Except Fault (Option Member)
  | .text name => .ok ((membersOf kind).find? fun member => member.name == name)
  | .integer (.ofNat index) => .ok (membersOf kind)[index]?
  | key => .error (.wrongType key.found .fieldName)

/-- Reads members with keys in order, up to the first fault. -/
def readKeyed (kind : ClauseKind) (members : Members) :
    List (Content × Content) → Except Fault Members
  | [] => .ok members
  | (key, content) :: rest => do
      match ← memberOf kind key with
      | none => readKeyed kind members rest
      | some member =>
          if members.has member then .error (.repeated member.name)
          else readKeyed kind (← members.read content member) rest

/-- Reads members without keys in the order of the kind, up to the first fault. What is missing
stays missing; the number of contents left over is the second answer. -/
def readListed (members : Members) : List Member → List Content → Except Fault (Members × Nat)
  | _, [] => .ok (members, 0)
  | [], contents => .ok (members, contents.length)
  | member :: rest, content :: contents => do
      readListed (← members.read content member) rest contents

/-- The clause of a kind with keyed members. -/
def clauseOfKeyed (kind : ClauseKind) (members : List (Content × Content)) :
    Except Fault Clause := do
  (← readKeyed kind .empty members).clause? kind

/-- The clause of a kind with listed members. -/
def clauseOfListed (kind : ClauseKind) (contents : List Content) : Except Fault Clause := do
  let (members, surplus) ← readListed .empty (membersOf kind) contents
  match members.clause? kind with
  | .error _ => .error (.tooShort contents.length kind)
  | .ok clause =>
      if surplus = 0 then .ok clause
      else .error (.tooLong contents.length (membersOf kind).length)

def kindOfText (name : String) : Except Fault ClauseKind :=
  match ClauseKind.ofName? name with
  | some kind => .ok kind
  | none => .error (.unknownKind name)

/-- The name of the member that tells the kind of a clause. -/
def kindMember : String := "kind"

/-- The name of the member that lists the clauses of a document. -/
def clausesMember : String := "conditions"

end FilterQuery.Decoding
