import FilterQuery.Proofs.Compact.Data
import FilterQuery.Proofs.Decoding.Members
import FilterQuery.Proofs.Number.Reading
import FilterQuery.Proofs.Query.Unambiguous

namespace FilterQuery.Compact

open Decoding (Content Member)

def memberName (member : Member) : Name where
  text := member.name
  printable := by cases member <;> decide
  short := by cases member <;> decide

/-- The name of the member that tells the kind of a clause. -/
def kindName : Name where
  text := Decoding.kindMember
  printable := by decide
  short := by decide

/-- The text that tells the kind of a clause. -/
def kindText (kind : ClauseKind) : Printable where
  text := kind.name
  printable := by cases kind <;> decide

/-- The data writes down a value. -/
inductive WritesValue : Value → Data → Prop where
  | text (content : Printable) : WritesValue (.text content.text) (.text content)
  | integer (value : Int64) : WritesValue (.number (.int value)) (.integer value)
  | boolean (value : Bool) : WritesValue (.boolean value) (.boolean value)
  | absent : WritesValue .absent .null

/-- The members write down a value; one that is absent may be left out. -/
inductive WritesLast : Value → List (Name × Data) → Prop where
  | present {value : Value} {data : Data} (written : WritesValue value data) :
      WritesLast value [(memberName .value, data)]
  | leftOut : WritesLast .absent []

/-- The members write down a clause, apart from its kind. The operator has any of its spellings. -/
inductive WritesFields : Clause → List (Name × Data) → Prop where
  | comparison (field spelling : Printable) {operator : Operator} {value : Value}
      {last : List (Name × Data)} (named : Operator.read? spelling.text = some operator)
      (written : WritesLast value last) :
      WritesFields (.comparison field.text operator value)
        ((memberName .field, .text field) :: (memberName .operator, .text spelling) :: last)
  | exclusion (field : Printable) {value : Value} {last : List (Name × Data)}
      (written : WritesLast value last) :
      WritesFields (.exclusion field.text value) ((memberName .field, .text field) :: last)
  | anyOf (field : Printable) {values : List Value} {items : List Data}
      (written : List.Forall₂ WritesValue values items) :
      WritesFields (.anyOf field.text values)
        [(memberName .field, .text field), (memberName .values, .list items)]
  | noneOf (field : Printable) {values : List Value} {items : List Data}
      (written : List.Forall₂ WritesValue values items) :
      WritesFields (.noneOf field.text values)
        [(memberName .field, .text field), (memberName .values, .list items)]

/-- The members write down a clause, in any order. -/
def WritesClause (clause : Clause) (members : List (Name × Data)) : Prop :=
  ∃ fields, WritesFields clause fields ∧
    members.Perm ((kindName, .text (kindText clause.kind)) :: fields)

/-- The value can be written: it is no double, and no text with other characters than those of
ASCII that are printable. -/
def isWritable : Value → Bool
  | .text content => content.toList.all isPrintable
  | .number (.int _) | .boolean _ | .absent => true
  | .number (.float _) => false

/-- The clause can be written: its field is printable, and its values can be written. -/
structure IsWritable (clause : Clause) : Prop where
  field : clause.field.toList.all isPrintable = true
  values : ∀ value ∈ clause.values, isWritable value = true

theorem exists_writesValue {value : Value} (writable : isWritable value = true) :
    ∃ data, WritesValue value data := by
  cases value with
  | text content => exact ⟨_, .text ⟨content, writable⟩⟩
  | boolean value => exact ⟨_, .boolean value⟩
  | absent => exact ⟨_, .absent⟩
  | number value =>
      cases value with
      | int value => exact ⟨_, .integer value⟩
      | float value => cases writable

/-- What can be written one by one can be written as a list. -/
theorem exists_forall₂ {α β : Type} {relation : α → β → Prop} {items : List α}
    (each : ∀ item ∈ items, ∃ other, relation item other) :
    ∃ others, List.Forall₂ relation items others := by
  induction items with
  | nil => exact ⟨[], .nil⟩
  | cons item items ih =>
      obtain ⟨⟨other, first⟩, more⟩ := List.forall_mem_cons.mp each
      obtain ⟨others, rest⟩ := ih more
      exact ⟨other :: others, .cons first rest⟩

/-- A clause with a printable field and values that can be written can be written. -/
theorem IsWritable.exists_writesClause {clause : Clause} (writable : IsWritable clause) :
    ∃ members, WritesClause clause members := by
  obtain ⟨field, values⟩ := writable
  have list := exists_forall₂ fun value inside => exists_writesValue (values value inside)
  cases clause with
  | comparison name operator value =>
      obtain ⟨data, written⟩ := exists_writesValue (values value (List.mem_singleton_self value))
      have token : operator.token.toList.all isPrintable = true := by cases operator <;> decide
      exact ⟨_, _, .comparison ⟨name, field⟩ ⟨operator.token, token⟩ operator.read?_token
        (.present written), .refl _⟩
  | exclusion name value =>
      obtain ⟨data, written⟩ := exists_writesValue (values value (List.mem_singleton_self value))
      exact ⟨_, _, .exclusion ⟨name, field⟩ (.present written), .refl _⟩
  | anyOf name values =>
      obtain ⟨items, written⟩ := list
      exact ⟨_, _, .anyOf ⟨name, field⟩ written, .refl _⟩
  | noneOf name values =>
      obtain ⟨items, written⟩ := list
      exact ⟨_, _, .noneOf ⟨name, field⟩ written, .refl _⟩

/-- A value is read from what it is written as. -/
theorem WritesValue.value?_content {value : Value} {data : Data} (written : WritesValue value data) :
    data.content.value? = .ok value := by
  cases written with
  | integer value =>
      have kept : Number.ofInt value.toInt = .int value := by
        rw [Number.ofInt, if_pos (Number.inRange_toInt value), Int64.ofInt_toInt]
      rw [Data.content, Content.value?, kept]
  | text | boolean | absent => rfl

theorem WritesValue.depth_eq {value : Value} {data : Data} (written : WritesValue value data) :
    data.depth = 0 := by
  cases written <;> rfl

section Values

variable {values : List Value} {items : List Data} (written : List.Forall₂ WritesValue values items)

include written

/-- Values are read from a list. -/
theorem valuesOf_contents : Content.valuesOf (Data.contents items) = .ok values := by
  induction written with
  | nil => rfl
  | cons first _ ih =>
      rw [Data.contents, Content.valuesOf, first.value?_content, ih]
      rfl

theorem depthOfItems_eq : Data.depthOfItems items = 0 := by
  induction written with
  | nil => rfl
  | cons first _ ih => rw [Data.depthOfItems, first.depth_eq, ih, Nat.max_self]

end Values

section Fields

variable {clause : Clause} {fields : List (Name × Data)}

/-- No other member tells the kind of a clause. -/
theorem WritesFields.forall_ne (written : WritesFields clause fields) :
    ∀ member ∈ fields, member.1.text ≠ Decoding.kindMember := by
  have other (member : Member) : (memberName member).text ≠ Decoding.kindMember := by
    cases member <;> decide
  have last {value : Value} {last : List (Name × Data)} (written : WritesLast value last) :
      ∀ member ∈ last, member.1.text ≠ Decoding.kindMember := by
    cases written with
    | present => exact List.forall_mem_singleton.mpr (other _)
    | leftOut => exact List.forall_mem_nil _
  cases written with
  | comparison _ _ _ written =>
      exact List.forall_mem_cons.mpr ⟨other _, List.forall_mem_cons.mpr ⟨other _, last written⟩⟩
  | exclusion _ written => exact List.forall_mem_cons.mpr ⟨other _, last written⟩
  | anyOf | noneOf =>
      exact List.forall_mem_cons.mpr ⟨other _, List.forall_mem_singleton.mpr (other _)⟩

/-- The values of a clause are nested in one list at most. -/
theorem WritesFields.depth_le (written : WritesFields clause fields) :
    ∀ member ∈ fields, member.2.depth ≤ 1 := by
  have last {value : Value} {last : List (Name × Data)} (written : WritesLast value last) :
      ∀ member ∈ last, member.2.depth ≤ 1 := by
    cases written with
    | present written => exact List.forall_mem_singleton.mpr (written.depth_eq ▸ Nat.zero_le 1)
    | leftOut => exact List.forall_mem_nil _
  have text (content : Printable) : (Data.text content).depth ≤ 1 := Nat.zero_le 1
  cases written with
  | comparison _ _ _ written =>
      exact List.forall_mem_cons.mpr ⟨text _, List.forall_mem_cons.mpr ⟨text _, last written⟩⟩
  | exclusion _ written => exact List.forall_mem_cons.mpr ⟨text _, last written⟩
  | anyOf _ written | noneOf _ written =>
      refine List.forall_mem_cons.mpr ⟨text _, List.forall_mem_singleton.mpr ?_⟩
      rw [Data.depth, depthOfItems_eq written]

/-- The members of a clause whose field has been read. -/
def withField (field : String) : Decoding.Members :=
  { Decoding.Members.empty with field := some field }

/-- The field of a clause is read first. -/
theorem readKeyed_field (kind : ClauseKind) (field : Printable) (rest : List (Name × Data)) :
    Decoding.readKeyed kind .empty
        (Data.memberContents ((memberName .field, .text field) :: rest)) =
      Decoding.readKeyed kind (withField field.text) (Data.memberContents rest) := by
  have inside : Member.field ∈ Decoding.membersOf kind := by cases kind <;> decide
  change Decoding.readKeyed kind .empty ((.text Member.field.name, .text field.text) :: _) = _
  rw [Decoding.readKeyed_cons inside rfl]
  rfl

/-- The operator of a comparison is read from any of its spellings. -/
theorem readKeyed_operator (field : String) {spelling : Printable} {operator : Operator}
    (named : Operator.read? spelling.text = some operator) (rest : List (Name × Data)) :
    Decoding.readKeyed .comparison (withField field)
        (Data.memberContents ((memberName .operator, .text spelling) :: rest)) =
      Decoding.readKeyed .comparison { withField field with operator := some operator }
        (Data.memberContents rest) := by
  have spelled : (Content.text spelling.text).operator? = .ok operator := by
    simp only [Content.operator?, Content.text?, bind, Except.bind, named]
  change Decoding.readKeyed .comparison (withField field)
    ((.text Member.operator.name, .text spelling.text) :: _) = _
  rw [Decoding.readKeyed_cons (by decide) rfl, Decoding.Members.read, spelled]
  rfl

/-- The last member is read; where it is left out, the absent value stands in. -/
theorem WritesLast.exists_readKeyed {value : Value} {last : List (Name × Data)}
    (written : WritesLast value last) {kind : ClauseKind}
    (inside : Member.value ∈ Decoding.membersOf kind) {members : Decoding.Members}
    (fresh : members.value = none) :
    ∃ value?, Decoding.readKeyed kind members (Data.memberContents last) =
      .ok { members with value := value? } ∧ value?.getD .absent = value := by
  cases written with
  | leftOut =>
      refine ⟨none, ?_, rfl⟩
      rw [← fresh]
      rfl
  | present written =>
      refine ⟨some value, ?_, rfl⟩
      have free : members.has .value = false := by rw [Decoding.Members.has, fresh]; rfl
      change Decoding.readKeyed kind members ((.text Member.value.name, _) :: []) = _
      rw [Decoding.readKeyed_cons inside free, Decoding.Members.read, written.value?_content]
      rfl

/-- The values of a clause are read. -/
theorem readKeyed_values {values : List Value} {items : List Data}
    (written : List.Forall₂ WritesValue values items) {kind : ClauseKind}
    (inside : Member.values ∈ Decoding.membersOf kind) (field : String) :
    Decoding.readKeyed kind (withField field)
        (Data.memberContents [(memberName .values, .list items)]) =
      .ok { withField field with values := some values } := by
  change Decoding.readKeyed kind (withField field)
    ((.text Member.values.name, .sequence (Data.contents items)) :: []) = _
  rw [Decoding.readKeyed_cons inside rfl, Decoding.Members.read, Content.values?,
    valuesOf_contents written]
  rfl

/-- A clause is made up of its members in the order of its kind. -/
theorem WritesFields.clauseOfKeyed (written : WritesFields clause fields) :
    Decoding.clauseOfKeyed clause.kind (Data.memberContents fields) = .ok clause := by
  cases written with
  | comparison field spelling named written =>
      rename_i operator value last
      let members : Decoding.Members := { withField field.text with operator := some operator }
      have inside : Member.value ∈ Decoding.membersOf .comparison := by decide
      have fresh : members.value = none := rfl
      obtain ⟨value?, read, rfl⟩ := written.exists_readKeyed inside fresh
      rw [Decoding.clauseOfKeyed, Clause.kind, readKeyed_field, readKeyed_operator _ named, read]
      rfl
  | exclusion field written =>
      have inside : Member.value ∈ Decoding.membersOf .exclusion := by decide
      have fresh : (withField field.text).value = none := rfl
      obtain ⟨value?, read, rfl⟩ := written.exists_readKeyed inside fresh
      rw [Decoding.clauseOfKeyed, Clause.kind, readKeyed_field, read]
      rfl
  | anyOf field written =>
      rw [Decoding.clauseOfKeyed, Clause.kind, readKeyed_field, readKeyed_values written (by decide)]
      rfl
  | noneOf field written =>
      rw [Decoding.clauseOfKeyed, Clause.kind, readKeyed_field, readKeyed_values written (by decide)]
      rfl

end Fields

namespace Data

theorem memberContents_eq_map (members : List (Name × Data)) :
    memberContents members = members.map fun member => (.text member.1.text, member.2.content) := by
  induction members with
  | nil => rfl
  | cons member members ih => rw [memberContents, ih, List.map_cons]

end Data

/-- A clause is told its kind once, and made up of the members around. -/
structure Splits (clause : Clause) (before after : List (Name × Data)) : Prop where
  others : ∀ member ∈ before ++ after, member.1.text ≠ Decoding.kindMember
  shallow : ∀ member ∈ before ++ after, member.2.depth ≤ 1
  clauseOfKeyed : Decoding.clauseOfKeyed clause.kind
    (Data.memberContents before ++ Data.memberContents after) = .ok clause

theorem Splits.depth_le {clause : Clause} {before after : List (Name × Data)}
    (split : Splits clause before after) (depth : Nat) :
    ∀ member ∈ before ++ after, member.2.depth ≤ depth + 1 :=
  fun member inside => (split.shallow member inside).trans (Nat.le_add_left 1 depth)

/-- The members of a clause stand around the one that tells the kind. -/
theorem WritesClause.exists_splits {clause : Clause} {members : List (Name × Data)}
    (written : WritesClause clause members) :
    ∃ before after, members = before ++ (kindName, .text (kindText clause.kind)) :: after ∧
      Splits clause before after := by
  obtain ⟨fields, written, perm⟩ := written
  have inside := perm.mem_iff.mpr List.mem_cons_self
  obtain ⟨before, after, rfl⟩ := List.append_of_mem inside
  -- Without the kind, the members are the fields in another order.
  have perm : (before ++ after).Perm fields := List.Perm.cons_inv (List.perm_middle.symm.trans perm)
  refine ⟨before, after, rfl, ?_, ?_, ?_⟩
  · exact fun member inside => written.forall_ne member (perm.mem_iff.mp inside)
  · exact fun member inside => written.depth_le member (perm.mem_iff.mp inside)
  · have same : (Data.memberContents before ++ Data.memberContents after).Perm
        (Data.memberContents fields) := by
      simp only [Data.memberContents_eq_map, ← List.map_append]
      exact perm.map _
    rw [eq_ok_iff_toOption, Decoding.toOption_clauseOfKeyed_perm _ same, written.clauseOfKeyed]
    rfl

end FilterQuery.Compact
