import FilterQuery.Decoding.Members
import FilterQuery.Proofs.Outcome
import Mathlib.Data.List.Perm.Basic

namespace FilterQuery.Decoding

namespace Members

/-- The change that the content of a member makes to the members read so far. -/
def change? (content : Content) : Member → Option (Members → Members)
  | .field => content.text?.toOption.map fun name members => { members with field := some name }
  | .operator =>
      content.operator?.toOption.map fun operator members =>
        { members with operator := some operator }
  | .value => content.value?.toOption.map fun value members => { members with value := some value }
  | .values =>
      content.values?.toOption.map fun values members => { members with values := some values }

/-- A member is read by its change. -/
theorem toOption_read (members : Members) (content : Content) (member : Member) :
    (members.read content member).toOption =
      (change? content member).map fun change => change members := by
  cases member with
  | field => rw [read, change?]; cases content.text? <;> rfl
  | operator => rw [read, change?]; cases content.operator? <;> rfl
  | value => rw [read, change?]; cases content.value? <;> rfl
  | values => rw [read, change?]; cases content.values? <;> rfl

section Changes

variable {content : Content} {member : Member} {change : Members → Members}

/-- Behind its change, a member has been read, and no other member. -/
theorem has_change (found : change? content member = some change) (members : Members)
    (other : Member) : (change members).has other = (other == member || members.has other) := by
  cases member <;> obtain ⟨-, -, rfl⟩ := Option.map_eq_some_iff.mp found <;> cases other <;> rfl

/-- Changes by two members may be swapped. -/
theorem change_change {next : Content} {other : Member} {more : Members → Members}
    (distinct : member ≠ other) (found : change? content member = some change)
    (foundMore : change? next other = some more) (members : Members) :
    more (change members) = change (more members) := by
  cases member <;> cases other <;> first
    | exact absurd rfl distinct
    | obtain ⟨-, -, rfl⟩ := Option.map_eq_some_iff.mp found
      obtain ⟨-, -, rfl⟩ := Option.map_eq_some_iff.mp foundMore
      rfl

end Changes

/-- Reads a member that has not been read yet. -/
def readNew? (members : Members) (content : Content) (member : Member) : Option Members :=
  if members.has member then none
  else (change? content member).map fun change => change members

/-- Two members may be read in either order. -/
theorem readNew?_comm (members : Members) (content next : Content) (member other : Member) :
    ((members.readNew? content member).bind fun members => members.readNew? next other) =
      (members.readNew? next other).bind fun members => members.readNew? content member := by
  simp only [readNew?]
  cases found : change? content member with
  | none => cases members.has member <;> cases members.has other <;> cases change? next other <;> simp
  | some change =>
      cases foundNext : change? next other with
      | none => cases members.has member <;> cases members.has other <;> simp
      | some more =>
          by_cases same : member = other
          · subst same
            cases read : members.has member <;> simp [has_change found, has_change foundNext]
          · have swapped := change_change same found foundNext members
            have apart : (other == member) = false := beq_eq_false_iff_ne.mpr (Ne.symm same)
            have apartToo : (member == other) = false := beq_eq_false_iff_ne.mpr same
            cases read : members.has member <;> cases readToo : members.has other <;>
              simp [has_change found, has_change foundNext, apart, apartToo, read, readToo, swapped]

end Members

/-- Reads one more member with its key, if those before it could be read. -/
def readNext? (kind : ClauseKind) (members : Option Members) (entry : Content × Content) :
    Option Members :=
  members.bind fun members =>
    (memberOf kind entry.1).toOption.bind fun member =>
      member.elim (some members) (members.readNew? entry.2)

@[simp] theorem readNext?_none (kind : ClauseKind) (entry : Content × Content) :
    readNext? kind none entry = none := rfl

/-- Keyed members are read one by one. -/
theorem toOption_readKeyed (kind : ClauseKind) (members : Members)
    (entries : List (Content × Content)) :
    (readKeyed kind members entries).toOption = entries.foldl (readNext? kind) (some members) := by
  -- Behind a member that cannot be read, no other is read.
  have stuck (entries : List (Content × Content)) :
      entries.foldl (readNext? kind) none = none := by
    induction entries with
    | nil => rfl
    | cons entry rest ih => exact ih
  induction entries generalizing members with
  | nil => rfl
  | cons entry rest ih =>
      rw [List.foldl_cons, readKeyed, readNext?, Option.bind_some]
      cases memberOf kind entry.1 with
      | error cause => exact (stuck rest).symm
      | ok member? =>
          cases member? with
          | none => exact ih members
          | some member =>
              change (if members.has member then _ else _ : Except Fault Members).toOption =
                rest.foldl (readNext? kind) (if members.has member then none else _)
              cases members.has member with
              | true => exact (stuck rest).symm
              | false =>
                  have read := members.toOption_read entry.2 member
                  rw [if_neg Bool.false_ne_true, if_neg Bool.false_ne_true, ← read]
                  cases members.read entry.2 member with
                  | error cause => exact (stuck rest).symm
                  | ok next => exact ih next

/-- Two members may be read in either order. -/
theorem readNext?_right_comm (kind : ClauseKind) (members : Option Members)
    (first second : Content × Content) :
    readNext? kind (readNext? kind members first) second =
      readNext? kind (readNext? kind members second) first := by
  cases members with
  | none => rfl
  | some members =>
      simp only [readNext?, Option.bind_some]
      cases (memberOf kind first.1).toOption with
      | none => simp
      | some member? =>
          cases (memberOf kind second.1).toOption with
          | none => simp
          | some other? =>
              cases member? with
              | none => simp
              | some member =>
                  cases other? with
                  | none => simp
                  | some other => exact members.readNew?_comm first.2 second.2 member other

instance (kind : ClauseKind) : RightCommutative (readNext? kind) := ⟨readNext?_right_comm kind⟩

/-- The order of keyed members does not matter. -/
theorem toOption_clauseOfKeyed_perm (kind : ClauseKind) {entries others : List (Content × Content)}
    (perm : entries.Perm others) :
    (clauseOfKeyed kind entries).toOption = (clauseOfKeyed kind others).toOption := by
  rw [clauseOfKeyed, clauseOfKeyed, toOption_bind, toOption_bind, toOption_readKeyed,
    toOption_readKeyed, perm.foldl_eq]

/-- A key that names no member is passed over. -/
theorem readKeyed_of_memberOf {kind : ClauseKind} {key : Content} (unused : memberOf kind key = .ok none)
    (members : Members) (content : Content) (rest : List (Content × Content)) :
    readKeyed kind members ((key, content) :: rest) = readKeyed kind members rest := by
  rw [readKeyed, unused]
  rfl

/-- A member that has not been read yet is read. -/
theorem readKeyed_cons {kind : ClauseKind} {member : Member} {members : Members}
    (inside : member ∈ membersOf kind) (fresh : members.has member = false) {content : Content}
    {rest : List (Content × Content)} :
    readKeyed kind members ((.text member.name, content) :: rest) =
      (members.read content member >>= fun members => readKeyed kind members rest) := by
  have found : memberOf kind (.text member.name) = .ok (some member) := by
    cases kind <;> cases member <;> first | rfl | exact absurd inside (by decide)
  rw [readKeyed, found]
  change (if members.has member then _ else _) = _
  rw [fresh]
  rfl

def memberNames (kind : ClauseKind) : List String := (membersOf kind).map Member.name

/-- A key that is none of the names names no member. -/
theorem memberOf_text {kind : ClauseKind} {name : String} (other : name ∉ memberNames kind) :
    memberOf kind (.text name) = .ok none := by
  refine congrArg Except.ok (List.find?_eq_none.mpr fun member inside same => other ?_)
  exact List.mem_map.mpr ⟨member, inside, beq_iff_eq.mp same⟩

end FilterQuery.Decoding
