import FilterQuery.Proofs.Decoding.Members

namespace FilterQuery.Decoding

/-- The contents behind the names of a kind, in the order of the kind. -/
def keyed (kind : ClauseKind) (contents : List Content) : List (Content × Content) :=
  ((memberNames kind).map Content.text).zip contents

/-- Behind a member that is read, this member has been read, and no other. -/
theorem Members.has_of_read {members next : Members} {content : Content} {member : Member}
    (read : members.read content member = .ok next) (other : Member) :
    next.has other = (other == member || members.has other) := by
  have changed := members.toOption_read content member
  rw [read] at changed
  obtain ⟨change, found, rfl⟩ := Option.map_eq_some_iff.mp changed.symm
  exact has_change found members other

/-- No kind has a member twice. -/
theorem nodup_membersOf (kind : ClauseKind) : (membersOf kind).Nodup := by
  cases kind <;> decide

/-- Contents are read for members that have not been read yet as they are read behind the names of
these members; the contents that are left over are counted. -/
theorem readListed_eq {kind : ClauseKind} {fresh : List Member} (distinct : fresh.Nodup)
    (own : ∀ member ∈ fresh, member ∈ membersOf kind) (contents : List Content) (members : Members)
    (unread : ∀ member ∈ fresh, members.has member = false) :
    readListed members fresh contents =
      (readKeyed kind members (((fresh.map Member.name).map Content.text).zip contents)).map
        fun read => (read, contents.length - fresh.length) := by
  induction fresh generalizing contents members with
  | nil => cases contents <;> rfl
  | cons member fresh ih =>
      obtain ⟨first, others⟩ := List.forall_mem_cons.mp own
      obtain ⟨firstUnread, othersUnread⟩ := List.forall_mem_cons.mp unread
      obtain ⟨apart, distinct⟩ := List.nodup_cons.mp distinct
      cases contents with
      | nil =>
          rw [readListed, List.zip_nil_right, readKeyed, List.length_nil, Nat.zero_sub]
          rfl
      | cons content contents =>
          rw [readListed, List.map_cons, List.map_cons, List.zip_cons_cons,
            readKeyed_cons first firstUnread]
          cases read : members.read content member with
          | error cause => rfl
          | ok next =>
              have nextUnread : ∀ other ∈ fresh, next.has other = false := by
                intro other inside
                have new : other ≠ member := fun same => apart (same ▸ inside)
                rw [Members.has_of_read read, othersUnread other inside, Bool.or_false]
                exact beq_eq_false_iff_ne.mpr new
              have rest := ih distinct others contents next nextUnread
              rw [← Nat.add_sub_add_right _ 1] at rest
              exact rest

/-- Listed contents make up a clause if there are not too many of them, and the one that they make up
behind their names. -/
theorem toOption_clauseOfListed (kind : ClauseKind) (contents : List Content) :
    (clauseOfListed kind contents).toOption =
      if contents.length ≤ (membersOf kind).length then
        (clauseOfKeyed kind (keyed kind contents)).toOption
      else none := by
  have unread : ∀ member ∈ membersOf kind, Members.empty.has member = false := by
    intro member _
    cases member <;> rfl
  rw [clauseOfListed, clauseOfKeyed, keyed, memberNames, toOption_bind, toOption_bind,
    readListed_eq (nodup_membersOf kind) (fun _ inside => inside) contents .empty unread]
  cases readKeyed kind .empty _ with
  | error cause => exact (ite_self none).symm
  | ok members =>
      simp only [Except.map, Except.toOption, Option.bind_some, Nat.sub_eq_zero_iff_le]
      cases members.clause? kind with
      | error cause => exact (ite_self none).symm
      | ok clause => by_cases few : contents.length ≤ (membersOf kind).length <;> simp [few]

end FilterQuery.Decoding
