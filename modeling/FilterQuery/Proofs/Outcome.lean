import Mathlib.Data.List.Forall2

namespace FilterQuery

/-- An outcome is a result if it has this result. -/
theorem eq_ok_iff_toOption {ε α : Type} {outcome : Except ε α} {value : α} :
    outcome = .ok value ↔ outcome.toOption = some value := by
  cases outcome <;> simp [Except.toOption]

/-- A step and the next one give a result if each of them does. -/
theorem toOption_bind {ε α β : Type} (first : Except ε α) (next : α → Except ε β) :
    (first >>= next).toOption = first.toOption.bind fun value => (next value).toOption := by
  cases first <;> rfl

variable {ε α β : Type} {f : α → Except ε β} {items : List α}

/-- Steps in a row give results if each of them gives its result. -/
theorem mapM_eq_ok_iff {values : List β} :
    items.mapM f = .ok values ↔ List.Forall₂ (fun item value => f item = .ok value) items values := by
  induction items generalizing values with
  | nil => cases values <;> simp [pure, Except.pure]
  | cons item items ih =>
      rw [List.mapM_cons]
      cases first : f item with
      | error cause => cases values <;> simp [first, bind, Except.bind]
      | ok value =>
          cases values with
          | nil => cases items.mapM f <;> simp [bind, Except.bind, pure, Except.pure]
          | cons other values =>
              rw [List.forall₂_cons, first, ← ih]
              cases items.mapM f <;> simp [bind, Except.bind, pure, Except.pure]

/-- Steps in a row fail with the first that fails. -/
theorem exists_of_mapM_eq_error {cause : ε} (failed : items.mapM f = .error cause) :
    ∃ before item after, items = before ++ item :: after ∧
      (∀ earlier ∈ before, ∃ value, f earlier = .ok value) ∧ f item = .error cause := by
  induction items with
  | nil => cases failed
  | cons item items ih =>
      rw [List.mapM_cons] at failed
      cases first : f item with
      | error other =>
          rw [first] at failed
          cases failed
          exact ⟨[], item, items, rfl, List.forall_mem_nil _, first⟩
      | ok value =>
          rw [first] at failed
          cases rest : items.mapM f with
          | ok values =>
              rw [rest] at failed
              cases failed
          | error other =>
              rw [rest] at failed
              cases failed
              obtain ⟨before, found, after, rfl, decoded, wrong⟩ := ih rest
              exact ⟨item :: before, found, after, rfl,
                List.forall_mem_cons.mpr ⟨⟨value, first⟩, decoded⟩, wrong⟩

end FilterQuery
