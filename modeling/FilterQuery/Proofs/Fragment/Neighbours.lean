import FilterQuery.Fragment
import Mathlib.Data.List.Chain

namespace FilterQuery

def Joiner.texts : List (List Char) := [Joiner.and.text, Joiner.or.text]

theorem Joiner.text_mem_texts (joiner : Joiner) : joiner.text ∈ Joiner.texts := by
  cases joiner <;> decide

theorem Joiner.opening_notMem_texts : ['('] ∉ Joiner.texts := by decide

theorem Joiner.closing_notMem_texts : [')'] ∉ Joiner.texts := by decide

/-- What two texts side by side have to do with joiners. -/
structure Neighbours (first second : List Char) : Prop where
  /-- No joiner follows a joiner. -/
  apart : first ∈ Joiner.texts → second ∉ Joiner.texts
  /-- No joiner follows the start of a group. -/
  opened : first = ['('] → second ∉ Joiner.texts
  /-- No joiner stands in front of the end of a group. -/
  closed : second = [')'] → first ∉ Joiner.texts
  /-- A statement or the start of a group follows a joiner or the start of a group. -/
  joined : second ∉ Joiner.texts → second ≠ [')'] → first ≠ ['('] → first ∈ Joiner.texts

namespace Neighbours

variable {last next : List Char}

/-- A joiner may follow a statement and the end of a group. -/
theorem joiner_behind (free : last ∉ Joiner.texts) (inside : last ≠ ['(']) (joiner : Joiner) :
    Neighbours last joiner.text where
  apart joint := absurd joint free
  opened start := absurd start inside
  closed stop := absurd (stop ▸ joiner.text_mem_texts) Joiner.closing_notMem_texts
  joined absent := absurd joiner.text_mem_texts absent

/-- A statement and the start of a group may follow a joiner. -/
theorem behind_joiner (joiner : Joiner) (free : next ∉ Joiner.texts) (starts : next ≠ [')']) :
    Neighbours joiner.text next where
  apart _ := free
  opened _ := free
  closed stop := absurd stop starts
  joined _ _ _ := joiner.text_mem_texts

/-- Everything but a joiner may follow the start of a group. -/
theorem behind_opening (free : next ∉ Joiner.texts) : Neighbours ['('] next where
  apart _ := free
  opened _ := free
  closed _ := Joiner.opening_notMem_texts
  joined _ _ inside := absurd rfl inside

/-- The end of a group may follow everything but a joiner. -/
theorem closing_behind (free : last ∉ Joiner.texts) : Neighbours last [')'] where
  apart _ := Joiner.closing_notMem_texts
  opened _ := Joiner.closing_notMem_texts
  closed _ := free
  joined _ other _ := absurd rfl other

end Neighbours

/-- Texts in which joiners stand between neighbours that have to be joined, and nowhere else. -/
structure WellJoined (texts : List (List Char)) : Prop where
  start : ∀ first ∈ texts.head?, first ∉ Joiner.texts
  stop : ∀ last ∈ texts.getLast?, last ∉ Joiner.texts
  inner : texts.IsChain Neighbours

namespace WellJoined

variable {texts : List (List Char)}

theorem nil : WellJoined [] := ⟨by simp, by simp, .nil⟩

/-- More texts may stand behind others if those that meet may stand side by side. -/
theorem append {added : List (List Char)} (joined : WellJoined texts)
    (start : texts = [] → ∀ first ∈ added.head?, first ∉ Joiner.texts)
    (stop : ∀ last ∈ added.getLast?, last ∉ Joiner.texts) (inner : added.IsChain Neighbours)
    (seam : ∀ last ∈ texts.getLast?, ∀ first ∈ added.head?, Neighbours last first) :
    WellJoined (texts ++ added) where
  start := by
    cases texts with
    | nil => exact start rfl
    | cons first rest => exact joined.start
  stop := by
    intro last found
    rw [List.getLast?_append] at found
    cases more : added.getLast? with
    | none => exact joined.stop last (by simpa [more] using found)
    | some final => exact stop last (by simpa [more] using found)
  inner := joined.inner.append inner seam

/-- One more text that is no joiner may stand behind others if it may stand behind the last. -/
theorem concat (joined : WellJoined texts) {next : List Char} (free : next ∉ Joiner.texts)
    (seam : ∀ last ∈ texts.getLast?, Neighbours last next) : WellJoined (texts ++ [next]) := by
  apply joined.append
  · intro _ first found
    cases found
    exact free
  · intro last found
    cases found
    exact free
  · exact .singleton next
  · intro last lastFound first found
    cases found
    exact seam last lastFound

/-- One more text may stand behind others and a joiner if the joiner may stand behind the last. -/
theorem concat_joined (joined : WellJoined texts) {last next : List Char} (joiner : Joiner)
    (found : texts.getLast? = some last) (inside : last ≠ ['(']) (free : next ∉ Joiner.texts)
    (starts : next ≠ [')']) : WellJoined (texts ++ [joiner.text, next]) := by
  apply joined.append
  · rintro rfl
    cases found
  · intro final shown
    cases shown
    exact free
  · exact List.isChain_pair.mpr (.behind_joiner joiner free starts)
  · intro final shown first front
    cases front
    obtain rfl : final = last := Option.some.inj (shown.symm.trans found)
    exact .joiner_behind (joined.stop final found) inside joiner

end WellJoined

end FilterQuery
