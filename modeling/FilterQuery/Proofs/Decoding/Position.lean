import FilterQuery.Decoding.Message
import FilterQuery.Proofs.Decimal.Spelling
import Mathlib.Data.List.TakeWhile

namespace FilterQuery.Decoding

open Decimal (isNumeral valueOf)

/-- The text writes the position down as it may follow a message. -/
def Position.WrittenAs (position : Position) (text : List Char) : Prop :=
  ∃ line column, isNumeral line = true ∧ isNumeral column = true ∧
    position = ⟨valueOf line, valueOf column⟩ ∧
      text = " at line ".toList ++ (line ++ (" column ".toList ++ column))

section Taken

variable {reversed rest : List Char}

/-- A word is taken from the end of a text exactly if the text ends in it. -/
theorem takeLastWord?_eq_some_iff {word : String} :
    takeLastWord? word reversed = some rest ↔ reversed = word.toList.reverse ++ rest := by
  unfold takeLastWord?
  dsimp only
  constructor
  · intro taken
    split at taken
    · rename_i start
      rw [← Option.some.inj taken]
      exact (List.prefix_iff_eq_append.mp (List.isPrefixOf_iff_prefix.mp start)).symm
    · cases taken
  · rintro rfl
    rw [if_pos (List.isPrefixOf_iff_prefix.mpr (List.prefix_append _ _)), List.drop_left]

/-- A number that is taken from the end of a text is written there. -/
theorem exists_of_takeLastNumber? {number : Nat}
    (taken : takeLastNumber? reversed = some (number, rest)) :
    ∃ numeral, isNumeral numeral = true ∧ valueOf numeral = number ∧
      reversed = numeral.reverse ++ rest := by
  unfold takeLastNumber? at taken
  dsimp only at taken
  split at taken
  · cases taken
  · rename_i nonempty
    obtain ⟨rfl, rfl⟩ := Prod.mk.inj (Option.some.inj taken)
    refine ⟨(reversed.takeWhile Char.isDigit).reverse, ?_, rfl, ?_⟩
    · rw [isNumeral, List.isEmpty_reverse, List.all_reverse, Bool.and_eq_true, List.all_eq_true]
      exact ⟨by simpa using nonempty, fun c member => List.mem_takeWhile_imp member⟩
    · rw [List.reverse_reverse, List.takeWhile_append_dropWhile]

/-- A numeral behind something that is no digit is taken from the end of a text. -/
theorem takeLastNumber?_append {numeral : List Char} (written : isNumeral numeral = true)
    (ends : ∀ c ∈ rest.head?, c.isDigit = false) :
    takeLastNumber? (numeral.reverse ++ rest) = some (valueOf numeral, rest) := by
  rw [isNumeral, Bool.and_eq_true, List.all_eq_true] at written
  have digits : ∀ c ∈ numeral.reverse, c.isDigit = true :=
    fun c member => written.2 c (List.mem_reverse.mp member)
  rw [takeLastNumber?, Decimal.takeWhile_append_of_head? digits ends,
    Decimal.dropWhile_append_of_head? digits ends]
  simpa using written.1

end Taken

/-- A position is taken from the end of a text exactly if the text ends in it. -/
theorem splitPosition?_eq_some_iff {text front : List Char} {position : Position} :
    splitPosition? text = some (front, position) ↔
      ∃ part, position.WrittenAs part ∧ text = front ++ part := by
  constructor
  · intro split
    simp only [splitPosition?, Option.bind_eq_bind, Option.bind_eq_some_iff] at split
    obtain ⟨⟨column, behindLine⟩, columnTaken, beforeColumn, columnWord, ⟨line, behindFront⟩,
      lineTaken, beforeLine, lineWord, equal⟩ := split
    dsimp only at columnWord lineWord equal
    obtain ⟨columnText, columnNumeral, rfl, columnSplit⟩ := exists_of_takeLastNumber? columnTaken
    obtain ⟨lineText, lineNumeral, rfl, lineSplit⟩ := exists_of_takeLastNumber? lineTaken
    obtain ⟨rfl, rfl⟩ := Prod.mk.inj (Option.some.inj equal)
    refine ⟨_, ⟨lineText, columnText, lineNumeral, columnNumeral, rfl, rfl⟩, ?_⟩
    rw [← List.reverse_inj, columnSplit, takeLastWord?_eq_some_iff.mp columnWord, lineSplit,
      takeLastWord?_eq_some_iff.mp lineWord]
    simp
  · rintro ⟨_, ⟨line, column, lineNumeral, columnNumeral, rfl, rfl⟩, rfl⟩
    -- the text is read from its end, so what stands in front of a number is left over behind it
    let behindLine := " at line ".toList.reverse ++ front.reverse
    let behindColumn := " column ".toList.reverse ++ (line.reverse ++ behindLine)
    have reversed :
        (front ++ (" at line ".toList ++ (line ++ (" column ".toList ++ column)))).reverse =
          column.reverse ++ behindColumn := by
      simp [behindColumn, behindLine]
    have columnTaken : takeLastNumber? (column.reverse ++ behindColumn) =
        some (valueOf column, behindColumn) :=
      takeLastNumber?_append columnNumeral (by rintro _ ⟨⟩; rfl)
    have lineTaken : takeLastNumber? (line.reverse ++ behindLine) =
        some (valueOf line, behindLine) :=
      takeLastNumber?_append lineNumeral (by rintro _ ⟨⟩; rfl)
    rw [splitPosition?, reversed, columnTaken]
    simp only [Option.bind_eq_bind, Option.bind_some, takeLastWord?_eq_some_iff.mpr rfl,
      behindColumn, lineTaken, behindLine, List.reverse_reverse]

section Notices

variable {cause : Fault} (place : Place) (reader : Option Position)

/-- In YAML, a notice shows the whole wording of a fault behind its place. -/
theorem notice_yaml :
    (Error.fault place cause).notice .yaml reader =
      ⟨place.label ++ cause.message .yaml, reader⟩ := by
  simp only [Error.notice, Markup.takePosition, Markup.label, Option.none_or, String.ofList_toList]

/-- In JSON, a notice shows the whole wording if it ends in no position of 64 bits. -/
theorem notice_json_of_plain
    (plain : ∀ (position : Position) front part, position.WrittenAs part → position.fits = true →
      (cause.message .json).toList ≠ front ++ part) :
    (Error.fault place cause).notice .json reader = ⟨cause.message .json, reader⟩ := by
  have whole : Markup.json.takePosition (cause.message .json).toList =
      ((cause.message .json).toList, none) := by
    rw [Markup.takePosition]
    split
    · rename_i front position split
      obtain ⟨part, written, equal⟩ := splitPosition?_eq_some_iff.mp split
      exact if_neg fun fits => plain position front part written fits equal
    · rfl
  simp only [Error.notice, Markup.label, String.empty_append, whole, Option.none_or,
    String.ofList_toList]

/-- In JSON, a position of 64 bits at the end of the wording goes before that of the reader, unless
its line is zero. -/
theorem notice_json_of_position {position : Position} {front part : List Char}
    (written : position.WrittenAs part) (fits : position.fits = true)
    (split : (cause.message .json).toList = front ++ part) :
    (Error.fault place cause).notice .json reader =
      ⟨String.ofList front, if position.line = 0 then reader else some position⟩ := by
  have taken : Markup.json.takePosition (cause.message .json).toList =
      (front, if position.line = 0 then none else some position) := by
    rw [Markup.takePosition, splitPosition?_eq_some_iff.mpr ⟨part, written, split⟩]
    exact if_pos fits
  simp only [Error.notice, Markup.label, String.empty_append, taken]
  split <;> rfl

end Notices

end FilterQuery.Decoding
