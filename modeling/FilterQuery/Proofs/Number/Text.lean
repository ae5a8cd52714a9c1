import FilterQuery.Number
import FilterQuery.Proofs.Decimal.Value

namespace FilterQuery.Number

open Decimal

/-- The text of a magnitude is a spelling of its shortest decimal. If its digits stand alone, they
are the digits of what they denote, unless this is zero. -/
theorem exists_spelling_magnitudeText (code : Nat) :
    ∃ spelling : Spelling, spelling.text = magnitudeText code ∧
      spelling.value = (shortest .greater .double code).value ∧
      (0 < (shortest .greater .double code).significand → spelling.IsPlain →
        digitsOf (valueOf spelling.whole) = spelling.whole) := by
  unfold magnitudeText
  dsimp only
  split
  · exact exists_spelling_positional _
  · obtain ⟨spelling, text, denotes, marked⟩ :=
      exists_spelling_scientific true (shortest .greater .double code)
    exact ⟨spelling, text, denotes, fun _ plain => absurd plain marked⟩

/-- The text of a double that is finite and not zero stands behind its sign. -/
theorem doubleText_finite {negative : Bool} {code : Fin Binary.Format.double.infinityCode}
    (nonzero : code.val ≠ 0) :
    doubleText (.finite negative code) = signText negative ++ magnitudeText code.val := by
  rw [doubleText, if_neg nonzero, signText]

theorem isTextChar_of_mem_signText {negative : Bool} {c : Char} (member : c ∈ signText negative) :
    isTextChar c = true := by
  cases negative with
  | true => rw [List.mem_singleton.mp member]; rfl
  | false => cases member

/-- The text of a number holds letters, digits, signs and points only. -/
theorem isTextChar_of_mem_text (number : Number) : ∀ c ∈ number.text, isTextChar c = true := by
  intro c member
  cases number with
  | int value => exact isTextChar_of_readInteger? (readInteger?_integerDigits _) c member
  | float value =>
      cases value with
      | nan => fin_cases member <;> rfl
      | infinite negative => cases negative <;> fin_cases member <;> rfl
      | finite negative code =>
          by_cases zero : code.val = 0
          · simp only [text, doubleText, zero, if_true, List.mem_singleton] at member
            exact member ▸ rfl
          · rw [text, doubleText_finite zero] at member
            obtain ⟨spelling, spelled, -, -⟩ := exists_spelling_magnitudeText code.val
            rcases List.mem_append.mp member with inside | inside
            · exact isTextChar_of_mem_signText inside
            · exact spelling.isTextChar_of_mem_text c (spelled ▸ inside)

theorem text_ne_nil (number : Number) : number.text ≠ [] := by
  cases number with
  | int value =>
      rw [text, integerDigits_eq]
      exact List.append_ne_nil_of_right_ne_nil _ (digitsOf_ne_nil _)
  | float value =>
      cases value with
      | nan => exact List.cons_ne_nil _ _
      | infinite negative => exact List.append_ne_nil_of_right_ne_nil _ (List.cons_ne_nil _ _)
      | finite negative code =>
          by_cases zero : code.val = 0
          · simp [text, doubleText, zero]
          · rw [text, doubleText_finite zero]
            obtain ⟨spelling, spelled, -, -⟩ := exists_spelling_magnitudeText code.val
            exact List.append_ne_nil_of_right_ne_nil _ (spelled ▸ spelling.text_ne_nil)

end FilterQuery.Number
