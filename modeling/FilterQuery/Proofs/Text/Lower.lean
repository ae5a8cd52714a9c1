import FilterQuery.Text.Blank
import FilterQuery.Text.Lower

namespace FilterQuery.Text

/-- A visible character of ASCII other than the k. -/
def IsBasic (c : Char) : Prop := 0x20 < c.toNat ∧ c.toNat < 0x80 ∧ c ≠ 'k'

instance (c : Char) : Decidable (IsBasic c) := inferInstanceAs (Decidable (_ ∧ _ ∧ _))

theorem IsBasic.isBlank_eq_false {c : Char} (basic : IsBasic c) : isBlank c = false := by
  rw [Bool.eq_false_iff]
  intro blank
  simp only [isBlank, Bool.or_eq_true, Bool.and_eq_true, decide_eq_true_eq, beq_iff_eq] at blank
  have above := basic.1
  have below := basic.2.1
  omega

/-- Only the capital letters of ASCII change in the lower case of ASCII. -/
theorem toLower_of_outside {c : Char} (outside : c.toNat < 65 ∨ 90 < c.toNat) : c.toLower = c := by
  refine dif_neg fun upper => ?_
  have first : 65 ≤ c.toNat := upper.1
  have last : c.toNat ≤ 90 := upper.2
  omega

theorem toLower_of_isBlank {c : Char} (blank : isBlank c = true) : c.toLower = c := by
  simp only [isBlank, Bool.or_eq_true, Bool.and_eq_true, decide_eq_true_eq, beq_iff_eq] at blank
  exact toLower_of_outside (by omega)

/-- A text holds no blank if its lower case in ASCII holds none. -/
theorem isBlank_of_map_toLower {text : List Char}
    (visible : ∀ c ∈ text.map Char.toLower, isBlank c = false) : ∀ c ∈ text, isBlank c = false := by
  intro c member
  rw [Bool.eq_false_iff]
  intro blank
  have lower := visible c.toLower (List.mem_map_of_mem member)
  rw [toLower_of_isBlank blank, blank] at lower
  cases lower

/-- The character with a number has this number, unless there is none. -/
theorem toNat_ofNat (n : Nat) : (Char.ofNat n).toNat = n ∨ (Char.ofNat n).toNat = 0 := by
  unfold Char.ofNat
  by_cases valid : n.isValidChar
  · rw [dif_pos valid]
    exact .inl rfl
  · rw [dif_neg valid]
    exact .inr rfl

/-- The lower case of a code point beyond ASCII lies beyond ASCII, too, or is the k. -/
theorem lowerNumber_cases {n : Nat} (beyond : 0x80 ≤ n) :
    0x80 ≤ lowerNumber n ∨ lowerNumber n = 'k'.toNat := by
  have rows : ∀ row ∈ caseRows,
      0x80 ≤ row.lower ∨ row.lower = 'k'.toNat ∧ row.first = row.last := by decide +kernel
  cases found : caseRows.findSome? fun row => row.lower? n with
  | none =>
      left
      rw [lowerNumber, found]
      exact beyond
  | some lowered =>
      obtain ⟨row, listed, lower⟩ := List.exists_of_findSome?_eq_some found
      rw [lowerNumber, found, Option.getD_some]
      rw [CaseRow.lower?] at lower
      split at lower
      · rename_i inside
        simp only [Bool.and_eq_true, decide_eq_true_eq] at inside
        have equal := Option.some.inj lower
        rcases rows row listed with far | ⟨letter, single⟩
        · left
          omega
        · right
          omega
      · cases lower

/-- The lower case of a character beyond ASCII has a character that is not basic. -/
theorem exists_mem_lowerChar {c : Char} (beyond : 0x80 ≤ c.toNat) :
    ∃ d ∈ lowerChar c, ¬IsBasic d := by
  rw [lowerChar, if_neg (Nat.not_lt.mpr beyond)]
  split
  · exact ⟨'\u0307', by decide, by decide⟩
  · refine ⟨_, List.mem_singleton_self _, ?_⟩
    rintro ⟨visible, ascii, letter⟩
    rcases lowerNumber_cases beyond with far | kelvin
    · rcases toNat_ofNat (lowerNumber c.toNat) with same | none <;> omega
    · exact letter (by rw [kelvin, Char.ofNat_toNat])

/-- The two forms of a small sigma are not basic. -/
theorem not_isBasic_lowerSigma (before behind : List Char) :
    ¬IsBasic (lowerSigma before behind) := by
  unfold lowerSigma
  split <;> decide

/-- A text behind another one becomes a basic word in lower case exactly if it is this word in
another case of ASCII. -/
theorem lowerBehind_eq_iff (before : List Char) {text word : List Char}
    (basic : ∀ c ∈ word, IsBasic c) :
    lowerBehind before text = word ↔ text.map Char.toLower = word := by
  induction text generalizing before word with
  | nil => exact Iff.rfl
  | cons c rest ih =>
      rw [lowerBehind, List.map_cons]
      by_cases ascii : c.toNat < 0x80
      · have same : (if c == '\u03a3' then [lowerSigma before rest] else lowerChar c) =
            [c.toLower] := by
          have other : (c == '\u03a3') = false := by
            rw [beq_eq_false_iff_ne]
            rintro rfl
            exact absurd ascii (by decide)
          rw [other, if_neg Bool.false_ne_true, lowerChar, if_pos ascii]
        rw [same, List.singleton_append]
        cases word with
        | nil => exact ⟨nofun, nofun⟩
        | cons d more =>
            have tail := ih (c :: before) fun e member => basic e (List.mem_cons_of_mem _ member)
            rw [List.cons.injEq, List.cons.injEq, tail]
      · -- What the character becomes is no part of the word, in either case.
        have beyond := Nat.le_of_not_lt ascii
        constructor
        · intro equal
          have strange : ∃ d ∈ (if c == '\u03a3' then [lowerSigma before rest] else lowerChar c),
              ¬IsBasic d := by
            split
            · exact ⟨_, List.mem_singleton_self _, not_isBasic_lowerSigma before rest⟩
            · exact exists_mem_lowerChar beyond
          obtain ⟨d, member, other⟩ := strange
          exact absurd (basic d (equal ▸ List.mem_append_left _ member)) other
        · intro equal
          have member : c ∈ word := by
            rw [← equal, toLower_of_outside (by omega)]
            exact List.mem_cons_self
          exact absurd (basic c member).2.1 ascii

/-- A text becomes a basic word in lower case exactly if it is this word in another case of
ASCII. -/
theorem lower_eq_iff {text word : List Char} (basic : ∀ c ∈ word, IsBasic c) :
    lower text = word ↔ text.map Char.toLower = word :=
  lowerBehind_eq_iff [] basic

/-- The kelvin sign has the k as its lower case, so words with a k have other spellings. -/
example : lower ['\u212a'] = ['k'] ∧ ['\u212a'].map Char.toLower ≠ ['k'] := by decide +kernel

end FilterQuery.Text
