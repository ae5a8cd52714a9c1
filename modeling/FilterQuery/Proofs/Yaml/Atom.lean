import FilterQuery.Proofs.Number.Whole
import FilterQuery.Yaml.Atom

namespace FilterQuery

namespace Yaml.Atom

open Decimal

/-- The integer of a numeral without padding, if it needs more than 64 bits, but not more than
128. -/
def wideInteger? (text : List Char) : Option Int :=
  if isPaddedNumeral text then none
  else (readInteger? text).filter fun n =>
    (n < -2 ^ 63 || 2 ^ 64 ≤ n) && (-2 ^ 127 ≤ n && n < 2 ^ 128)

/-- Integers of 64 bits, with or without a sign, are integers. -/
theorem ofInteger?_of_narrow {n : Int} (narrow : -2 ^ 63 ≤ n ∧ n < 2 ^ 64) :
    ofInteger? n = some (.integer n) := by
  have low : -0x8000000000000000 ≤ n := by omega
  have high : n < 0x10000000000000000 := by omega
  simp [ofInteger?, low, high]

/-- Other integers of 128 bits are wide. -/
theorem ofInteger?_of_wide {n : Int} (broad : n < -2 ^ 63 ∨ 2 ^ 64 ≤ n)
    (wide : -2 ^ 127 ≤ n ∧ n < 2 ^ 128) : ofInteger? n = some (.wideInteger n) := by
  have narrow : ¬(-0x8000000000000000 ≤ n ∧ n < 0x10000000000000000) := by omega
  have low : -0x80000000000000000000000000000000 ≤ n := by omega
  have high : n < 0x100000000000000000000000000000000 := by omega
  simp only [ofInteger?, Bool.and_eq_true, decide_eq_true_eq, narrow, low, high, and_self, if_true,
    if_false]

/-- Integers beyond 128 bits are no integers of a scalar. -/
theorem ofInteger?_of_huge {n : Int} (huge : n < -2 ^ 127 ∨ 2 ^ 128 ≤ n) :
    ofInteger? n = none := by
  have narrow : ¬(-0x8000000000000000 ≤ n ∧ n < 0x10000000000000000) := by omega
  have wide : ¬(-0x80000000000000000000000000000000 ≤ n ∧
      n < 0x100000000000000000000000000000000) := by omega
  simp only [ofInteger?, Bool.and_eq_true, decide_eq_true_eq, narrow, wide, if_false]

variable (sign : Sign) (spelling : Spelling)

/-- No literal is written with the mark of another base. -/
theorem inBase?_text : inBase? spelling.text = none := by
  have free := Spelling.forall_mem_text (p := fun c => c ≠ 'x' ∧ c ≠ 'o' ∧ c ≠ 'b')
    (fun c digit => ⟨ne_of_isDigit digit rfl, ne_of_isDigit digit rfl, ne_of_isDigit digit rfl⟩)
    (by decide) spelling
  unfold inBase?
  split
  · rename_i mark digits same
    obtain ⟨hexadecimal, octal, binary⟩ := free mark (by simp [same])
    simp [hexadecimal, octal, binary]
  · rfl

/-- A literal is an integer if its digits stand alone and are not padded. -/
theorem integer?_append :
    integer? (sign.text ++ spelling.text) =
      if isPaddedNumeral (sign.text ++ spelling.text) then none
      else readInteger? (sign.text ++ spelling.text) := by
  simp only [integer?, sign.takeSign_text_append, inBase?_text]

/-- A literal is no null and no boolean. -/
theorem isNull_boolean?_append :
    isNull (sign.text ++ spelling.text) = false ∧
      boolean? (sign.text ++ spelling.text) = none := by
  obtain ⟨c, rest, split, starts⟩ := sign.head?_append spelling
  have other {d : Char} (plus : d ≠ '+') (minus : d ≠ '-') (digit : d.isDigit = false) :
      c ≠ d := by
    rintro rfl
    rcases starts with equal | equal | isDigit
    · exact plus equal
    · exact minus equal
    · exact Bool.false_ne_true (digit.symm.trans isDigit)
  have letters : c ≠ 'n' ∧ c ≠ 'N' ∧ c ≠ '~' ∧ c ≠ 't' ∧ c ≠ 'T' ∧ c ≠ 'f' ∧ c ≠ 'F' :=
    ⟨other (by decide) (by decide) rfl, other (by decide) (by decide) rfl,
      other (by decide) (by decide) rfl, other (by decide) (by decide) rfl,
      other (by decide) (by decide) rfl, other (by decide) (by decide) rfl,
      other (by decide) (by decide) rfl⟩
  rw [split]
  simp [isNull, boolean?, letters]

/-- A literal is the double nearest to it, if this is finite. -/
theorem float?_append :
    float? (sign.text ++ spelling.text) =
      (some ((spelling.literal sign.isNegative).toBinary .double)).filter Binary.isFinite := by
  obtain ⟨c, rest, split⟩ := List.exists_cons_of_ne_nil spelling.text_ne_nil
  have digit : c.isDigit = true := spelling.isDigit_of_mem_head? c (by simp [split])
  have plus : c ≠ '+' := ne_of_isDigit digit rfl
  have minus : c ≠ '-' := ne_of_isDigit digit rfl
  have point : c ≠ '.' := ne_of_isDigit digit rfl
  have read (sign : Sign) : (Binary.read? (sign.text ++ spelling.text) : Option Double) =
      some ((spelling.literal sign.isNegative).toBinary .double) :=
    sign.read?_binary_append spelling
  cases sign with
  | absent =>
      have same := read .absent
      simp only [Sign.text, List.nil_append, split] at same ⊢
      simp [float?, dropPlus, hasSign, isInfinity, isNan, plus, minus, point, same]
  | plus =>
      have same := read .absent
      simp only [Sign.text, List.nil_append, split] at same ⊢
      simp [float?, dropPlus, hasSign, isInfinity, isNan, plus, minus, point, same,
        Sign.isNegative]
  | minus =>
      have same := read .minus
      simp only [Sign.text, List.cons_append, List.nil_append, split] at same ⊢
      simp [float?, dropPlus, hasSign, isInfinity, isNan, point, same]

/-- What a literal denotes as a plain scalar: an integer, a double or its text. -/
theorem ofPlain_append :
    ofPlain (sign.text ++ spelling.text) =
      match (integer? (sign.text ++ spelling.text)).bind ofInteger? with
      | some atom => atom
      | none =>
          if isPaddedNumeral (sign.text ++ spelling.text) then
            .text (String.ofList (sign.text ++ spelling.text))
          else if ((spelling.literal sign.isNegative).toBinary .double).isFinite then
            .float ((spelling.literal sign.isNegative).toBinary .double)
          else .text (String.ofList (sign.text ++ spelling.text)) := by
  obtain ⟨null, boolean⟩ := isNull_boolean?_append sign spelling
  have present : (sign.text ++ spelling.text).isEmpty = false := by
    simpa using fun _ => spelling.text_ne_nil
  simp only [ofPlain, present, null, boolean, Bool.or_self, Bool.false_eq_true, if_false,
    float?_append, Option.filter_some]
  cases (integer? (sign.text ++ spelling.text)).bind ofInteger? with
  | some atom => rfl
  | none =>
      by_cases padded : isPaddedNumeral (sign.text ++ spelling.text) = true
      · simp only [padded, if_true]
      · by_cases finite : ((spelling.literal sign.isNegative).toBinary .double).isFinite = true
        · simp only [padded, finite, Bool.false_eq_true, if_true, if_false]
        · simp only [padded, finite, Bool.false_eq_true, if_false]

/-- A wide integer is none of the contents. -/
theorem ofPlain_of_wide {n : Int} (wide : wideInteger? (sign.text ++ spelling.text) = some n) :
    ofPlain (sign.text ++ spelling.text) = .wideInteger n := by
  unfold wideInteger? at wide
  split at wide
  · cases wide
  · rename_i unpadded
    obtain ⟨read, bounds⟩ := Option.filter_eq_some_iff.mp wide
    simp only [Bool.and_eq_true, Bool.or_eq_true, decide_eq_true_eq] at bounds
    rw [ofPlain_append, integer?_append, if_neg unpadded, read, Option.bind_some,
      ofInteger?_of_wide bounds.1 bounds.2]

/-- The atom is read as a value whose term is that of a text. -/
def Agrees (atom : Atom) (text : List Char) : Prop :=
  ∃ content value, atom.content = .ok content ∧ content.value? = .ok value ∧
    value.term? = (Value.text (String.ofList text)).term?

/-- A literal that is no integer agrees with its text as the double nearest to it, or as a text if
this is not finite. -/
theorem agrees_double (outside : spelling.IsPlain →
      Number.inRange (signed sign.isNegative (valueOf spelling.whole)) = false) :
    Agrees (if ((spelling.literal sign.isNegative).toBinary .double).isFinite then
        .float ((spelling.literal sign.isNegative).toBinary .double)
      else .text (String.ofList (sign.text ++ spelling.text))) (sign.text ++ spelling.text) := by
  have read := Number.read?_append sign spelling
  rw [if_neg fun both => by simp [outside both.1] at both] at read
  split
  · rename_i finite
    rw [if_pos finite] at read
    refine ⟨_, _, rfl, rfl, ?_⟩
    rw [Sign.term?_text, read]
    exact if_pos finite
  · exact ⟨_, _, rfl, rfl, rfl⟩

/-- Literals other than wide integers agree with their texts. -/
theorem agrees_ofPlain (narrow : wideInteger? (sign.text ++ spelling.text) = none) :
    Agrees (ofPlain (sign.text ++ spelling.text)) (sign.text ++ spelling.text) := by
  rw [ofPlain_append, integer?_append]
  by_cases padded : isPaddedNumeral (sign.text ++ spelling.text) = true
  · rw [if_pos padded, if_pos padded]
    exact ⟨_, _, rfl, rfl, rfl⟩
  rw [if_neg padded, if_neg padded, sign.readInteger?_append]
  by_cases plain : spelling.IsPlain
  · rw [wideInteger?, if_neg padded, sign.readInteger?_append, if_pos plain,
      Option.filter_some] at narrow
    rw [if_pos plain, Option.bind_some]
    have broad : ¬(signed sign.isNegative (valueOf spelling.whole) < -2 ^ 63 ∨
        2 ^ 64 ≤ signed sign.isNegative (valueOf spelling.whole)) ∨
        signed sign.isNegative (valueOf spelling.whole) < -2 ^ 127 ∨
        2 ^ 128 ≤ signed sign.isNegative (valueOf spelling.whole) := by
      simp only [Bool.and_eq_true, Bool.or_eq_true, decide_eq_true_eq, ite_eq_right_iff,
        reduceCtorEq, imp_false] at narrow
      omega
    rcases broad with small | huge
    · rw [ofInteger?_of_narrow (by omega)]
      have magnitude : valueOf spelling.whole < 2 ^ 64 := by
        unfold signed at small
        split at small <;> omega
      refine ⟨_, _, rfl, rfl, ?_⟩
      rw [Sign.term?_text, Number.read?_of_isPlain sign plain magnitude]
      exact if_pos (Number.isFinite_ofInt magnitude)
    · rw [ofInteger?_of_huge huge]
      refine agrees_double sign spelling fun _ => ?_
      by_contra inside
      have range := Number.inRange_iff.mp (Bool.not_eq_false _ ▸ inside)
      omega
  · rw [if_neg plain, Option.bind_none]
    exact agrees_double sign spelling fun isPlain => absurd isPlain plain

end Yaml.Atom

end FilterQuery
