import FilterQuery.Clause.Line
import FilterQuery.Proofs.Decimal.Spelling

namespace FilterQuery

namespace Text

/-- The numbers of the blank characters. -/
def blankNumbers : List Nat := [
  9, 10, 11, 12, 13, 0x20, 0x85, 0xA0, 0x1680, 0x2000, 0x2001, 0x2002, 0x2003, 0x2004, 0x2005,
  0x2006, 0x2007, 0x2008, 0x2009, 0x200A, 0x2028, 0x2029, 0x202F, 0x205F, 0x3000]

theorem mem_blankNumbers {c : Char} (blank : isBlank c = true) : c.toNat ∈ blankNumbers := by
  simp only [isBlank, Bool.or_eq_true, Bool.and_eq_true, decide_eq_true_eq, beq_iff_eq] at blank
  simp only [blankNumbers, List.mem_cons, List.not_mem_nil, or_false]
  omega

/-- A text that starts with no blank keeps its start. -/
theorem trimStart_of_head? {text : List Char} (starts : ∀ c ∈ text.head?, isBlank c = false) :
    trimStart text = text := by
  cases text with
  | nil => rfl
  | cons c rest => exact List.dropWhile_cons_of_neg (by simp [starts c rfl])

/-- A text that ends with no blank keeps its end. -/
theorem trimEnd_of_getLast? {text : List Char} (ends : ∀ c ∈ text.getLast?, isBlank c = false) :
    trimEnd text = text := by
  rw [trimEnd, trimStart_of_head? (by simpa using ends), List.reverse_reverse]

end Text

namespace Clause

open Text (AllBlank isBlank trimStart trimEnd)

/-- No blank is a character of fields. -/
theorem isFieldChar_of_isBlank {c : Char} (blank : isBlank c = true) : isFieldChar c = false := by
  have none : ∀ n ∈ Text.blankNumbers, isFieldChar (.ofNat n) = false := by decide +kernel
  have outside := none c.toNat (Text.mem_blankNumbers blank)
  rwa [Char.ofNat_toNat] at outside

/-- A field starts with no blank. -/
theorem trimStart_field_append {field : List Char} (nonempty : field ≠ [])
    (inside : ∀ c ∈ field, isFieldChar c = true) (rest : List Char) :
    trimStart (field ++ rest) = field ++ rest := by
  refine Text.trimStart_of_head? fun c member => ?_
  obtain ⟨first, more, rfl⟩ := List.exists_cons_of_ne_nil nonempty
  cases member
  by_contra blank
  have outside := isFieldChar_of_isBlank (Bool.not_eq_false _ ▸ blank)
  exact Bool.false_ne_true (outside.symm.trans (inside c (List.mem_cons_self ..)))

/-- No operator starts with a blank or with a character of fields. -/
theorem head_of_takeOperator? {text : List Char} {found : Operator × List Char}
    (taken : takeOperator? text = some found) :
    ∀ c ∈ text.head?, isFieldChar c = false ∧ isBlank c = false := by
  obtain ⟨entry, first, -⟩ := Option.map_eq_some_iff.mp taken
  have listed := List.mem_of_find?_eq_some first
  have spelled : entry.1.isPrefixOf text = true := by simpa using List.find?_some first
  have starts : ∀ entry ∈ lineOperators, (entry.1.head?.all fun c =>
      !isFieldChar c && !isBlank c) = true := by decide +kernel
  have nonempty : ∀ entry ∈ lineOperators, entry.1 ≠ [] := by decide
  obtain ⟨d, more, split⟩ := List.exists_cons_of_ne_nil (nonempty entry listed)
  obtain ⟨rest, rfl⟩ := List.isPrefixOf_iff_prefix.mp spelled
  intro c member
  have first := starts entry listed
  rw [split, List.cons_append, List.head?_cons] at member
  rw [split, List.head?_cons, Option.mem_some_iff.mp member] at first
  simpa using first

/-- A line is read as its field, its operator and the value behind the operator. -/
theorem ofLine?_append {field blank tail rest : List Char} {operator : Operator}
    (nonempty : field ≠ []) (inside : ∀ c ∈ field, isFieldChar c = true) (gap : AllBlank blank)
    (taken : takeOperator? tail = some (operator, rest)) (single : '\n' ∉ trimStart rest) :
    ofLine? (field ++ (blank ++ tail)) =
      some (.comparison (String.ofList field) operator
        (valueOfText (trimEnd (trimStart rest)))) := by
  have starts := head_of_takeOperator? taken
  have ends : ∀ c ∈ (blank ++ tail).head?, isFieldChar c = false := by
    intro c member
    cases blank with
    | nil => exact (starts c member).1
    | cons first more =>
        cases member
        exact isFieldChar_of_isBlank (gap c (List.mem_cons_self ..))
  have operatorText : trimStart (blank ++ tail) = tail := by
    rw [Text.trimStart_append_of_allBlank gap,
      Text.trimStart_of_head? fun c member => (starts c member).2]
  have present : field.isEmpty = false := by simpa using nonempty
  have unbroken : (trimStart rest).contains '\n' = false := by simpa using single
  simp only [ofLine?, trimStart_field_append nonempty inside,
    Decimal.takeWhile_append_of_head? inside ends, Decimal.dropWhile_append_of_head? inside ends,
    present, operatorText, taken, unbroken, Bool.false_eq_true, if_false]

end Clause

end FilterQuery
