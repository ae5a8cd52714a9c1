import FilterQuery.Proofs.Number.Reading
import FilterQuery.Value

namespace FilterQuery

inductive Decimal.Sign where
  | absent
  | plus
  | minus
deriving DecidableEq

namespace Decimal.Sign

def text : Sign → List Char
  | .absent => []
  | .plus => ['+']
  | .minus => ['-']

def isNegative : Sign → Bool
  | .minus => true
  | .absent | .plus => false

/-- The sign that is written in front of negative numbers only. -/
def ofNegative (negative : Bool) : Sign := if negative then .minus else .absent

@[simp] theorem text_ofNegative (negative : Bool) :
    (ofNegative negative).text = signText negative := by
  cases negative <;> rfl

@[simp] theorem isNegative_ofNegative (negative : Bool) :
    (ofNegative negative).isNegative = negative := by
  cases negative <;> rfl

/-- The sign in front of a spelling is taken. -/
theorem takeSign_text_append (sign : Sign) (spelling : Spelling) :
    takeSign (sign.text ++ spelling.text) = (sign.isNegative, spelling.text) := by
  cases sign with
  | absent =>
      exact takeSign_signText_append false spelling.text_ne_nil spelling.isDigit_of_mem_head?
  | plus => rfl
  | minus => rfl

theorem takeSign_signText (sign : Sign) (spelling : Spelling) :
    takeSign (signText sign.isNegative ++ spelling.text) = (sign.isNegative, spelling.text) :=
  takeSign_signText_append _ spelling.text_ne_nil spelling.isDigit_of_mem_head?

/-- An integer is read from a spelling by digits alone, whatever its sign. -/
theorem readInteger?_append (sign : Sign) (spelling : Spelling) :
    readInteger? (sign.text ++ spelling.text) =
      if spelling.IsPlain then some (signed sign.isNegative (valueOf spelling.whole)) else none := by
  rw [← spelling.readInteger?_text sign.isNegative]
  simp only [readInteger?, takeSign_text_append, takeSign_signText]

/-- A double is read from a spelling, whatever its sign. -/
theorem read?_binary_append {format : Binary.Format} (sign : Sign) (spelling : Spelling) :
    Binary.read? (sign.text ++ spelling.text) =
      some ((spelling.literal sign.isNegative).toBinary format) := by
  rw [← Binary.read?_spelling]
  simp only [Binary.read?, Literal.read?, takeSign_text_append, takeSign_signText]

/-- The characters of a literal are letters, digits, signs and points. -/
theorem isTextChar_of_mem_append (sign : Sign) (spelling : Spelling) :
    ∀ c ∈ sign.text ++ spelling.text, isTextChar c = true := by
  intro c member
  rcases List.mem_append.mp member with inside | inside
  · cases sign with
    | absent => cases inside
    | plus | minus => rw [List.mem_singleton.mp inside]; rfl
  · exact spelling.isTextChar_of_mem_text c inside

/-- A literal starts with a sign or with a digit. -/
theorem head?_append (sign : Sign) (spelling : Spelling) :
    ∃ c rest, sign.text ++ spelling.text = c :: rest ∧ (c = '+' ∨ c = '-' ∨ c.isDigit = true) := by
  obtain ⟨d, more, split⟩ := List.exists_cons_of_ne_nil spelling.text_ne_nil
  have digit : d.isDigit = true := spelling.isDigit_of_mem_head? d (by simp [split])
  cases sign with
  | absent => exact ⟨d, more, split, .inr (.inr digit)⟩
  | plus => exact ⟨'+', _, rfl, .inl rfl⟩
  | minus => exact ⟨'-', _, rfl, .inr (.inl rfl)⟩

/-- The text of a literal has a term: its number, or else the text alone. -/
theorem term?_text (sign : Sign) (spelling : Spelling) :
    (Value.text (String.ofList (sign.text ++ spelling.text))).term? =
      match Number.read? (sign.text ++ spelling.text) with
      | some number => some (.number number)
      | none => some (.bare (String.ofList (sign.text ++ spelling.text))) := by
  have present : (String.ofList (sign.text ++ spelling.text)).isEmpty = false := by
    simpa [String.isEmpty_iff] using fun _ => spelling.text_ne_nil
  have unquoted : (sign.text ++ spelling.text).any Text.isBlank = false := by
    rw [List.any_eq_false]
    intro c member
    rw [isBlank_of_isTextChar (sign.isTextChar_of_mem_append spelling c member)]
    exact Bool.false_ne_true
  cases read : Number.read? (sign.text ++ spelling.text) <;>
    simp only [Value.term?, Term.ofText?, present, String.toList_ofList, unquoted, read,
      Bool.false_eq_true, if_false]

end Decimal.Sign

namespace Number

/-- The number of a literal: the integer of plain digits within 64 bits, or else the nearest double
if this is finite. -/
theorem read?_append (sign : Decimal.Sign) (spelling : Decimal.Spelling) :
    read? (sign.text ++ spelling.text) =
      if spelling.IsPlain ∧
          inRange (Decimal.signed sign.isNegative (Decimal.valueOf spelling.whole)) = true then
        some (.int (.ofInt (Decimal.signed sign.isNegative (Decimal.valueOf spelling.whole))))
      else if ((spelling.literal sign.isNegative).toBinary .double).isFinite then
        some (.float ((spelling.literal sign.isNegative).toBinary .double))
      else none := by
  have double : ((Binary.read? (sign.text ++ spelling.text)).filter Binary.isFinite).map float =
      if ((spelling.literal sign.isNegative).toBinary .double).isFinite then
        some (.float ((spelling.literal sign.isNegative).toBinary .double))
      else none := by
    rw [sign.read?_binary_append, Option.filter_some]
    split <;> rfl
  rw [read?, sign.readInteger?_append, double]
  by_cases plain : spelling.IsPlain
  · by_cases inside : inRange
        (Decimal.signed sign.isNegative (Decimal.valueOf spelling.whole)) = true
    · simp only [plain, inside, Option.filter_some, if_true, and_self]
    · simp only [plain, inside, Option.filter_some, if_true, if_false, and_false,
        Bool.false_eq_true]
  · simp only [plain, if_false, false_and, Option.filter_none]

end Number

end FilterQuery
