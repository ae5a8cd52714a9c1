import FilterQuery.Proofs.Clause.Refusal
import FilterQuery.Proofs.Number.Numeral

namespace FilterQuery.Text

open Decimal
open Binary (Format)

/-- The text is a numeral that denotes the number. -/
def Denotes (text : List Char) (number : Number) : Prop :=
  ∃ numeral : DecimalNumeral, numeral.text = text ∧ numeral.Denotes number

theorem denotes_iff {text : List Char} {number : Number} :
    Denotes text number ↔ Number.read? text = some number :=
  Number.read?_eq_some_iff.symm

section Terms

variable {content : String}

end Terms

section Names

variable {name : List Char}

end Names

section Overflow

variable {numeral : DecimalNumeral} {code : Nat}

end Overflow

end FilterQuery.Text
