import FilterQuery.Decimal.Basic

namespace FilterQuery.Decimal

def zeros (count : Nat) : List Char := List.replicate count '0'

/-- The digits with the decimal point at its place. A whole number has no point. -/
def positional (decimal : Decimal) : List Char :=
  let digits := decimal.digits
  match decimal.exponent with
  | .ofNat power => digits ++ zeros power
  | .negSucc power =>
      let places := power + 1
      if places < digits.length then
        digits.take (digits.length - places) ++ '.' :: digits.drop (digits.length - places)
      else '0' :: '.' :: zeros (places - digits.length) ++ digits

/-- The digits of an integer, with a sign if it is negative. -/
def integerDigits : Int → List Char
  | .ofNat n => digitsOf n
  | .negSucc n => '-' :: digitsOf (n + 1)

/-- One digit, the others behind a point if there are any. -/
def mantissa : List Char → List Char
  | [] => []
  | [digit] => [digit]
  | digit :: rest => digit :: '.' :: rest

/-- The first digit, the others behind a point, and the exponent of the first digit. A positive
exponent gets a sign if `plus` is set. -/
def scientific (plus : Bool) (decimal : Decimal) : List Char :=
  let exponent := decimal.leadingExponent
  mantissa decimal.digits ++ 'e' :: (if plus && 0 ≤ exponent then ['+'] else []) ++
    integerDigits exponent

end FilterQuery.Decimal
