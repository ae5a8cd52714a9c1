import FilterQuery.Binary.Format

namespace FilterQuery

/-- A number of a binary floating point format. -/
inductive Binary (format : Binary.Format) where
  | nan
  | infinite (negative : Bool)
  | finite (negative : Bool) (code : Fin format.infinityCode)
deriving DecidableEq

abbrev Double := Binary .double

abbrev Single := Binary .single

namespace Binary

variable {format : Format}

/-- The number with a sign and a code; a code beyond the finite ones gives an infinity. -/
def ofCode (negative : Bool) (code : Nat) : Binary format :=
  if h : code < format.infinityCode then .finite negative ⟨code, h⟩ else .infinite negative

def ofRatio (negative : Bool) (numerator denominator : Nat) : Binary format :=
  ofCode negative (format.nearest numerator denominator)

/-- The number nearest to `significand * 10 ^ exponent`. -/
def ofDecimal (negative : Bool) (significand : Nat) (exponent : Int) : Binary format :=
  ofCode negative (format.nearestDecimal significand exponent)

/-- The number is neither an infinity nor the value that is no number. -/
def isFinite : Binary format → Bool
  | .finite .. => true
  | _ => false

/-- The bits of the number in its interchange encoding; those of the value that is no number have
the first bit of the significand set. -/
def bits : Binary format → Nat
  | .nan => format.infinityCode + format.fullSignificand / 2
  | .infinite negative => (if negative then format.signBit else 0) + format.infinityCode
  | .finite negative code => (if negative then format.signBit else 0) + code.val

@[simp] theorem isFinite_finite (negative : Bool) (code : Fin format.infinityCode) :
    (finite negative code).isFinite = true := rfl

theorem ofCode_of_lt {code : Nat} (negative : Bool) (h : code < format.infinityCode) :
    (ofCode negative code : Binary format) = finite negative ⟨code, h⟩ := by
  simp [ofCode, h]

theorem isFinite_ofCode (negative : Bool) (code : Nat) :
    (ofCode negative code : Binary format).isFinite = decide (code < format.infinityCode) := by
  unfold ofCode
  split <;> simp_all [isFinite]

end Binary

end FilterQuery
