import FilterQuery.Decimal.Basic
import FilterQuery.Binary.Format

/-!
The shortest decimal that reads back as a given binary magnitude. Everything is counted in one
decimal unit, `10 ^ -(scale + 1)`, in which each magnitude of the format and each midpoint between
two neighbours is a whole number.
-/

namespace FilterQuery.Decimal

open Binary (Format)

/-- The reals that round to one magnitude, in the common decimal unit: a centre and two ends, which
belong to the interval if it is closed. -/
structure Interval where
  low : Nat
  centre : Nat
  high : Nat
  closed : Bool

def Interval.contains (interval : Interval) (point : Nat) : Bool :=
  if interval.closed then interval.low ≤ point && point ≤ interval.high
  else interval.low < point && point < interval.high

/-- The interval of the reals that round to a magnitude. A tie goes to the even code, so the
midpoints belong to the interval of an even code. -/
def Interval.around (format : Format) (code : Nat) : Interval :=
  let unit := Nat.pow 5 (format.scale + 1)
  let below := format.units (code - 1)
  let centre := format.units code
  let above := format.units (code + 1)
  ⟨(below + centre) * unit, 2 * centre * unit, (centre + above) * unit, code % 2 == 0⟩

/-- Which of two equally near decimals is taken. -/
inductive Tie where
  | greater
  | even
deriving DecidableEq

/-- The lower of the two multiples of a step around a point is taken, where both could be: it is
nearer, or as near and preferred. The quotient and the remainder are those of the point. -/
def Tie.takesLower (tie : Tie) (step quotient remainder : Nat) : Bool :=
  2 * remainder < step ||
    (2 * remainder == step && tie == .even && quotient % 2 == 0)

/-- Of the two multiples of the step next to the centre, the one that lies in the interval; if both
do, the nearer one. -/
def Interval.multiple? (tie : Tie) (interval : Interval) (step : Nat) : Option Nat :=
  let below := interval.centre / step
  let remainder := interval.centre % step
  let above := if remainder = 0 then below else below + 1
  match interval.contains (below * step), interval.contains (above * step) with
  | true, true => some (if tie.takesLower step below remainder then below else above)
  | true, false => some below
  | false, true => some above
  | false, false => none

/-- The first multiple found when the step runs down the powers of ten; the centre itself is a
multiple of the last one. -/
def Interval.coarsest (tie : Tie) (interval : Interval) : Nat → Nat × Nat
  | 0 => (interval.centre, 0)
  | power + 1 =>
      match interval.multiple? tie (Nat.pow 10 (power + 1)) with
      | some multiple => (multiple, power + 1)
      | none => interval.coarsest tie power

/-- The decimal with the fewest digits among those that round to the magnitude with this code, and
among these the nearest one. -/
def shortest (tie : Tie) (format : Format) (code : Nat) : Decimal :=
  let interval := Interval.around format code
  let found := interval.coarsest tie ((digitsOf interval.centre).length - 1)
  reduce ⟨found.1, (found.2 : Int) - (format.scale + 1 : Nat)⟩

end FilterQuery.Decimal
