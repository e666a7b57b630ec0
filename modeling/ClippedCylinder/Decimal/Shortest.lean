import ClippedCylinder.Decimal.Binary

/-!
# Shortest digits

The decimal that stands for a double is the shortest one that no other double is closer
to; among those of equal length it is the nearest.  The numbers that round to a double
form an interval around it, which includes its ends when the significand is even.  For
1, 2, … 17 digits the two neighbours of the double on the decimal grid with that many
digits are tested, and the first grid with a neighbour inside the interval wins.
-/

namespace ClippedCylinder.Decimal

/-- The decimal `coefficient * 10 ^ exponent`. -/
structure Scaled where
  coefficient : Nat
  exponent : Int
deriving DecidableEq, Repr

/-- How `coefficient * 10 ^ exponent` compares with `significand * 2 ^ power`. -/
def Scaled.compare (s : Scaled) (significand : Nat) (power : Int) : Ordering :=
  Ord.compare
    (s.coefficient * Nat.pow 10 s.exponent.toNat * Nat.pow 2 (-power).toNat)
    (significand * Nat.pow 2 power.toNat * Nat.pow 10 (-s.exponent).toNat)

namespace Binary

/-- The lower end of the numbers that round to the magnitude, in quarters of its last
place: below a power of two the doubles are twice as dense. -/
def lowerEnd (b : Binary) : Nat :=
  if b.significand = leastNormal ∧ leastExponent < b.exponent then 4 * b.significand - 1
  else 4 * b.significand - 2

/-- The upper end of the numbers that round to the magnitude, in quarters of its last
place. -/
def upperEnd (b : Binary) : Nat :=
  4 * b.significand + 2

/-- Whether the decimal rounds to the magnitude. -/
def isRoundedFrom (b : Binary) (s : Scaled) : Bool :=
  let low := s.compare b.lowerEnd (b.exponent - 2)
  let high := s.compare b.upperEnd (b.exponent - 2)
  if b.significand % 2 = 0 then low != .lt && high != .gt else low == .gt && high == .lt

/-- The decimal with `n` digits that rounds to the magnitude and is nearest to it, if
there is one; of two equally near ones it is the even one. -/
def shortestWith? (b : Binary) (n : Nat) : Option Scaled :=
  let exponent := leadingExponent b.numerator b.denominator - (n - 1)
  let (num, den) := inUnits exponent b.numerator b.denominator
  let below : Scaled := ⟨num / den, exponent⟩
  let above : Scaled := ⟨num / den + 1, exponent⟩
  match b.isRoundedFrom below, b.isRoundedFrom above with
  | false, false => none
  | true, false => some below
  | false, true => some above
  | true, true =>
    match Ord.compare (2 * num) ((2 * (num / den) + 1) * den) with
    | .lt => some below
    | .gt => some above
    | .eq => if below.coefficient % 2 = 0 then some below else some above

/-- The shortest decimal that rounds to the magnitude; 17 digits always suffice. -/
def shortest (b : Binary) : Scaled :=
  if b.significand = 0 then ⟨0, 0⟩
  else ((List.range' 1 17).findSome? b.shortestWith?).getD ⟨b.significand, b.exponent⟩

end Binary

end ClippedCylinder.Decimal
