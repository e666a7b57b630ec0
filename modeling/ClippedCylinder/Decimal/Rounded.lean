import ClippedCylinder.Decimal.Shortest

/-!
# Rounding to a number of digits

The decimal with a given number of digits that is nearest to the exact value of a double;
halfway cases go to the even neighbour.
-/

namespace ClippedCylinder.Decimal

/-- The natural number nearest to `num / den`; halfway between two it is the even one. -/
def roundDiv (num den : Nat) : Nat :=
  match Ord.compare (2 * (num % den)) den with
  | .lt => num / den
  | .gt => num / den + 1
  | .eq => if num / den % 2 = 0 then num / den else num / den + 1

/-- The decimal with `n` digits nearest to the magnitude. -/
def Binary.rounded (b : Binary) (n : Nat) : Scaled :=
  if b.significand = 0 then ⟨0, 0⟩
  else
    let exponent := leadingExponent b.numerator b.denominator - (n - 1)
    let (num, den) := inUnits exponent b.numerator b.denominator
    ⟨roundDiv num den, exponent⟩

end ClippedCylinder.Decimal
