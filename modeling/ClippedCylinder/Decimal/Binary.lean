/-!
# Finite doubles as exact numbers

A finite double is a natural number times a power of two, with a sign.  `Binary.ofFloat?`
reads these off the bits.  The magnitude is also given as a quotient of natural numbers,
from which the position of its leading decimal digit and its digits on a decimal grid are
computed exactly.
-/

namespace ClippedCylinder.Decimal

/-- The number `significand * 2 ^ exponent`, negated when `negative` holds. -/
structure Binary where
  negative : Bool
  significand : Nat
  exponent : Int
deriving DecidableEq, Repr

namespace Binary

/-- The least exponent of a double. -/
def leastExponent : Int := -1074

/-- The significand of the least normal double. -/
def leastNormal : Nat := Nat.pow 2 52

/-- The number that a double stands for, unless the double is infinite or not a number. -/
def ofFloat? (x : Float) : Option Binary :=
  let bits := x.toBits.toNat
  let negative := Nat.pow 2 63 ≤ bits
  let field : Nat := bits / Nat.pow 2 52 % Nat.pow 2 11
  let fraction := bits % Nat.pow 2 52
  if field = 2047 then none
  else if field = 0 then some ⟨negative, fraction, leastExponent⟩
  else some ⟨negative, leastNormal + fraction, leastExponent + ((field : Int) - 1)⟩

/-- The numerator of the magnitude. -/
def numerator (b : Binary) : Nat :=
  b.significand * Nat.pow 2 b.exponent.toNat

/-- The denominator of the magnitude. -/
def denominator (b : Binary) : Nat :=
  Nat.pow 2 (-b.exponent).toNat

end Binary

/-! ### Decimal grids -/

/-- The number of decimal digits. -/
def digitCount (n : Nat) : Nat :=
  (Nat.toDigits 10 n).length

/-- For a positive quotient `num / den`, the exponent `e` such that the quotient is at
least `10 ^ e` and less than `10 ^ (e + 1)`. -/
def leadingExponent (num den : Nat) : Int :=
  if den ≤ num then digitCount (num / den) - 1 else -(digitCount ((den - 1) / num) : Int)

/-- The quotient `num / den` as a multiple of `10 ^ exponent`: the numerator and the
denominator of the factor. -/
def inUnits (exponent : Int) (num den : Nat) : Nat × Nat :=
  (num * Nat.pow 10 (-exponent).toNat, den * Nat.pow 10 exponent.toNat)

end ClippedCylinder.Decimal
