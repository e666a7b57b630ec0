/-!
# Scalars

The numbers of the geometry and of the expressions: a type with arithmetic, an order
given by tests, and the elementary functions.  The operations are total; which arguments
are refused is decided by `Scalar.Checked`.  A program runs on the doubles
(`Scalar.Double`); a statement about exact arithmetic is one about the instance of the
reals.
-/

namespace ClippedCylinder

/-- Numbers with arithmetic, tests and the elementary functions. -/
class Scalar (K : Type) extends Zero K, One K, Add K, Sub K, Mul K, Div K, Neg K, BEq K where
  /-- Whether the first number is at most the second. -/
  le : K → K → Bool
  /-- Whether the first number is less than the second. -/
  lt : K → K → Bool
  /-- Whether the number is neither infinite nor a failed result. -/
  isFinite : K → Bool
  /-- Whether the number has no fractional part. -/
  isInteger : K → Bool
  /-- Whether the number is large enough in magnitude for its reciprocal to be a number of
  full precision; zero is not. -/
  hasReciprocal : K → Bool
  /-- The number `coefficient * 10 ^ exponent`. -/
  ofDecimal : (coefficient : Nat) → (exponent : Int) → K
  /-- The absolute value. -/
  abs : K → K
  /-- The square. -/
  square : K → K
  /-- The square root. -/
  sqrt : K → K
  /-- The exponential function. -/
  exp : K → K
  /-- The natural logarithm. -/
  log : K → K
  /-- The sine. -/
  sin : K → K
  /-- The cosine. -/
  cos : K → K
  /-- The tangent. -/
  tan : K → K
  /-- The inverse of the sine. -/
  asin : K → K
  /-- The inverse of the cosine. -/
  acos : K → K
  /-- The inverse of the tangent. -/
  atan : K → K
  /-- The angle of the point with the given ordinate and abscissa. -/
  atan2 : K → K → K
  /-- The power. -/
  pow : K → K → K
  /-- The half circumference of the unit circle. -/
  pi : K
  /-- The base of the natural logarithm. -/
  e : K

namespace Scalar

variable {K : Type} [Scalar K]

/-- Lengths and determinants up to this bound count as zero. -/
def epsilon : K := ofDecimal 1 (-12)

/-- The slack of the containment tests, unless another one is asked for. -/
def defaultTolerance : K := ofDecimal 1 (-9)

/-- Whether the number is infinite: not finite, but equal to itself. -/
def isInfinite (x : K) : Bool :=
  !isFinite x && x == x

/-- The smaller number; the first one when they are not ordered. -/
def min (x y : K) : K :=
  if lt y x then y else x

/-- The larger number; the first one when they are not ordered. -/
def max (x y : K) : K :=
  if lt x y then y else x

end Scalar

end ClippedCylinder
