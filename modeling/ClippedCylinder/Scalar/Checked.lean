import ClippedCylinder.Fault

/-!
# Operations with refused arguments

The operations of expressions.  Each refuses the arguments for which its value is not a
number, and the finite ones whose value is infinite; infinite arguments and arguments that
are no numbers are passed on, as arithmetic has them.
-/

namespace ClippedCylinder.Scalar

variable {K : Type} [Scalar K]

/-- The quotient; nothing is divided by zero. -/
def divide (x y : K) : Except ArithmeticFault K :=
  if y == 0 then .error .divisionByZero else .ok (x / y)

/-- The square root of a number that is not negative. -/
def sqrt? (x : K) : Except ArithmeticFault K :=
  if lt x 0 then .error .domain else .ok (sqrt x)

/-- The logarithm of a positive number. -/
def log? (x : K) : Except ArithmeticFault K :=
  if le x 0 then .error .domain else .ok (log x)

/-- The exponential of a number, when it is not too large. -/
def exp? (x : K) : Except ArithmeticFault K :=
  if isFinite x && isInfinite (exp x) then .error .range else .ok (exp x)

/-- A periodic function of a number that is not infinite. -/
def periodic? (f : K → K) (x : K) : Except ArithmeticFault K :=
  if isInfinite x then .error .domain else .ok (f x)

/-- The inverse of a function whose values are between minus one and one. -/
def arc? (f : K → K) (x : K) : Except ArithmeticFault K :=
  if lt 1 (abs x) then .error .domain else .ok (f x)

/-- The power.  A finite negative number has powers with integral exponents only, and
zero none with a negative exponent. -/
def pow? (x y : K) : Except ArithmeticFault K :=
  if x == 0 && lt y 0 && isFinite y then .error .zeroToNegative
  else if lt x 0 && isFinite x && isFinite y && !isInteger y then
    if isInfinite (pow (abs x) y) then .error .notRealOverflow else .error .notReal
  else if isFinite x && isFinite y && isInfinite (pow x y) then .error .overflow
  else .ok (pow x y)

/-- The square, when it is not too large. -/
def square? (x : K) : Except ArithmeticFault K :=
  if isFinite x && isInfinite (x * x) then .error .overflow else .ok (square x)

end ClippedCylinder.Scalar
