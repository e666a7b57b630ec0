import ClippedCylinder.Scalar.Basic

/-!
# Doubles as scalars

The doubles are the scalars that a program computes with.
-/

namespace ClippedCylinder

namespace Double

/-- The double nearest to `coefficient * 10 ^ exponent`.  A decimal that is out of the
range of the doubles is not computed: from `10 ^ 310` on it is infinite, and below
`10 ^ (-350)` it is zero. -/
def ofDecimal (coefficient : Nat) (exponent : Int) : Float :=
  if coefficient = 0 then 0.0
  else
    let digits : Int := (Nat.toDigits 10 coefficient).length
    if 310 < digits + exponent then 1.0 / 0.0
    else if digits + exponent < -350 then 0.0
    else
      match exponent with
      | .ofNat n => Float.ofScientific coefficient false n
      | .negSucc n => Float.ofScientific coefficient true (n + 1)

/-- The least positive double of full precision, `2 ^ (-1022)`. -/
def leastNormal : Float := 2.2250738585072014e-308

end Double

instance : Scalar Float where
  toZero := ⟨0.0⟩
  toOne := ⟨1.0⟩
  toBEq := inferInstance
  toAdd := inferInstance
  toSub := inferInstance
  toMul := inferInstance
  toDiv := inferInstance
  toNeg := inferInstance
  le x y := decide (x ≤ y)
  lt x y := decide (x < y)
  isFinite := Float.isFinite
  isInteger x := x.floor == x
  hasReciprocal x := decide (Double.leastNormal ≤ x.abs)
  ofDecimal := Double.ofDecimal
  abs := Float.abs
  square x := Float.pow x 2.0
  sqrt := Float.sqrt
  exp := Float.exp
  log := Float.log
  sin := Float.sin
  cos := Float.cos
  tan := Float.tan
  asin := Float.asin
  acos := Float.acos
  atan := Float.atan
  atan2 := Float.atan2
  pow := Float.pow
  pi := 3.141592653589793
  e := 2.718281828459045

end ClippedCylinder
