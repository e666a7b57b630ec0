import Mathlib.Analysis.SpecialFunctions.Complex.Arg
import Mathlib.Analysis.SpecialFunctions.Pow.Real
import Mathlib.Analysis.SpecialFunctions.Trigonometric.Arctan
import Mathlib.Analysis.SpecialFunctions.Trigonometric.Inverse
import ClippedCylinder.Scalar.Checked

/-!
# The real numbers as scalars

Exact arithmetic: the scalars are the real numbers with their own operations and order.
Every number is finite, so no square is too large, and every number other than zero has a
reciprocal.
-/

namespace ClippedCylinder

noncomputable instance : Scalar ℝ where
  toZero := inferInstance
  toOne := inferInstance
  toAdd := inferInstance
  toSub := inferInstance
  toMul := inferInstance
  toDiv := inferInstance
  toNeg := inferInstance
  toBEq := instBEqOfDecidableEq
  le x y := decide (x ≤ y)
  lt x y := decide (x < y)
  isFinite _ := true
  isInteger x := decide (x = ⌊x⌋)
  hasReciprocal x := decide (x ≠ 0)
  ofDecimal coefficient exponent := coefficient * 10 ^ exponent
  abs x := |x|
  square x := x ^ 2
  sqrt := Real.sqrt
  exp := Real.exp
  log := Real.log
  sin := Real.sin
  cos := Real.cos
  tan := Real.tan
  asin := Real.arcsin
  acos := Real.arccos
  atan := Real.arctan
  atan2 y x := Complex.arg ⟨x, y⟩
  pow x y := x ^ y
  pi := Real.pi
  e := Real.exp 1

namespace Scalar

variable (x y : ℝ)

/-! ### Tests -/

@[simp]
theorem beq_eq :
  (x == y) = decide (x = y)
  := rfl

@[simp]
theorem le_eq :
  le x y = decide (x ≤ y)
  := rfl

@[simp]
theorem lt_eq :
  lt x y = decide (x < y)
  := rfl

@[simp]
theorem isFinite_eq :
  isFinite x = true
  := rfl

@[simp]
theorem hasReciprocal_eq :
  hasReciprocal x = decide (x ≠ 0)
  := rfl

/-! ### Functions -/

@[simp]
theorem abs_eq :
  abs x = |x|
  := rfl

@[simp]
theorem sqrt_eq :
  sqrt x = Real.sqrt x
  := rfl

@[simp]
theorem exp_eq :
  exp x = Real.exp x
  := rfl

@[simp]
theorem log_eq :
  log x = Real.log x
  := rfl

/-- No square of a real number is too large. -/
@[simp]
theorem square?_eq :
  square? x = .ok (x * x)
  := by
  simp only [square?, isInfinite, isFinite_eq, square, pow_two]
  rfl

/-- The bound for lengths and determinants. -/
theorem epsilon_eq :
  (epsilon : ℝ) = 1 / 1000000000000
  := by
  simp only [epsilon, ofDecimal]
  norm_num

theorem epsilon_pos :
  0 < (epsilon : ℝ)
  := by
  rw [epsilon_eq]
  norm_num

theorem epsilon_lt_half :
  (epsilon : ℝ) < 1 / 2
  := by
  rw [epsilon_eq]
  norm_num

theorem epsilon_lt_one :
  (epsilon : ℝ) < 1
  := epsilon_lt_half.trans one_half_lt_one

/-- The slack of the containment tests. -/
theorem defaultTolerance_eq :
  (defaultTolerance : ℝ) = 1 / 1000000000
  := by
  simp only [defaultTolerance, ofDecimal]
  norm_num

end Scalar

end ClippedCylinder
