import Mathlib.LinearAlgebra.Matrix.Determinant.Basic
import Mathlib.LinearAlgebra.Matrix.NonsingularInverse
import ClippedCylinder.Proofs.Exact.Vec3
import ClippedCylinder.Geometry.Matrix3

/-!
# Matrices over the real numbers

The matrices with three rows as matrices of the library, through which products and
determinants get their laws; the action of a matrix and of its transpose on vectors; and two
properties of linear parts: orthogonality, and columns of norm one, which bound the
determinant by one.
-/

namespace ClippedCylinder.Matrix3

/-! ### Matrices of the library -/

/-- The matrix with its entries indexed by the numbers below three. -/
def toMatrix (m : Matrix3 ℝ) : Matrix (Fin 3) (Fin 3) ℝ :=
  !![m.x.x, m.x.y, m.x.z; m.y.x, m.y.y, m.y.z; m.z.x, m.z.y, m.z.z]

theorem toMatrix_injective :
  Function.Injective toMatrix
  := by
  intro m n h
  have entry (i j : Fin 3) : m.toMatrix i j = n.toMatrix i j := by rw [h]
  ext
  · apply entry 0 0
  · apply entry 0 1
  · apply entry 0 2
  · apply entry 1 0
  · apply entry 1 1
  · apply entry 1 2
  · apply entry 2 0
  · apply entry 2 1
  · apply entry 2 2

@[simp]
theorem toMatrix_identity :
  (identity : Matrix3 ℝ).toMatrix = 1
  := by
  ext i j
  fin_cases i <;> fin_cases j <;> rfl

@[simp]
theorem toMatrix_mul (m n : Matrix3 ℝ) :
  (m.mul n).toMatrix = m.toMatrix * n.toMatrix
  := by
  ext i j
  fin_cases i <;> fin_cases j <;>
    simp [toMatrix, mul, transpose, ofColumns, Vec3.dot_eq, Matrix.mul_apply, Fin.sum_univ_three]

@[simp]
theorem toMatrix_transpose (m : Matrix3 ℝ) :
  m.transpose.toMatrix = m.toMatrix.transpose
  := by
  ext i j
  fin_cases i <;> fin_cases j <;> simp [toMatrix, transpose, ofColumns]

/-- The determinant is the triple product of the columns. -/
theorem det_toMatrix (m : Matrix3 ℝ) :
  m.toMatrix.det = (m.transpose.x.cross m.transpose.y).dot m.transpose.z
  := by
  rw [Matrix.det_fin_three]
  simp only [toMatrix, transpose, ofColumns, Vec3.cross_eq, Vec3.dot_eq, Matrix.of_apply,
    Matrix.cons_val]
  ring

/-! ### Vectors -/

theorem apply_eq (m : Matrix3 ℝ) (v : Vec3 ℝ) :
  m.apply v = ⟨m.x.dot v, m.y.dot v, m.z.dot v⟩
  := by
  ext
  · apply zero_add
  · apply zero_add
  · apply zero_add

theorem apply_mul (m n : Matrix3 ℝ) (v : Vec3 ℝ) :
  (m.mul n).apply v = m.apply (n.apply v)
  := by
  simp only [apply_eq, mul, transpose, ofColumns, Vec3.dot_eq]
  ext
  · ring
  · ring
  · ring

/-- The columns of a product are the images of the columns of the second factor. -/
theorem mul_ofColumns (m : Matrix3 ℝ) (u v w : Vec3 ℝ) :
  m.mul (ofColumns u v w) = ofColumns (m.apply u) (m.apply v) (m.apply w)
  := by
  simp only [apply_eq]
  rfl

/-- A matrix maps the unit vector of a coordinate to its column. -/
theorem ofColumns_apply_unit (u v w : Vec3 ℝ) (c : Coordinate) :
  (ofColumns u v w).apply (Vec3.unit c) = Vec3.get ⟨u, v, w⟩ c
  := by
  simp only [apply_eq, Vec3.dot_unit]
  cases c
  · rfl
  · rfl
  · rfl

@[simp]
theorem identity_apply (v : Vec3 ℝ) :
  (identity : Matrix3 ℝ).apply v = v
  := by
  simp only [apply_eq, identity, diagonal, Vec3.dot_eq]
  ext
  · ring
  · ring
  · ring

theorem neg_apply (m : Matrix3 ℝ) (v : Vec3 ℝ) :
  (-m).apply v = -m.apply v
  := by
  simp only [apply_eq, neg_def, Vec3.neg_def, Vec3.dot_eq]
  ext
  · ring
  · ring
  · ring

theorem apply_neg (m : Matrix3 ℝ) (v : Vec3 ℝ) :
  m.apply (-v) = -m.apply v
  := by
  simp only [apply_eq, Vec3.neg_def, Vec3.dot_eq]
  ext
  · ring
  · ring
  · ring

theorem apply_sub (m : Matrix3 ℝ) (v w : Vec3 ℝ) :
  m.apply (v - w) = m.apply v - m.apply w
  := by
  simp only [apply_eq, Vec3.sub_eq, Vec3.dot_eq]
  ext
  · ring
  · ring
  · ring

theorem apply_dividedBy (m : Matrix3 ℝ) (v : Vec3 ℝ) (c : ℝ) :
  m.apply (v.dividedBy c) = (m.apply v).dividedBy c
  := by
  simp only [apply_eq]
  ext
  · apply Vec3.dot_dividedBy
  · apply Vec3.dot_dividedBy
  · apply Vec3.dot_dividedBy

/-- The transpose moves a matrix to the other side of a scalar product. -/
theorem transpose_apply_dot (m : Matrix3 ℝ) (v w : Vec3 ℝ) :
  (m.transpose.apply v).dot w = v.dot (m.apply w)
  := by
  simp only [apply_eq, transpose, ofColumns, Vec3.dot_eq]
  ring

/-! ### Orthogonal matrices -/

/-- The transpose is an inverse. -/
def IsOrthogonal (m : Matrix3 ℝ) : Prop :=
  m.transpose.mul m = identity

/-- The columns are of norm one. -/
structure HasUnitColumns (m : Matrix3 ℝ) : Prop where
  x : m.transpose.x.dot m.transpose.x = 1
  y : m.transpose.y.dot m.transpose.y = 1
  z : m.transpose.z.dot m.transpose.z = 1

/-- Columns of norm one that are perpendicular to one another make a matrix orthogonal. -/
theorem HasUnitColumns.isOrthogonal {m : Matrix3 ℝ} (h : m.HasUnitColumns)
    (hxy : m.transpose.x.dot m.transpose.y = 0) (hxz : m.transpose.x.dot m.transpose.z = 0)
    (hyz : m.transpose.y.dot m.transpose.z = 0) :
  m.IsOrthogonal
  := by
  have hyx := (Vec3.dot_comm _ _).trans hxy
  have hzx := (Vec3.dot_comm _ _).trans hxz
  have hzy := (Vec3.dot_comm _ _).trans hyz
  ext
  · apply h.x
  · apply hxy
  · apply hxz
  · apply hyx
  · apply h.y
  · apply hyz
  · apply hzx
  · apply hzy
  · apply h.z

theorem IsOrthogonal.hasUnitColumns {m : Matrix3 ℝ} (h : m.IsOrthogonal) :
  m.HasUnitColumns
  := by
  constructor
  · apply congrArg (fun n : Matrix3 ℝ => n.x.x) h
  · apply congrArg (fun n : Matrix3 ℝ => n.y.y) h
  · apply congrArg (fun n : Matrix3 ℝ => n.z.z) h

/-- The transpose of an orthogonal matrix is an inverse on the other side, too. -/
theorem IsOrthogonal.mul_transpose {m : Matrix3 ℝ} (h : m.IsOrthogonal) :
  m.mul m.transpose = identity
  := by
  apply toMatrix_injective
  have h' := congrArg toMatrix h
  simp only [toMatrix_mul, toMatrix_transpose, toMatrix_identity] at h' ⊢
  apply mul_eq_one_comm.mp h'

/-- An orthogonal matrix keeps scalar products. -/
theorem IsOrthogonal.transpose_apply_dot_self {m : Matrix3 ℝ} (h : m.IsOrthogonal) (v : Vec3 ℝ) :
  (m.transpose.apply v).dot (m.transpose.apply v) = v.dot v
  := by
  rw [transpose_apply_dot, ← apply_mul, h.mul_transpose, identity_apply]

/-- An orthogonal matrix keeps lengths. -/
theorem IsOrthogonal.norm_apply {m : Matrix3 ℝ} (h : m.IsOrthogonal) (v : Vec3 ℝ) :
  (m.apply v).norm = v.norm
  := by
  have hm : m.transpose.mul m = identity := h
  have hdot : (m.apply v).dot (m.apply v) = v.dot v := by
    rw [← transpose_apply_dot, ← apply_mul, hm, identity_apply]
  rw [Vec3.norm, hdot, Vec3.norm]

/-! ### Columns of norm one -/

/-- The transpose of a matrix with columns of norm one makes the square of a length at most
three times as large. -/
theorem HasUnitColumns.transpose_apply_dot_self_le {m : Matrix3 ℝ} (h : m.HasUnitColumns)
    (v : Vec3 ℝ) :
  (m.transpose.apply v).dot (m.transpose.apply v) ≤ 3 * v.dot v
  := by
  have hx := Vec3.dot_sq_le m.transpose.x v
  have hy := Vec3.dot_sq_le m.transpose.y v
  have hz := Vec3.dot_sq_le m.transpose.z v
  rw [h.x] at hx
  rw [h.y] at hy
  rw [h.z] at hz
  rw [apply_eq, Vec3.dot_eq]
  change m.transpose.x.dot v * m.transpose.x.dot v + m.transpose.y.dot v * m.transpose.y.dot v
    + m.transpose.z.dot v * m.transpose.z.dot v ≤ 3 * v.dot v
  linarith

/-- The determinant of a matrix with columns of norm one is at most one. -/
theorem HasUnitColumns.abs_det_le_one {m : Matrix3 ℝ} (h : m.HasUnitColumns) :
  |m.toMatrix.det| ≤ 1
  := by
  rw [det_toMatrix]
  apply abs_le_one_iff_mul_self_le_one.mpr
  have hdot := Vec3.dot_sq_le (m.transpose.x.cross m.transpose.y) m.transpose.z
  rw [Vec3.cross_dot_cross, h.x, h.y, h.z] at hdot
  have hsq := sq_nonneg (m.transpose.x.dot m.transpose.y)
  linarith

end ClippedCylinder.Matrix3
