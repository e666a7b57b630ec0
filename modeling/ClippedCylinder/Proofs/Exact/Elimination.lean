import ClippedCylinder.Proofs.Exact.Matrix3
import ClippedCylinder.Geometry.Elimination

/-!
# Elimination over the real numbers

The elimination of a matrix writes it, with its rows exchanged, as the product of the
multiples and the triangular form (`Elimination.factors_ofMatrix`).  So the determinant and
the inverse that are computed from it are the determinant and the inverse of the matrix
(`Matrix3.det_eq`, `Matrix3.toMatrix_inverse`).
-/

namespace ClippedCylinder

namespace Elimination

/-! ### Pivots -/

theorem isLarger_eq (x y : ℝ) :
  isLarger x y = decide (|x| < |y|)
  := rfl

/-- No entry of a column is larger than the entry of the pivot row. -/
theorem abs_le_abs_pivot (column : Vec3 ℝ) :
  |column.x| ≤ |column.get (pivotRow column)| ∧ |column.y| ≤ |column.get (pivotRow column)| ∧
    |column.z| ≤ |column.get (pivotRow column)|
  := by
  simp only [pivotRow, isLarger_eq, Bool.or_eq_true, decide_eq_true_eq]
  split
  · split
    · simp only [Vec3.get]
      grind
    · simp only [Vec3.get]
      grind
  · simp only [Vec3.get]
    grind

/-- A column whose pivot is zero is zero. -/
theorem eq_zero_of_pivot_eq_zero {column : Vec3 ℝ} (h : column.get (pivotRow column) = 0) :
  column = ⟨0, 0, 0⟩
  := by
  obtain ⟨hx, hy, hz⟩ := abs_le_abs_pivot column
  rw [h, abs_zero] at hx hy hz
  ext
  · apply abs_nonpos_iff.mp hx
  · apply abs_nonpos_iff.mp hy
  · apply abs_nonpos_iff.mp hz

theorem exchangeFirst_x (v : Vec3 ℝ) (c : Coordinate) :
  (v.exchangeFirst c).x = v.get c
  := by
  cases c <;> rfl

theorem multiple_mul {pivot : ℝ} (h : pivot ≠ 0) (entry : ℝ) :
  multiple pivot entry * pivot = entry
  := by
  have hr : 1 / pivot ≠ 0 := one_div_ne_zero h
  simp only [multiple, Scalar.beq_eq, hr, decide_false]
  change entry * (1 / pivot) * pivot = entry
  field_simp

/-! ### The triangular form -/

/-- The column with its rows exchanged as the elimination exchanges them. -/
def exchange (e : Elimination ℝ) (v : Vec3 ℝ) : Vec3 ℝ :=
  (v.exchangeFirst e.first).exchangeLast e.isLastExchanged

/-- The rows of the matrix, exchanged, are combinations of the triangular rows by the
multiples, and the form is singular exactly if an entry on its diagonal is zero. -/
structure Factors (e : Elimination ℝ) (m : Matrix3 ℝ) : Prop where
  columnX : e.exchange m.transpose.x = ⟨e.x.x, e.yx * e.x.x, e.zx * e.x.x⟩
  columnY : e.exchange m.transpose.y =
    ⟨e.x.y, e.yx * e.x.y + e.y.1, e.zx * e.x.y + e.zy * e.y.1⟩
  columnZ : e.exchange m.transpose.z =
    ⟨e.x.z, e.yx * e.x.z + e.y.2, e.zx * e.x.z + e.zy * e.y.2 + e.z⟩
  isSingular : e.isSingular = true ↔ e.x.x = 0 ∨ e.y.1 = 0 ∨ e.z = 0

/-- The first column, with its rows exchanged, consists of the pivot and of multiples of
it. -/
theorem exchangeFirst_pivotRow (column : Vec3 ℝ) {pivot : ℝ} {a : Vec3 ℝ}
    (hp : pivot = column.get (pivotRow column))
    (ha : a = if Scalar.hasReciprocal pivot then
      ⟨(column.exchangeFirst (pivotRow column)).x,
        multiple pivot (column.exchangeFirst (pivotRow column)).y,
        multiple pivot (column.exchangeFirst (pivotRow column)).z⟩ else column) :
  column.exchangeFirst (pivotRow column) = ⟨a.x, a.y * a.x, a.z * a.x⟩ ∧ pivot = a.x
  := by
  have hx := (exchangeFirst_x column (pivotRow column)).trans hp.symm
  subst ha
  by_cases h : pivot = 0
  · have hc := eq_zero_of_pivot_eq_zero (hp.symm.trans h)
    have hr : ¬ Scalar.hasReciprocal pivot = true := by simp [h]
    rw [if_neg hr]
    constructor
    · generalize pivotRow column = c
      rw [hc]
      cases c <;> simp [Vec3.exchangeFirst]
    · rw [h, hc]
  · have hr : Scalar.hasReciprocal pivot = true := by simp [h]
    rw [if_pos hr]
    constructor
    · ext
      · rfl
      · simp only [hx, multiple_mul h]
      · simp only [hx, multiple_mul h]
    · apply hx.symm

/-- Of the two entries that are left of the second column, the larger one becomes the pivot
and the other one a multiple of it; the multiples of the first row follow them. -/
theorem exchangeLast_pivot {ay az u v pivot : ℝ} {isExchanged : Bool} {r : ℝ × ℝ × ℝ × ℝ}
    (hl : isExchanged = isLarger u v) (hp : pivot = if isExchanged then v else u)
    (hr : r = if !Scalar.hasReciprocal pivot then (ay, az, u, v)
      else if isExchanged then (az, ay, v, multiple pivot u) else (ay, az, u, multiple pivot v)) :
  ∃ yx zx k, r = (yx, zx, pivot, k) ∧ ∀ c : ℝ,
    (⟨c, ay * c, az * c⟩ : Vec3 ℝ).exchangeLast isExchanged = ⟨c, yx * c, zx * c⟩ ∧
    (⟨c, ay * c + u, az * c + v⟩ : Vec3 ℝ).exchangeLast isExchanged
      = ⟨c, yx * c + pivot, zx * c + k * pivot⟩
  := by
  rw [isLarger_eq] at hl
  cases isExchanged with
  | true =>
    have hlt : |u| < |v| := by simpa using hl.symm
    have hv : v ≠ 0 := abs_pos.mp ((abs_nonneg u).trans_lt hlt)
    rw [if_pos rfl] at hp
    use az, ay, multiple v u
    simp [hr, hp, hv, Vec3.exchangeLast, multiple_mul hv]
  | false =>
    have hle : |v| ≤ |u| := by simpa using hl.symm
    rw [if_neg Bool.false_ne_true] at hp
    by_cases hu : u = 0
    · rw [hu, abs_zero] at hle
      use ay, az, v
      simp [hr, hp, hu, Vec3.exchangeLast, abs_nonpos_iff.mp hle]
    · use ay, az, multiple u v
      simp [hr, hp, hu, Vec3.exchangeLast, multiple_mul hu]

theorem factors_ofMatrix (m : Matrix3 ℝ) :
  (ofMatrix m).Factors m
  := by
  unfold ofMatrix
  extract_lets columns first px a' a b by₀ bz₀ isLastExchanged py c
  obtain ⟨ha, hpx⟩ := exchangeFirst_pivotRow columns.x (rfl : px = _) (rfl : a = _)
  generalize hr : (if !Scalar.hasReciprocal py then (a.y, a.z, by₀, bz₀)
    else if isLastExchanged then (a.z, a.y, bz₀, multiple py by₀)
    else (a.y, a.z, by₀, multiple py bz₀)) = r
  obtain ⟨yx, zx, k, rfl, hlast⟩ :=
    exchangeLast_pivot (rfl : isLastExchanged = _) (rfl : py = _) hr.symm
  have hb : b = ⟨b.x, a.y * b.x + by₀, a.z * b.x + bz₀⟩ := by
    ext
    · rfl
    · change b.y = a.y * b.x + (b.y - (0 + a.y * b.x))
      ring
    · change b.z = a.z * b.x + (b.z - (0 + a.z * b.x))
      ring
  constructor
  · change (columns.x.exchangeFirst first).exchangeLast isLastExchanged = _
    rw [ha]
    apply (hlast a.x).1
  · change b.exchangeLast isLastExchanged = _
    rw [hb]
    apply (hlast b.x).2
  · change c = _
    ext
    · rfl
    · change c.y = yx * c.x + (c.y - (0 + yx * c.x))
      ring
    · change c.z = zx * c.x + k * (c.y - (0 + yx * c.x)) +
        (c.z - ((0 + zx * c.x) + k * (c.y - (0 + yx * c.x))))
      ring
  · simp [hpx, or_assoc]

/-! ### The determinant -/

/-- A triple product changes its sign with every exchange of rows. -/
theorem exchange_triple (e : Elimination ℝ) (u v w : Vec3 ℝ) :
  ((e.exchange u).cross (e.exchange v)).dot (e.exchange w)
    = (if e.isOdd then -1 else 1) * (u.cross v).dot w
  := by
  obtain ⟨first, isLastExchanged, _, _, _, _, _, _, _⟩ := e
  cases first <;> cases isLastExchanged <;>
    simp [exchange, isOdd, Vec3.exchangeFirst, Vec3.exchangeLast, Vec3.cross_eq, Vec3.dot_eq] <;>
    ring

/-- The signs of numbers and the product of their magnitudes make their product. -/
theorem foldl_sign_mul_prod_abs (ps : List ℝ) (s : ℝ) :
  ps.foldl (fun s p => if Scalar.lt p 0 then -s else s) s * (ps.map fun p => |p|).prod
    = s * ps.prod
  := by
  induction ps generalizing s with
  | nil => rfl
  | cons p ps ih =>
    have hp : (if Scalar.lt p 0 then -s else s) * |p| = s * p := by
      by_cases h : p < 0
      · simp [h, abs_of_neg h]
      · simp [h, abs_of_nonneg (not_lt.mp h)]
    rw [List.foldl_cons, List.map_cons, List.prod_cons, List.prod_cons, mul_left_comm, ih,
      ← mul_assoc, mul_comm |p|, hp, mul_assoc]

/-- The exponential of the sum of the logarithms of magnitudes is their product. -/
theorem exp_foldl_log_abs (ps : List ℝ) (h : ∀ p ∈ ps, p ≠ 0) (a : ℝ) :
  Real.exp ((ps.map fun p => Scalar.log (Scalar.abs p)).foldl (· + ·) a)
    = Real.exp a * (ps.map fun p => |p|).prod
  := by
  induction ps generalizing a with
  | nil => simp
  | cons p ps ih =>
    obtain ⟨hp, hps⟩ := List.forall_mem_cons.mp h
    rw [List.map_cons, List.foldl_cons, ih hps, Scalar.log_eq, Scalar.abs_eq, Real.exp_add,
      Real.exp_log (abs_pos.mpr hp), List.map_cons, List.prod_cons, mul_assoc]

/-- The sign and the magnitude, which is computed from logarithms, make the product of the
pivots up to the sign of the exchanges. -/
theorem determinant_eq {e : Elimination ℝ} {m : Matrix3 ℝ} (h : e.Factors m) :
  e.determinant = (if e.isOdd then -1 else 1) * e.pivots.prod
  := by
  unfold determinant
  split
  · rename_i hs
    rw [h.isSingular] at hs
    simp only [pivots, List.prod_cons, List.prod_nil]
    obtain hx | hy | hz := hs
    · simp [hx]
    · simp [hy]
    · simp [hz]
  · rename_i hs
    rw [h.isSingular, not_or, not_or] at hs
    have hne : ∀ p ∈ e.pivots, p ≠ 0 := by
      simp only [pivots, List.forall_mem_cons, List.not_mem_nil, false_imp_iff, implies_true,
        and_true]
      apply hs
    change e.sign * Real.exp _ = _
    rw [exp_foldl_log_abs _ hne, Real.exp_zero, one_mul]
    apply foldl_sign_mul_prod_abs

/-! ### Solutions -/

theorem exchange_injective (e : Elimination ℝ) :
  Function.Injective e.exchange
  := by
  intro v w h
  obtain ⟨first, isLastExchanged, _, _, _, _, _, _, _⟩ := e
  rw [Vec3.ext_iff] at h ⊢
  cases first <;> cases isLastExchanged <;>
    simp_all [exchange, Vec3.exchangeFirst, Vec3.exchangeLast]

/-- The image of a vector, with its rows exchanged, is the combination of the exchanged
columns. -/
theorem exchange_apply (e : Elimination ℝ) (m : Matrix3 ℝ) (v : Vec3 ℝ) :
  e.exchange (m.apply v)
    = (Matrix3.ofColumns (e.exchange m.transpose.x) (e.exchange m.transpose.y)
        (e.exchange m.transpose.z)).apply v
  := by
  obtain ⟨first, isLastExchanged, _, _, _, _, _, _, _⟩ := e
  cases first <;> cases isLastExchanged <;> rfl

/-- The solution of an equation is mapped to the given vector. -/
theorem apply_solve {e : Elimination ℝ} {m : Matrix3 ℝ} (h : e.Factors m)
    (hs : e.isSingular = false) (w : Vec3 ℝ) :
  m.apply (e.solve w) = w
  := by
  rw [← Bool.not_eq_true, h.isSingular, not_or, not_or] at hs
  obtain ⟨hx, hy, hz⟩ := hs
  apply e.exchange_injective
  rw [exchange_apply, h.columnX, h.columnY, h.columnZ, Matrix3.apply_eq]
  unfold solve
  extract_lets w' y z vz vy vx
  change _ = w'
  have hvz : e.z * vz = z := by
    change e.z * (z * (1 / e.z)) = z
    field_simp
  have hvy : e.y.1 * vy + e.y.2 * vz = y := by
    change e.y.1 * ((y - (0 + e.y.2 * vz)) * (1 / e.y.1)) + e.y.2 * vz = y
    field_simp
    ring
  have hvx : e.x.x * vx + e.x.y * vy + e.x.z * vz = w'.x := by
    change e.x.x * (((w'.x - (0 + e.x.z * vz)) - vy * e.x.y) * (1 / e.x.x))
      + e.x.y * vy + e.x.z * vz = w'.x
    field_simp
    ring
  have hy' : y = w'.y - w'.x * e.yx := rfl
  have hz' : z = w'.z - ((0 + e.zx * w'.x) + e.zy * y) := rfl
  clear_value w' y z vz vy vx
  ext
  · simp only [Matrix3.ofColumns, Vec3.dot_eq]
    linarith
  · simp only [Matrix3.ofColumns, Vec3.dot_eq]
    linear_combination e.yx * hvx + hvy + hy'
  · simp only [Matrix3.ofColumns, Vec3.dot_eq]
    linear_combination e.zx * hvx + e.zy * hvy + hvz + hz'

end Elimination

namespace Matrix3

/-! ### Exactness -/

/-- The determinant that is computed is the determinant. -/
theorem det_eq (m : Matrix3 ℝ) :
  m.det = m.toMatrix.det
  := by
  have h := Elimination.factors_ofMatrix m
  have htriple := (Elimination.ofMatrix m).exchange_triple m.transpose.x m.transpose.y m.transpose.z
  rw [h.columnX, h.columnY, h.columnZ, ← det_toMatrix] at htriple
  rw [det, Elimination.determinant_eq h]
  generalize Elimination.ofMatrix m = e at htriple
  have hpivots : e.pivots.prod = (if e.isOdd then -1 else 1) * m.toMatrix.det := by
    rw [← htriple]
    simp only [Elimination.pivots, List.prod_cons, List.prod_nil, Vec3.cross_eq, Vec3.dot_eq]
    ring
  rw [hpivots]
  split
  · ring
  · ring

theorem isSingular_iff (m : Matrix3 ℝ) :
  (Elimination.ofMatrix m).isSingular = true ↔ m.det = 0
  := by
  have h := Elimination.factors_ofMatrix m
  rw [h.isSingular, det, Elimination.determinant_eq h]
  split <;> simp [Elimination.pivots]

theorem isInvertible_iff (m : Matrix3 ℝ) :
  m.isInvertible = true ↔ Scalar.epsilon < |m.det|
  := by
  simp [isInvertible]

/-! ### Inverses -/

theorem mul_inverse {m : Matrix3 ℝ} (h : m.det ≠ 0) :
  m.mul m.inverse = identity
  := by
  have hs : (Elimination.ofMatrix m).isSingular = false := by
    rw [← Bool.not_eq_true, isSingular_iff]
    apply h
  have column (w : Vec3 ℝ) := Elimination.apply_solve (Elimination.factors_ofMatrix m) hs w
  rw [inverse, mul_ofColumns, column, column, column]
  rfl

/-- The inverse that is computed is the inverse. -/
theorem toMatrix_inverse {m : Matrix3 ℝ} (h : m.det ≠ 0) :
  m.inverse.toMatrix = m.toMatrix⁻¹
  := by
  have hm := congrArg toMatrix (mul_inverse h)
  rw [toMatrix_mul, toMatrix_identity] at hm
  apply (Matrix.inv_eq_right_inv hm).symm

theorem inverse_mul {m : Matrix3 ℝ} (h : m.det ≠ 0) :
  m.inverse.mul m = identity
  := by
  have hm := congrArg toMatrix (mul_inverse h)
  apply toMatrix_injective
  rw [toMatrix_mul, toMatrix_identity] at hm ⊢
  apply mul_eq_one_comm.mp hm

/-- The transposes of a matrix and of its inverse are inverse to each other, too. -/
theorem transpose_inverse_mul_transpose {m : Matrix3 ℝ} (h : m.det ≠ 0) :
  m.inverse.transpose.mul m.transpose = identity
  := by
  have hm := congrArg (fun n : Matrix3 ℝ => n.toMatrix.transpose) (mul_inverse h)
  apply toMatrix_injective
  simp only [toMatrix_mul, toMatrix_transpose, toMatrix_identity, Matrix.transpose_mul,
    Matrix.transpose_one] at hm ⊢
  apply hm

theorem det_inverse {m : Matrix3 ℝ} (h : m.det ≠ 0) :
  m.inverse.det = m.det⁻¹
  := by
  rw [det_eq, toMatrix_inverse h, Matrix.det_nonsing_inv, Ring.inverse_eq_inv', det_eq]

theorem det_inverse_ne_zero {m : Matrix3 ℝ} (h : m.det ≠ 0) :
  m.inverse.det ≠ 0
  := by
  rw [det_inverse h]
  apply inv_ne_zero h

theorem inverse_inverse {m : Matrix3 ℝ} (h : m.det ≠ 0) :
  m.inverse.inverse = m
  := by
  apply toMatrix_injective
  rw [toMatrix_inverse (det_inverse_ne_zero h), toMatrix_inverse h,
    Matrix.nonsing_inv_nonsing_inv]
  rw [← det_eq]
  apply isUnit_iff_ne_zero.mpr h

theorem transpose_mul_transpose_inverse {m : Matrix3 ℝ} (h : m.det ≠ 0) :
  m.transpose.mul m.inverse.transpose = identity
  := by
  have hm := transpose_inverse_mul_transpose (det_inverse_ne_zero h)
  rw [inverse_inverse h] at hm
  apply hm

theorem IsOrthogonal.det_ne_zero {m : Matrix3 ℝ} (h : m.IsOrthogonal) :
  m.det ≠ 0
  := by
  have hdet := congrArg (fun n : Matrix3 ℝ => n.toMatrix.det) h
  simp only [toMatrix_mul, toMatrix_identity, Matrix.det_mul, Matrix.det_one] at hdet
  rw [det_eq]
  apply right_ne_zero_of_mul_eq_one hdet

/-- The inverse of an orthogonal matrix is its transpose. -/
theorem IsOrthogonal.inverse_eq {m : Matrix3 ℝ} (h : m.IsOrthogonal) :
  m.inverse = m.transpose
  := by
  have hm := congrArg toMatrix h
  rw [toMatrix_mul, toMatrix_identity] at hm
  apply toMatrix_injective
  rw [toMatrix_inverse h.det_ne_zero]
  apply Matrix.inv_eq_left_inv hm

end Matrix3

end ClippedCylinder
