import ClippedCylinder.Proofs.Exact.Scalar
import ClippedCylinder.Geometry.Plane
import ClippedCylinder.Placement.Direction

/-!
# Vectors over the real numbers

The algebra of the scalar and the vector product, the angles between vectors, and the operations
on lengths, which over the real numbers fail only for vectors that are too short.  A vector of
norm one is its own direction, and a vector that is long enough has a direction of norm one.
-/

namespace ClippedCylinder

namespace Vec3

/-! ### Products -/

theorem dot_eq (v w : Vec3 ℝ) :
  v.dot w = v.x * w.x + v.y * w.y + v.z * w.z
  := rfl

theorem cross_eq (v w : Vec3 ℝ) :
  v.cross w = ⟨v.y * w.z - v.z * w.y, v.z * w.x - v.x * w.z, v.x * w.y - v.y * w.x⟩
  := rfl

theorem dividedBy_eq (v : Vec3 ℝ) (c : ℝ) :
  v.dividedBy c = ⟨v.x / c, v.y / c, v.z / c⟩
  := rfl

theorem sub_eq (v w : Vec3 ℝ) :
  v - w = ⟨v.x - w.x, v.y - w.y, v.z - w.z⟩
  := rfl

theorem dot_comm (v w : Vec3 ℝ) :
  v.dot w = w.dot v
  := by
  simp only [dot_eq]
  ring

/-- The scalar product with the unit vector of a coordinate is the entry. -/
theorem dot_unit (v : Vec3 ℝ) (c : Coordinate) :
  v.dot (unit c) = v.get c
  := by
  rw [dot_eq]
  cases c with
  | x =>
    change v.x * 1 + v.y * 0 + v.z * 0 = v.x
    ring
  | y =>
    change v.x * 0 + v.y * 1 + v.z * 0 = v.y
    ring
  | z =>
    change v.x * 0 + v.y * 0 + v.z * 1 = v.z
    ring

theorem dot_self_nonneg (v : Vec3 ℝ) :
  0 ≤ v.dot v
  := by
  rw [dot_eq]
  apply add_nonneg (add_nonneg (mul_self_nonneg _) (mul_self_nonneg _)) (mul_self_nonneg _)

theorem add_sub_add_right (u v w : Vec3 ℝ) :
  u + w - (v + w) = u - v
  := by
  ext
  · apply add_sub_add_right_eq_sub
  · apply add_sub_add_right_eq_sub
  · apply add_sub_add_right_eq_sub

theorem dividedBy_dot (v w : Vec3 ℝ) (c : ℝ) :
  (v.dividedBy c).dot w = v.dot w / c
  := by
  simp only [dot_eq, dividedBy_eq]
  ring

theorem dot_dividedBy (v w : Vec3 ℝ) (c : ℝ) :
  v.dot (w.dividedBy c) = v.dot w / c
  := by
  rw [dot_comm, dividedBy_dot, dot_comm]

theorem dot_sub_scale (u v w : Vec3 ℝ) (c : ℝ) :
  u.dot (v - w.scale c) = u.dot v - c * u.dot w
  := by
  simp only [sub_eq, scale, dot_eq]
  ring

/-- Perpendicular vectors stay so when they are divided by numbers. -/
theorem dividedBy_dot_dividedBy_of_eq_zero {v w : Vec3 ℝ} (h : v.dot w = 0) (b c : ℝ) :
  (v.dividedBy b).dot (w.dividedBy c) = 0
  := by
  rw [dividedBy_dot, dot_dividedBy, h, zero_div, zero_div]

theorem scale_eq_dividedBy (v : Vec3 ℝ) (c : ℝ) :
  v.scale c = v.dividedBy c⁻¹
  := by
  simp only [scale, dividedBy_eq, div_inv_eq_mul]

theorem dividedBy_dividedBy (v : Vec3 ℝ) (b c : ℝ) :
  (v.dividedBy b).dividedBy c = v.dividedBy (b * c)
  := by
  simp only [dividedBy_eq, div_div]

@[simp]
theorem dividedBy_one (v : Vec3 ℝ) :
  v.dividedBy 1 = v
  := by
  simp only [dividedBy_eq, div_one]

/-- A vector product is perpendicular to its second factor. -/
theorem cross_dot_right (v w : Vec3 ℝ) :
  (v.cross w).dot w = 0
  := by
  simp only [cross_eq, dot_eq]
  ring

/-- A vector product is perpendicular to its first factor. -/
theorem cross_dot_left (v w : Vec3 ℝ) :
  (v.cross w).dot v = 0
  := by
  simp only [cross_eq, dot_eq]
  ring

/-- A triple product of quotients is the quotient of the triple product. -/
theorem triple_dividedBy (u v w : Vec3 ℝ) (a b c : ℝ) :
  ((u.dividedBy a).cross (v.dividedBy b)).dot (w.dividedBy c)
    = (u.cross v).dot w / (a * b * c)
  := by
  simp only [dividedBy_eq, cross_eq, dot_eq]
  ring

theorem cross_dividedBy (v w : Vec3 ℝ) (b c : ℝ) :
  (v.dividedBy b).cross (w.dividedBy c) = (v.cross w).dividedBy (b * c)
  := by
  simp only [dividedBy_eq, cross_eq]
  ext
  · ring
  · ring
  · ring

theorem cross_scale (v w : Vec3 ℝ) (b c : ℝ) :
  (v.scale b).cross (w.scale c) = (v.cross w).scale (b * c)
  := by
  simp only [scale_eq_dividedBy, cross_dividedBy, mul_inv]

/-- The square of a triple product, told by the scalar products of the factors. -/
theorem triple_sq (u v w : Vec3 ℝ) :
  (u.cross v).dot w ^ 2
    = u.dot u * v.dot v * w.dot w + 2 * (u.dot v * (u.dot w * v.dot w))
      - u.dot u * v.dot w ^ 2 - v.dot v * u.dot w ^ 2 - w.dot w * u.dot v ^ 2
  := by
  simp only [cross_eq, dot_eq]
  ring

/-- The square of the length of a vector product is what the scalar product lacks. -/
theorem cross_dot_cross (v w : Vec3 ℝ) :
  (v.cross w).dot (v.cross w) = v.dot v * w.dot w - v.dot w ^ 2
  := by
  simp only [cross_eq, dot_eq]
  ring

/-- The square of a scalar product is at most the product of the squares of the lengths. -/
theorem dot_sq_le (v w : Vec3 ℝ) :
  v.dot w ^ 2 ≤ v.dot v * w.dot w
  := by
  have h := dot_self_nonneg (v.cross w)
  rw [cross_dot_cross] at h
  linarith

/-! ### Norms -/

theorem norm_nonneg (v : Vec3 ℝ) :
  0 ≤ v.norm
  := Real.sqrt_nonneg _

theorem norm_mul_norm (v : Vec3 ℝ) :
  v.norm * v.norm = v.dot v
  := Real.mul_self_sqrt (dot_self_nonneg v)

/-- The norm is the only number that is not negative and has the square of the length as
its square. -/
theorem norm_eq_of_mul_self {v : Vec3 ℝ} {c : ℝ} (hc : 0 ≤ c) (h : v.dot v = c * c) :
  v.norm = c
  := by
  rw [norm, h]
  apply Real.sqrt_mul_self hc

theorem norm_eq_one_iff (v : Vec3 ℝ) :
  v.norm = 1 ↔ v.dot v = 1
  := Real.sqrt_eq_one

theorem lt_norm_iff {v : Vec3 ℝ} {c : ℝ} (hc : 0 ≤ c) :
  c < v.norm ↔ c ^ 2 < v.dot v
  := Real.lt_sqrt hc

@[simp]
theorem norm_zero :
  (0 : Vec3 ℝ).norm = 0
  := by
  apply norm_eq_of_mul_self (le_refl 0)
  rw [dot_eq]
  change (0 : ℝ) * 0 + 0 * 0 + 0 * 0 = 0 * 0
  ring

theorem norm_dividedBy (v : Vec3 ℝ) {c : ℝ} (hc : 0 < c) :
  (v.dividedBy c).norm = v.norm / c
  := by
  apply norm_eq_of_mul_self (div_nonneg (norm_nonneg v) hc.le)
  rw [dividedBy_dot, dot_dividedBy, ← norm_mul_norm]
  ring

/-- The direction of a vector has the norm one. -/
theorem norm_direction {v : Vec3 ℝ} (h : 0 < v.norm) :
  (v.dividedBy v.norm).norm = 1
  := by
  rw [norm_dividedBy v h]
  apply div_self h.ne'

/-- A positive factor does not change the direction of a vector. -/
theorem direction_dividedBy (v : Vec3 ℝ) {c : ℝ} (hc : 0 < c) :
  (v.dividedBy c).dividedBy (v.dividedBy c).norm = v.dividedBy v.norm
  := by
  rw [norm_dividedBy v hc, dividedBy_dividedBy, mul_div_cancel₀ _ hc.ne']

theorem direction_scale (v : Vec3 ℝ) {c : ℝ} (hc : 0 < c) :
  (v.scale c).dividedBy (v.scale c).norm = v.dividedBy v.norm
  := by
  rw [scale_eq_dividedBy]
  apply direction_dividedBy v (inv_pos.mpr hc)

theorem direction_dot_self {v : Vec3 ℝ} (h : Scalar.epsilon < v.norm) :
  (v.dividedBy v.norm).dot (v.dividedBy v.norm) = 1
  := by
  apply (norm_eq_one_iff _).mp
  apply norm_direction (Scalar.epsilon_pos.trans h)

theorem norm_unit_z :
  (unit .z : Vec3 ℝ).norm = 1
  := by
  rw [norm_eq_one_iff, dot_unit]
  rfl

theorem norm_three_zero_four :
  (⟨3, 0, 4⟩ : Vec3 ℝ).norm = 5
  := by
  apply norm_eq_of_mul_self <;> norm_num [dot_eq]

/-! ### Angles -/

/-- The cosine of the angle between two vectors. -/
noncomputable def cosine (v w : Vec3 ℝ) : ℝ :=
  v.dot w / (v.norm * w.norm)

/-- The sine of the angle between two vectors. -/
noncomputable def sine (v w : Vec3 ℝ) : ℝ :=
  (v.cross w).norm / (v.norm * w.norm)

theorem sine_nonneg (v w : Vec3 ℝ) :
  0 ≤ v.sine w
  := div_nonneg (norm_nonneg _) (mul_nonneg (norm_nonneg v) (norm_nonneg w))

theorem sine_sq (v w : Vec3 ℝ) :
  v.sine w ^ 2 = (v.cross w).dot (v.cross w) / (v.dot v * w.dot w)
  := by
  rw [sine, div_pow, mul_pow]
  simp only [pow_two, norm_mul_norm]

/-- The cosine is the scalar product of the directions. -/
theorem direction_dot_direction (v w : Vec3 ℝ) :
  (v.dividedBy v.norm).dot (w.dividedBy w.norm) = v.cosine w
  := by
  rw [dividedBy_dot, dot_dividedBy, div_div, mul_comm, cosine]

theorem cosine_sq_add_sine_sq {v w : Vec3 ℝ} (hv : 0 < v.norm) (hw : 0 < w.norm) :
  v.cosine w ^ 2 + v.sine w ^ 2 = 1
  := by
  rw [cosine, sine, div_pow, div_pow, ← add_div, div_eq_one_iff_eq (by positivity), pow_two (norm _),
    norm_mul_norm, cross_dot_cross, mul_pow, pow_two v.norm, pow_two w.norm, norm_mul_norm,
    norm_mul_norm]
  ring

/-- The distance of two unit vectors is determined by their scalar product. -/
theorem norm_sub_of_dot_self {v w : Vec3 ℝ} (hv : v.dot v = 1) (hw : w.dot w = 1) :
  (v - w).norm = √(2 * (1 - v.dot w))
  := by
  rw [norm, Scalar.sqrt_eq]
  congr 1
  rw [dot_eq] at hv hw
  rw [sub_eq, dot_eq, dot_eq]
  linear_combination hv + hw

/-! ### Operations that can fail -/

/-- Every vector has a length, its norm. -/
@[simp]
theorem length_eq (v : Vec3 ℝ) :
  v.length = .ok v.norm
  := by
  simp only [length, squareOf, Scalar.square?_eq]
  rfl

@[simp]
theorem isZero_eq (v : Vec3 ℝ) :
  v.isZero = .ok (decide (v.norm ≤ Scalar.epsilon))
  := by
  simp only [isZero, length_eq]
  rfl

theorem normalize_of_le {v : Vec3 ℝ} (h : v.norm ≤ Scalar.epsilon) :
  v.normalize = .ok 0
  := by
  simp only [normalize, length_eq, Scalar.le_eq]
  apply if_pos (decide_eq_true h)

theorem normalize_of_lt {v : Vec3 ℝ} (h : Scalar.epsilon < v.norm) :
  v.normalize = .ok (v.dividedBy v.norm)
  := by
  have hz : v.norm ≠ 0 := (Scalar.epsilon_pos.trans h).ne'
  simp only [normalize, length_eq, Scalar.le_eq]
  apply Eq.trans (if_neg _)
  · simp only [divide, Scalar.beq_eq, hz, decide_false]
    rfl
  · simpa using h

theorem direction_of_le {role : AxisRole} {v : Vec3 ℝ} (h : v.norm ≤ Scalar.epsilon) :
  v.direction role = .error (.degenerate (.zeroLength role v))
  := by
  simp [direction, h]

/-- A vector has a direction exactly if it is long enough. -/
theorem direction_eq_ok_iff {role : AxisRole} {v w : Vec3 ℝ} :
  v.direction role = .ok w ↔ Scalar.epsilon < v.norm ∧ v.dividedBy v.norm = w
  := by
  by_cases h : v.norm ≤ Scalar.epsilon
  · simp [direction, h]
  · simp [direction, h, not_le.mp h]

end Vec3

end ClippedCylinder
