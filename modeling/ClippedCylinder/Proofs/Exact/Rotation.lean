import ClippedCylinder.Proofs.Exact.Elimination
import ClippedCylinder.Proofs.Outcome
import ClippedCylinder.Placement.Rotation

/-!
# Rotations over the real numbers

The matrix for a rotation about a unit vector is orthogonal and of determinant one, and so is the
one for the rotation that carries the third axis to a direction, also where it is replaced by the
unit matrix or the half turn (`isRotation_rotationTo`).  Its third column is the direction unless
it is replaced.
-/

namespace ClippedCylinder.Matrix3

/-- The matrix keeps lengths and the orientation of space. -/
structure IsRotation (m : Matrix3 ℝ) : Prop where
  isOrthogonal : m.IsOrthogonal
  det_eq_one : m.det = 1

theorem isOrthogonal_identity :
  (identity : Matrix3 ℝ).IsOrthogonal
  := by
  apply toMatrix_injective
  rw [toMatrix_mul, toMatrix_transpose, toMatrix_identity, Matrix.transpose_one, one_mul]

theorem isOrthogonal_halfTurn :
  (halfTurn : Matrix3 ℝ).IsOrthogonal
  := by
  apply HasUnitColumns.isOrthogonal
  · constructor <;> norm_num [halfTurn, diagonal, transpose, ofColumns, Vec3.dot_eq]
  · norm_num [halfTurn, diagonal, transpose, ofColumns, Vec3.dot_eq]
  · norm_num [halfTurn, diagonal, transpose, ofColumns, Vec3.dot_eq]
  · norm_num [halfTurn, diagonal, transpose, ofColumns, Vec3.dot_eq]

theorem columnZ_halfTurn :
  (halfTurn : Matrix3 ℝ).columnZ = -Vec3.unit .z
  := by
  ext
  · change (0 : ℝ) = -0
    ring
  · change (0 : ℝ) = -0
    ring
  · rfl

theorem isRotation_identity :
  (identity : Matrix3 ℝ).IsRotation
  := by
  constructor
  · apply isOrthogonal_identity
  · rw [det_eq, toMatrix_identity, Matrix.det_one]

theorem isRotation_halfTurn :
  (halfTurn : Matrix3 ℝ).IsRotation
  := by
  constructor
  · apply isOrthogonal_halfTurn
  · rw [det_eq, det_toMatrix]
    norm_num [halfTurn, diagonal, transpose, ofColumns, Vec3.cross_eq, Vec3.dot_eq]

/-- The columns of the rotation about a vector. -/
theorem transpose_rotationAbout (k : Vec3 ℝ) (s c : ℝ) :
  (rotationAbout k s c).transpose =
    ⟨⟨1 - (1 - c) * (k.y * k.y + k.z * k.z), s * k.z + (1 - c) * (k.x * k.y),
        -s * k.y + (1 - c) * (k.x * k.z)⟩,
      ⟨-s * k.z + (1 - c) * (k.x * k.y), 1 - (1 - c) * (k.x * k.x + k.z * k.z),
        s * k.x + (1 - c) * (k.y * k.z)⟩,
      ⟨s * k.y + (1 - c) * (k.x * k.z), -s * k.x + (1 - c) * (k.y * k.z),
        1 - (1 - c) * (k.x * k.x + k.y * k.y)⟩⟩
  := by
  simp only [rotationAbout, identity, diagonal, scale, crossWith, mul, transpose, ofColumns,
    add_def, Vec3.add_def, Vec3.scale, Vec3.dot_eq]
  ext
  all_goals ring

/-- The rotation about a unit vector by an angle is orthogonal. -/
theorem isOrthogonal_rotationAbout {k : Vec3 ℝ} {s c : ℝ} (hk : k.dot k = 1)
    (hsc : s * s + c * c = 1) :
  (rotationAbout k s c).IsOrthogonal
  := by
  rw [Vec3.dot_eq] at hk
  apply HasUnitColumns.isOrthogonal
  · constructor
    · rw [transpose_rotationAbout, Vec3.dot_eq]
      linear_combination (k.y * k.y + k.z * k.z) * ((1 - c) ^ 2 * hk + hsc)
    · rw [transpose_rotationAbout, Vec3.dot_eq]
      linear_combination (k.x * k.x + k.z * k.z) * ((1 - c) ^ 2 * hk + hsc)
    · rw [transpose_rotationAbout, Vec3.dot_eq]
      linear_combination (k.x * k.x + k.y * k.y) * ((1 - c) ^ 2 * hk + hsc)
  · rw [transpose_rotationAbout, Vec3.dot_eq]
    linear_combination -(k.x * k.y) * ((1 - c) ^ 2 * hk + hsc)
  · rw [transpose_rotationAbout, Vec3.dot_eq]
    linear_combination -(k.x * k.z) * ((1 - c) ^ 2 * hk + hsc)
  · rw [transpose_rotationAbout, Vec3.dot_eq]
    linear_combination -(k.y * k.z) * ((1 - c) ^ 2 * hk + hsc)

/-- The determinant for an arbitrary vector, sine and cosine. -/
theorem det_rotationAbout (k : Vec3 ℝ) (s c : ℝ) :
  (rotationAbout k s c).det = (1 - (1 - c) * k.dot k) ^ 2 + s ^ 2 * k.dot k
  := by
  rw [det_eq, det_toMatrix, transpose_rotationAbout]
  simp only [Vec3.cross_eq, Vec3.dot_eq]
  ring

theorem isRotation_rotationAbout {k : Vec3 ℝ} {s c : ℝ} (hk : k.dot k = 1)
    (hsc : s * s + c * c = 1) :
  (rotationAbout k s c).IsRotation
  := by
  constructor
  · apply isOrthogonal_rotationAbout hk hsc
  · rw [det_rotationAbout, hk]
    linear_combination hsc

/-- A rotation keeps the vectors along its axis. -/
theorem rotationAbout_dividedBy_apply (v : Vec3 ℝ) (b s c : ℝ) :
  (rotationAbout (v.dividedBy b) s c).apply v = v
  := by
  simp only [rotationAbout, identity, diagonal, scale, crossWith, mul, transpose, ofColumns,
    add_def, Vec3.add_def, Vec3.scale, Vec3.dividedBy_eq, apply_eq, Vec3.dot_eq]
  ext
  all_goals ring

/-! ### The rotation to a direction -/

theorem unit_z_dot (v : Vec3 ℝ) :
  (Vec3.unit .z).dot v = v.z
  := (Vec3.dot_comm _ _).trans (v.dot_unit .z)

theorem unit_z_cross (v : Vec3 ℝ) :
  (Vec3.unit .z).cross v = ⟨-v.y, v.x, 0⟩
  := by
  rw [Vec3.cross_eq]
  ext
  · change 0 * v.z - 1 * v.y = -v.y
    ring
  · change 1 * v.x - 0 * v.z = v.x
    ring
  · change 0 * v.y - 0 * v.x = 0
    ring

theorem rotationTo_of_le {target : Vec3 ℝ} (h : 1 - Scalar.epsilon ≤ target.z) :
  rotationTo target = identity
  := by
  simp only [rotationTo, unit_z_dot, Scalar.le_eq]
  apply if_pos (decide_eq_true h)

theorem rotationTo_of_ge {target : Vec3 ℝ} (h : target.z ≤ -1 + Scalar.epsilon) :
  rotationTo target = halfTurn
  := by
  have h' : ¬ 1 - Scalar.epsilon ≤ target.z := by linarith [Scalar.epsilon_lt_half]
  simp only [rotationTo, unit_z_dot, Scalar.le_eq, decide_eq_true_eq]
  rw [if_neg h', if_pos h]

theorem rotationTo_of_lt {target : Vec3 ℝ} (hl : -1 + Scalar.epsilon < target.z)
    (hu : target.z < 1 - Scalar.epsilon) :
  rotationTo target =
    rotationAbout ((⟨-target.y, target.x, 0⟩ : Vec3 ℝ).dividedBy
      (⟨-target.y, target.x, 0⟩ : Vec3 ℝ).norm) (⟨-target.y, target.x, 0⟩ : Vec3 ℝ).norm target.z
  := by
  simp only [rotationTo, unit_z_dot, unit_z_cross, Scalar.le_eq, decide_eq_true_eq]
  rw [if_neg (not_le.mpr hu), if_neg (not_le.mpr hl)]

/-- The sine of the angle between the third axis and a unit vector. -/
theorem norm_unit_z_cross_mul_self {target : Vec3 ℝ} (h : target.dot target = 1) :
  (⟨-target.y, target.x, 0⟩ : Vec3 ℝ).norm * (⟨-target.y, target.x, 0⟩ : Vec3 ℝ).norm
    + target.z * target.z = 1
  := by
  rw [Vec3.norm_mul_norm, ← h, Vec3.dot_eq, Vec3.dot_eq]
  ring

theorem norm_unit_z_cross_pos {target : Vec3 ℝ} (h : target.dot target = 1)
    (hl : -1 + Scalar.epsilon < target.z) (hu : target.z < 1 - Scalar.epsilon) :
  0 < (⟨-target.y, target.x, 0⟩ : Vec3 ℝ).norm
  := by
  have hs := norm_unit_z_cross_mul_self h
  have he := Scalar.epsilon_pos
  apply lt_of_le_of_ne (Vec3.norm_nonneg _)
  intro h0
  rw [← h0] at hs
  nlinarith

/-- The rotation to a unit vector is a rotation, however close the vector is to the third
axis or its opposite. -/
theorem isRotation_rotationTo {target : Vec3 ℝ} (h : target.dot target = 1) :
  (rotationTo target).IsRotation
  := by
  by_cases hu : 1 - Scalar.epsilon ≤ target.z
  · rw [rotationTo_of_le hu]
    apply isRotation_identity
  by_cases hl : target.z ≤ -1 + Scalar.epsilon
  · rw [rotationTo_of_ge hl]
    apply isRotation_halfTurn
  rw [not_le] at hu hl
  rw [rotationTo_of_lt hl hu]
  apply isRotation_rotationAbout
  · apply (Vec3.norm_eq_one_iff _).mp
    apply Vec3.norm_direction (norm_unit_z_cross_pos h hl hu)
  · apply norm_unit_z_cross_mul_self h

/-- Unless it is replaced, the rotation to a unit vector carries the third axis to it. -/
theorem columnZ_rotationTo {target : Vec3 ℝ} (h : target.dot target = 1)
    (hl : -1 + Scalar.epsilon < target.z) (hu : target.z < 1 - Scalar.epsilon) :
  (rotationTo target).columnZ = target
  := by
  have hpos := norm_unit_z_cross_pos h hl hu
  have hs := norm_unit_z_cross_mul_self h
  rw [rotationTo_of_lt hl hu]
  change (rotationAbout _ _ _).transpose.z = target
  rw [transpose_rotationAbout, Vec3.dividedBy_eq]
  generalize (⟨-target.y, target.x, 0⟩ : Vec3 ℝ).norm = s at hpos hs
  rw [Vec3.dot_eq] at h
  ext
  · field_simp
    ring
  · field_simp
    ring
  · field_simp
    linear_combination (1 - target.z) * (hs - h)

/-- The rotation to the direction of an axis exists exactly if the axis is long enough. -/
theorem rotationAligningZ_eq_ok_iff {axis : Vec3 ℝ} {m : Matrix3 ℝ} :
  rotationAligningZ axis = .ok m
    ↔ Scalar.epsilon < axis.norm ∧ rotationTo (axis.dividedBy axis.norm) = m
  := by
  simp only [rotationAligningZ, Outcome.bind_eq_ok_iff, Vec3.direction_eq_ok_iff]
  constructor
  · rintro ⟨_, ⟨h, rfl⟩, hm⟩
    exact ⟨h, Except.ok.inj hm⟩
  · rintro ⟨h, rfl⟩
    exact ⟨_, ⟨h, rfl⟩, rfl⟩

end ClippedCylinder.Matrix3
