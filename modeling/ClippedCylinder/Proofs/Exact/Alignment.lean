import ClippedCylinder.Proofs.Exact.Rotation

/-!
# The third axis under its rotation to another axis

The rotation that is computed for an axis is a rotation for every axis that is long enough.  It
carries the third axis to the direction of the axis, unless the cosine of the angle between the two
is so close to one or minus one that the rotation is replaced
(`Matrix3.rotationAligningZ_carries_axis`).

Where it is replaced, the image of the third axis misses the direction by about the angle to the
closer one of the third axis and its opposite, whereas the cosine differs from one or minus one by
about half the square of this angle.  So a bound for cosines allows for angles far beyond the slack
of the containment tests, and the image keeps to the slack only for the cosines that are closer to
one or minus one than half of its square (`Matrix3.rotationAligningZ_near_iff`).
-/

namespace ClippedCylinder.Matrix3

theorem apply_unit_z (m : Matrix3 ℝ) :
  m.apply (Vec3.unit .z) = m.columnZ
  := ofColumns_apply_unit m.transpose.x m.transpose.y m.transpose.z .z

theorem cosine_unit_z (axis : Vec3 ℝ) :
  (Vec3.unit .z).cosine axis = (axis.dividedBy axis.norm).z
  := by
  rw [Vec3.cosine, unit_z_dot, Vec3.norm_unit_z, one_mul]
  rfl

theorem rotationAligningZ_of_le {axis : Vec3 ℝ} (h : axis.norm ≤ Scalar.epsilon) :
  rotationAligningZ axis = .error (.degenerate (.zeroLength .axis axis))
  := by
  rw [rotationAligningZ, Vec3.direction_of_le h]
  rfl

/-! ### The image of the third axis -/

/-- Unless it is replaced, the rotation to an axis turns about the line perpendicular to the third
axis and the axis. -/
theorem rotationTo_apply_cross {axis : Vec3 ℝ}
    (hl : -1 + Scalar.epsilon < (axis.dividedBy axis.norm).z)
    (hu : (axis.dividedBy axis.norm).z < 1 - Scalar.epsilon) :
  (rotationTo (axis.dividedBy axis.norm)).apply ((Vec3.unit .z).cross axis)
    = (Vec3.unit .z).cross axis
  := by
  have hcross : (⟨-(axis.dividedBy axis.norm).y, (axis.dividedBy axis.norm).x, 0⟩ : Vec3 ℝ)
      = ((Vec3.unit .z).cross axis).dividedBy axis.norm := by
    rw [unit_z_cross]
    ext
    · symm
      apply neg_div
    · rfl
    · symm
      apply zero_div
  rw [rotationTo_of_lt hl hu, hcross, Vec3.dividedBy_dividedBy]
  apply rotationAbout_dividedBy_apply

/-- Where the rotation to a direction is replaced, the image of the third axis is the closer one of
the third unit vector and its opposite. -/
theorem columnZ_rotationTo_dot {target : Vec3 ℝ} (h : 1 - Scalar.epsilon ≤ |target.z|) :
  (rotationTo target).columnZ.dot target = |target.z|
  := by
  have he := Scalar.epsilon_lt_one
  obtain hu | hl := le_abs.mp h
  · rw [rotationTo_of_le hu, abs_of_nonneg (by linarith)]
    apply unit_z_dot
  · rw [rotationTo_of_ge (by linarith), columnZ_halfTurn, abs_of_nonpos (by linarith),
      ← unit_z_dot target]
    simp only [Vec3.neg_def, Vec3.dot_eq]
    ring

/-- The image of the third axis misses a direction only where the rotation is replaced. -/
theorem norm_columnZ_rotationTo_sub {target : Vec3 ℝ} (h : target.dot target = 1) :
  ((rotationTo target).columnZ - target).norm
    = if |target.z| < 1 - Scalar.epsilon then 0 else √(2 * (1 - |target.z|))
  := by
  split
  · rename_i hz
    obtain ⟨hl, hu⟩ := abs_lt.mp hz
    rw [columnZ_rotationTo h (by linarith) hu, Vec3.norm_sub_of_dot_self h h, h, sub_self,
      mul_zero, Real.sqrt_zero]
  · rename_i hz
    have hunit : (rotationTo target).columnZ.dot (rotationTo target).columnZ = 1 :=
      (isRotation_rotationTo h).isOrthogonal.hasUnitColumns.z
    rw [Vec3.norm_sub_of_dot_self hunit h, columnZ_rotationTo_dot (not_lt.mp hz)]

/-! ### Rotations to an axis -/

/-- An axis that is too short is refused.  For every other axis there is a rotation; no number is
divided by zero on the way.  If the cosine of the angle between the third axis and the axis is far
enough from one and minus one, the rotation carries the third axis to the direction of the axis and
keeps the line perpendicular to both; otherwise the image of the third axis is off by at most the
square root of twice the bound for the cosine. -/
theorem rotationAligningZ_carries_axis (axis : Vec3 ℝ) :
  (axis.norm ≤ Scalar.epsilon →
      rotationAligningZ axis = .error (.degenerate (.zeroLength .axis axis))) ∧
    (Scalar.epsilon < axis.norm →
      axis.norm ≠ 0 ∧ ∃ r, rotationAligningZ axis = .ok r ∧ r.IsRotation ∧
        (-1 + Scalar.epsilon < (Vec3.unit .z).cosine axis →
          (Vec3.unit .z).cosine axis < 1 - Scalar.epsilon →
            ((Vec3.unit .z).cross (axis.dividedBy axis.norm)).norm ≠ 0 ∧
            r.apply (Vec3.unit .z) = axis.dividedBy axis.norm ∧
            r.apply ((Vec3.unit .z).cross axis) = (Vec3.unit .z).cross axis) ∧
        ((Vec3.unit .z).cosine axis ≤ -1 + Scalar.epsilon ∨
            1 - Scalar.epsilon ≤ (Vec3.unit .z).cosine axis →
          (r.apply (Vec3.unit .z) - axis.dividedBy axis.norm).norm ≤ √(2 * Scalar.epsilon)))
  := by
  constructor
  · apply rotationAligningZ_of_le
  intro haxis
  have hunit := Vec3.direction_dot_self haxis
  refine ⟨(Scalar.epsilon_pos.trans haxis).ne', _, rotationAligningZ_eq_ok_iff.mpr ⟨haxis, rfl⟩,
    isRotation_rotationTo hunit, ?_, ?_⟩
  · rw [cosine_unit_z, apply_unit_z]
    intro hl hu
    refine ⟨?_, columnZ_rotationTo hunit hl hu, rotationTo_apply_cross hl hu⟩
    rw [unit_z_cross]
    apply (norm_unit_z_cross_pos hunit hl hu).ne'
  · rw [cosine_unit_z, apply_unit_z, norm_columnZ_rotationTo_sub hunit]
    intro hz
    have hclose : 1 - Scalar.epsilon ≤ |(axis.dividedBy axis.norm).z| := by
      rw [le_abs]
      obtain hl | hu := hz
      · right
        linarith
      · left
        exact hu
    rw [if_neg (not_lt.mpr hclose)]
    apply Real.sqrt_le_sqrt
    linarith

/-- An axis that leans by less than a millionth. -/
def nearlyUpright : Vec3 ℝ :=
  ⟨4000000, 0, 3999999999999⟩

theorem norm_nearlyUpright :
  nearlyUpright.norm = 4000000000001
  := by
  apply Vec3.norm_eq_of_mul_self <;> norm_num [nearlyUpright, Vec3.dot_eq]

theorem epsilon_lt_norm_nearlyUpright :
  Scalar.epsilon < nearlyUpright.norm
  := by
  rw [norm_nearlyUpright, Scalar.epsilon_eq]
  norm_num

/-- The rotation to the axis `(3, 0, 4)` carries the third axis to its direction, and that to the
nearly upright axis is replaced. -/
theorem rotationAligningZ_carries_leaning_axes :
  (∃ r, rotationAligningZ (⟨3, 0, 4⟩ : Vec3 ℝ) = .ok r ∧ r.IsRotation ∧
      r.apply (Vec3.unit .z) = ⟨3 / 5, 0, 4 / 5⟩) ∧
    ∃ r, rotationAligningZ nearlyUpright = .ok r ∧ r.IsRotation ∧
      (r.apply (Vec3.unit .z) - nearlyUpright.dividedBy nearlyUpright.norm).norm
        ≤ √(2 * Scalar.epsilon)
  := by
  have he := Scalar.epsilon_eq
  constructor
  · have hnorm := Vec3.norm_three_zero_four
    have hcosine : (Vec3.unit .z).cosine (⟨3, 0, 4⟩ : Vec3 ℝ) = 4 / 5 := by
      rw [cosine_unit_z, hnorm, Vec3.dividedBy_eq]
    obtain ⟨-, r, hr, hrotation, hcarries, -⟩ :=
      (rotationAligningZ_carries_axis ⟨3, 0, 4⟩).2 (by linarith)
    obtain ⟨-, himage, -⟩ := hcarries (by linarith) (by linarith)
    use r, hr, hrotation
    rw [himage, hnorm, Vec3.dividedBy_eq, zero_div]
  · obtain ⟨-, r, hr, hrotation, -, hreplaced⟩ :=
      (rotationAligningZ_carries_axis nearlyUpright).2 epsilon_lt_norm_nearlyUpright
    use r, hr, hrotation
    apply hreplaced
    right
    rw [cosine_unit_z, norm_nearlyUpright, he]
    norm_num [nearlyUpright, Vec3.dividedBy_eq]

/-- The image of the third axis is within the slack of the containment tests of the direction of an
axis exactly if the rotation is not replaced, or the angle to the third axis or its opposite is
itself within the slack. -/
theorem rotationAligningZ_near_iff {axis : Vec3 ℝ} (h : Scalar.epsilon < axis.norm) :
  ∃ r, rotationAligningZ axis = .ok r ∧
    ((r.apply (Vec3.unit .z) - axis.dividedBy axis.norm).norm ≤ Scalar.defaultTolerance
      ↔ |(Vec3.unit .z).cosine axis| < 1 - Scalar.epsilon ∨
        1 - Scalar.defaultTolerance ^ 2 / 2 ≤ |(Vec3.unit .z).cosine axis|)
  := by
  refine ⟨_, rotationAligningZ_eq_ok_iff.mpr ⟨h, rfl⟩, ?_⟩
  rw [cosine_unit_z, apply_unit_z, norm_columnZ_rotationTo_sub (Vec3.direction_dot_self h)]
  generalize |(axis.dividedBy axis.norm).z| = z
  have hpos : 0 ≤ (Scalar.defaultTolerance : ℝ) := by
    rw [Scalar.defaultTolerance_eq]
    norm_num
  split
  · rename_i hz
    exact iff_of_true hpos (Or.inl hz)
  · rename_i hz
    rw [Real.sqrt_le_left hpos, or_iff_right hz]
    constructor
    · intro hle
      linarith
    · intro hle
      linarith

theorem rotationAligningZ_near_iff_of_nearlyUpright :
  Scalar.epsilon < nearlyUpright.norm ∧ ∃ r, rotationAligningZ nearlyUpright = .ok r ∧
    ((r.apply (Vec3.unit .z) - nearlyUpright.dividedBy nearlyUpright.norm).norm
        ≤ Scalar.defaultTolerance
      ↔ |(Vec3.unit .z).cosine nearlyUpright| < 1 - Scalar.epsilon ∨
        1 - Scalar.defaultTolerance ^ 2 / 2 ≤ |(Vec3.unit .z).cosine nearlyUpright|)
  := ⟨epsilon_lt_norm_nearlyUpright, rotationAligningZ_near_iff epsilon_lt_norm_nearlyUpright⟩

/-- The image of the third axis misses the direction of the nearly upright axis by more than the
slack of the containment tests. -/
theorem rotationAligningZ_misses_nearlyUpright :
  Scalar.epsilon < nearlyUpright.norm ∧ ∃ r, rotationAligningZ nearlyUpright = .ok r ∧
    Scalar.defaultTolerance
      < (r.apply (Vec3.unit .z) - nearlyUpright.dividedBy nearlyUpright.norm).norm
  := by
  have hlong := epsilon_lt_norm_nearlyUpright
  have hz : |(nearlyUpright.dividedBy nearlyUpright.norm).z| = 3999999999999 / 4000000000001 := by
    rw [norm_nearlyUpright]
    norm_num [nearlyUpright, Vec3.dividedBy_eq, abs_of_pos]
  have hreplaced : ¬ (3999999999999 / 4000000000001 : ℝ) < 1 - Scalar.epsilon := by
    rw [Scalar.epsilon_eq]
    norm_num
  refine ⟨hlong, _, rotationAligningZ_eq_ok_iff.mpr ⟨hlong, rfl⟩, ?_⟩
  rw [apply_unit_z, norm_columnZ_rotationTo_sub (Vec3.direction_dot_self hlong), hz,
    if_neg hreplaced, Scalar.defaultTolerance_eq]
  apply Real.lt_sqrt_of_sq_lt
  norm_num

end ClippedCylinder.Matrix3
