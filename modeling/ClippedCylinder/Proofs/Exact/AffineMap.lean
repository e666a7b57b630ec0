import ClippedCylinder.Proofs.Exact.Elimination
import ClippedCylinder.Proofs.Outcome
import ClippedCylinder.Geometry.HalfSpace

/-!
# Affine maps over the real numbers

The inverse of an affine map, and the images of planes.  The image of a plane keeps the same
side: its signed distances are those of the plane, divided by a positive number that depends
on the map and the plane only (`Plane.signedDistance_image`).  So a half-space that is mapped keeps
exactly the images of the points that it kept (`Plane.signedDistance_mapped`).
-/

namespace ClippedCylinder

namespace Point

theorem ofVec_toVec (p : Point ℝ) :
  ofVec p.toVec = p
  := rfl

theorem toVec_injective :
  Function.Injective (toVec : Point ℝ → Vec3 ℝ)
  := by
  intro p q h
  rw [← ofVec_toVec p, h, ofVec_toVec]

theorem minus_eq (p q : Point ℝ) :
  p.minus q = p.toVec - q.toVec
  := rfl

end Point

namespace AffineMap

/-! ### Inverses -/

/-- The inverse map, for a linear part that has an inverse. -/
noncomputable def inv (t : AffineMap ℝ) : AffineMap ℝ :=
  ⟨t.linear.inverse, (-t.linear.inverse).apply t.shift⟩

theorem isInvertible_iff (t : AffineMap ℝ) :
  t.isInvertible = true ↔ Scalar.epsilon < |t.linear.det|
  := t.linear.isInvertible_iff

theorem det_ne_zero {t : AffineMap ℝ} (h : t.isInvertible = true) :
  t.linear.det ≠ 0
  := by
  rw [isInvertible_iff] at h
  apply abs_pos.mp (Scalar.epsilon_pos.trans h)

theorem inverseLinear_eq_ok_iff {t : AffineMap ℝ} {m : Matrix3 ℝ} :
  t.inverseLinear = .ok m ↔ t.isInvertible = true ∧ t.linear.inverse = m
  := by
  unfold inverseLinear
  split
  · simp [*]
  · simp [*]

theorem inverse_eq_ok_iff {t u : AffineMap ℝ} :
  t.inverse = .ok u ↔ t.isInvertible = true ∧ t.inv = u
  := by
  simp only [inverse, Outcome.bind_eq_ok_iff, inverseLinear_eq_ok_iff]
  constructor
  · rintro ⟨_, ⟨h, rfl⟩, hu⟩
    exact ⟨h, Except.ok.inj hu⟩
  · rintro ⟨h, rfl⟩
    exact ⟨_, ⟨h, rfl⟩, rfl⟩

theorem toVec_applyPoint (t : AffineMap ℝ) (p : Point ℝ) :
  (t.applyPoint p).toVec = t.linear.apply p.toVec + t.shift
  := rfl

/-- The vector between two images is the image of the vector between the points. -/
theorem applyPoint_minus (t : AffineMap ℝ) (p q : Point ℝ) :
  (t.applyPoint p).minus (t.applyPoint q) = t.linear.apply (p.minus q)
  := by
  rw [Point.minus_eq, toVec_applyPoint, toVec_applyPoint, Vec3.add_sub_add_right, Point.minus_eq,
    Matrix3.apply_sub]

/-- The inverse map undoes the shift before the linear part. -/
theorem toVec_inv_applyPoint (t : AffineMap ℝ) (p : Point ℝ) :
  (t.inv.applyPoint p).toVec = t.linear.inverse.apply (p.toVec - t.shift)
  := by
  rw [toVec_applyPoint, Matrix3.apply_sub, inv, Matrix3.neg_apply]
  ext
  · symm
    apply sub_eq_add_neg
  · symm
    apply sub_eq_add_neg
  · symm
    apply sub_eq_add_neg

/-- The map leads back what its inverse has moved. -/
theorem applyPoint_inv {t : AffineMap ℝ} (h : t.linear.det ≠ 0) (p : Point ℝ) :
  t.applyPoint (t.inv.applyPoint p) = p
  := by
  apply Point.toVec_injective
  rw [toVec_applyPoint, toVec_inv_applyPoint, ← Matrix3.apply_mul, Matrix3.mul_inverse h,
    Matrix3.identity_apply]
  ext
  · apply sub_add_cancel
  · apply sub_add_cancel
  · apply sub_add_cancel

/-- The inverse map leads back what the map has moved. -/
theorem inv_applyPoint {t : AffineMap ℝ} (h : t.linear.det ≠ 0) (p : Point ℝ) :
  t.inv.applyPoint (t.applyPoint p) = p
  := by
  have hshift : t.linear.apply p.toVec + t.shift - t.shift = t.linear.apply p.toVec := by
    ext
    · apply add_sub_cancel_right
    · apply add_sub_cancel_right
    · apply add_sub_cancel_right
  apply Point.toVec_injective
  rw [toVec_inv_applyPoint, toVec_applyPoint, hshift, ← Matrix3.apply_mul, Matrix3.inverse_mul h,
    Matrix3.identity_apply]

theorem inv_inv {t : AffineMap ℝ} (h : t.linear.det ≠ 0) :
  t.inv.inv = t
  := by
  have hback : t.linear.apply (t.linear.inverse.apply t.shift) = t.shift := by
    rw [← Matrix3.apply_mul, Matrix3.mul_inverse h, Matrix3.identity_apply]
  ext1
  · apply Matrix3.inverse_inverse h
  · change (-t.linear.inverse.inverse).apply ((-t.linear.inverse).apply t.shift) = t.shift
    rw [Matrix3.inverse_inverse h, Matrix3.neg_apply, Matrix3.neg_apply, Matrix3.apply_neg, hback]
    ext
    · apply neg_neg
    · apply neg_neg
    · apply neg_neg

/-- The inverse map of a map with columns of norm one has an inverse: its determinant is not
closer to zero than one. -/
theorem inv_isInvertible {t : AffineMap ℝ} (h : t.isInvertible = true)
    (ht : t.linear.HasUnitColumns) :
  t.inv.isInvertible = true
  := by
  have hdet := abs_pos.mpr (det_ne_zero h)
  have hle := ht.abs_det_le_one
  rw [← Matrix3.det_eq] at hle
  rw [isInvertible_iff, inv, Matrix3.det_inverse (det_ne_zero h), abs_inv]
  apply lt_of_lt_of_le Scalar.epsilon_lt_one
  apply (one_le_inv₀ hdet).mpr hle

end AffineMap

/-! ### Planes -/

namespace Plane

/-- The normal of a plane carried along a map, before it is made a unit vector. -/
noncomputable def carriedNormal (plane : Plane ℝ) (t : AffineMap ℝ) : Vec3 ℝ :=
  t.linear.inverse.transpose.apply plane.normal

/-- The image of a plane, for a map and a plane that have one. -/
noncomputable def image (plane : Plane ℝ) (t : AffineMap ℝ) : Plane ℝ :=
  ⟨t.applyPoint plane.anchor,
    (plane.carriedNormal t).dividedBy (plane.carriedNormal t).norm⟩

theorem through_eq_ok_iff {anchor : Point ℝ} {normal : Vec3 ℝ} {plane : Plane ℝ} :
  through anchor normal = .ok plane ↔ Scalar.epsilon < normal.norm ∧ ⟨anchor, normal⟩ = plane
  := by
  simp only [through, Vec3.isZero_eq, Outcome.bind_eq_ok_iff, Except.ok.injEq, exists_eq_left']
  by_cases h : normal.norm ≤ Scalar.epsilon
  · simp [h, not_lt.mpr h]
  · simp [h, not_le.mp h, pure, Except.pure]

/-- A plane through a point with the direction of a vector as its normal exists exactly if
the vector is long enough. -/
theorem normalize_through_eq_ok_iff {anchor : Point ℝ} {v : Vec3 ℝ} {plane : Plane ℝ} :
  v.normalize >>= through anchor = .ok plane
    ↔ Scalar.epsilon < v.norm ∧ ⟨anchor, v.dividedBy v.norm⟩ = plane
  := by
  rw [Outcome.bind_eq_ok_iff]
  by_cases h : Scalar.epsilon < v.norm
  · have hlong : Scalar.epsilon < (v.dividedBy v.norm).norm := by
      rw [Vec3.norm_direction (Scalar.epsilon_pos.trans h)]
      apply Scalar.epsilon_lt_one
    simp only [Vec3.normalize_of_lt h, Except.ok.injEq, exists_eq_left', through_eq_ok_iff, h,
      hlong]
  · have hshort : ¬ Scalar.epsilon < (0 : Vec3 ℝ).norm := by
      rw [Vec3.norm_zero]
      apply Scalar.epsilon_pos.not_gt
    simp only [Vec3.normalize_of_le (not_lt.mp h), Except.ok.injEq, exists_eq_left',
      through_eq_ok_iff, h, hshort, false_and]

theorem normalize_through_eq_error {anchor : Point ℝ} {v : Vec3 ℝ} {f : Fault ℝ}
    (h : v.normalize >>= through anchor = .error f) :
  f = .geometry .zeroNormal
  := by
  by_cases hlong : Scalar.epsilon < v.norm
  · rw [normalize_through_eq_ok_iff.mpr ⟨hlong, rfl⟩] at h
    cases h
  · have hzero : (0 : Vec3 ℝ).norm ≤ Scalar.epsilon := by
      rw [Vec3.norm_zero]
      apply Scalar.epsilon_pos.le
    rw [Vec3.normalize_of_le (not_lt.mp hlong), Outcome.ok_bind, through, Vec3.isZero_eq,
      Outcome.ok_bind, decide_eq_true hzero] at h
    apply (Except.error.inj h).symm

/-- A plane has an image exactly if the map has an inverse and the carried normal is long
enough. -/
theorem mapped_eq_ok_iff {plane image : Plane ℝ} {t : AffineMap ℝ} :
  plane.mapped t = .ok image
    ↔ (t.isInvertible = true ∧ Scalar.epsilon < (plane.carriedNormal t).norm) ∧
      plane.image t = image
  := by
  rw [mapped, Outcome.bind_eq_ok_iff, and_assoc]
  constructor
  · rintro ⟨m, hm, hp⟩
    obtain ⟨ht, rfl⟩ := AffineMap.inverseLinear_eq_ok_iff.mp hm
    exact ⟨ht, normalize_through_eq_ok_iff.mp hp⟩
  · rintro ⟨ht, hp⟩
    use t.linear.inverse, AffineMap.inverseLinear_eq_ok_iff.mpr ⟨ht, rfl⟩
    apply normalize_through_eq_ok_iff.mpr hp

/-- Under a map with an inverse, a plane has no image only if its normal gets too short. -/
theorem mapped_eq_error {plane : Plane ℝ} {t : AffineMap ℝ} {f : Fault ℝ}
    (h : t.isInvertible = true) (hf : plane.mapped t = .error f) :
  f = .geometry .zeroNormal
  := by
  rw [mapped, AffineMap.inverseLinear_eq_ok_iff.mpr ⟨h, rfl⟩, Outcome.ok_bind] at hf
  apply normalize_through_eq_error hf

/-- The signed distances from the image of a plane are those from the plane, divided by the
norm of the carried normal. -/
theorem signedDistance_image (plane : Plane ℝ) {t : AffineMap ℝ} (h : t.linear.det ≠ 0)
    (p : Point ℝ) :
  (plane.image t).signedDistance (t.applyPoint p)
    = plane.signedDistance p / (plane.carriedNormal t).norm
  := by
  rw [signedDistance, image, AffineMap.applyPoint_minus, Vec3.dividedBy_dot]
  rw [carriedNormal, Matrix3.transpose_apply_dot, ← Matrix3.apply_mul, Matrix3.inverse_mul h,
    Matrix3.identity_apply]
  rfl

/-- The normal that the inverse map carries is the image under the transpose. -/
theorem carriedNormal_inv (plane : Plane ℝ) {t : AffineMap ℝ} (h : t.linear.det ≠ 0) :
  plane.carriedNormal t.inv = t.linear.transpose.apply plane.normal
  := by
  rw [carriedNormal, AffineMap.inv, Matrix3.inverse_inverse h]

/-- The normal comes back from the image under the inverse map, divided by the norm of the
normal that was carried there. -/
theorem carriedNormal_image_inv (plane : Plane ℝ) {t : AffineMap ℝ} (h : t.linear.det ≠ 0) :
  (plane.image t.inv).carriedNormal t
    = plane.normal.dividedBy (plane.carriedNormal t.inv).norm
  := by
  have hback : t.linear.inverse.transpose.apply (plane.carriedNormal t.inv) = plane.normal := by
    rw [carriedNormal_inv plane h, ← Matrix3.apply_mul, Matrix3.transpose_inverse_mul_transpose h,
      Matrix3.identity_apply]
  rw [carriedNormal, image, Matrix3.apply_dividedBy, hback]

/-- A plane with a unit normal comes back from its image under the inverse map. -/
theorem image_image_inv {plane : Plane ℝ} {t : AffineMap ℝ} (h : t.linear.det ≠ 0)
    (hp : plane.normal.norm = 1) (hc : 0 < (plane.carriedNormal t.inv).norm) :
  (plane.image t.inv).image t = plane
  := by
  rw [image, carriedNormal_image_inv plane h, Vec3.norm_dividedBy _ hc, hp,
    Vec3.dividedBy_dividedBy, mul_one_div_cancel hc.ne', Vec3.dividedBy_one]
  ext1
  · apply AffineMap.applyPoint_inv h
  · rfl

end Plane

/-- A half-space has an image exactly if its boundary has one. -/
theorem HalfSpace.mapped_eq_ok_iff {h image : HalfSpace ℝ} {t : AffineMap ℝ} :
  h.mapped t = .ok image
    ↔ (t.isInvertible = true ∧ Scalar.epsilon < (h.boundary.carriedNormal t).norm) ∧
      ⟨h.boundary.image t⟩ = image
  := by
  simp only [mapped, Outcome.bind_eq_ok_iff, Plane.mapped_eq_ok_iff]
  constructor
  · rintro ⟨_, ⟨ht, rfl⟩, hi⟩
    exact ⟨ht, Except.ok.inj hi⟩
  · rintro ⟨ht, rfl⟩
    exact ⟨_, ⟨ht, rfl⟩, rfl⟩

theorem HalfSpace.mapped_mk {plane image : Plane ℝ} {t : AffineMap ℝ}
    (h : plane.mapped t = .ok image) :
  (mk plane).mapped t = .ok ⟨image⟩
  := by
  rw [mapped, h]
  rfl

/-! ### Kept sides -/

namespace Plane

/-- The carried normal is the only vector that the transpose maps to the normal. -/
theorem transpose_apply_eq_normal_iff (plane : Plane ℝ) {t : AffineMap ℝ} (h : t.linear.det ≠ 0)
    (v : Vec3 ℝ) :
  t.linear.transpose.apply v = plane.normal ↔ v = plane.carriedNormal t
  := by
  constructor
  · intro hv
    rw [carriedNormal, ← hv, ← Matrix3.apply_mul, Matrix3.transpose_inverse_mul_transpose h,
      Matrix3.identity_apply]
  · rintro rfl
    rw [carriedNormal, ← Matrix3.apply_mul, Matrix3.transpose_mul_transpose_inverse h,
      Matrix3.identity_apply]

/-- An orthogonal map carries a normal without changing its length. -/
theorem norm_carriedNormal (plane : Plane ℝ) {t : AffineMap ℝ} (h : t.linear.IsOrthogonal) :
  (plane.carriedNormal t).norm = plane.normal.norm
  := by
  rw [carriedNormal, h.inverse_eq]
  apply h.norm_apply

/-- Under a map whose determinant is far enough from zero, a plane has an image exactly if the
vector that the transpose of the linear part maps to its normal is long enough.  The image has a
unit normal, and the signed distances from it are those from the plane, divided by the length of
that vector.  So the half-space of the image keeps the images of the points that are kept.  If the
map is orthogonal and the plane has a unit normal, the distances stay the same, and the points are
kept with every tolerance. -/
theorem signedDistance_mapped (plane : Plane ℝ) {t : AffineMap ℝ}
    (h : Scalar.epsilon < |t.determinant|) :
  (∀ v, t.linear.transpose.apply v = plane.normal ↔ v = plane.carriedNormal t) ∧
    ((∃ image, plane.mapped t = .ok image) ↔ Scalar.epsilon < (plane.carriedNormal t).norm) ∧
    ∀ image, plane.mapped t = .ok image →
      image.normal.norm = 1 ∧ 0 < (plane.carriedNormal t).norm ∧
      (∀ p, image.signedDistance (t.applyPoint p)
        = plane.signedDistance p / (plane.carriedNormal t).norm) ∧
      (HalfSpace.mk plane).mapped t = .ok ⟨image⟩ ∧
      (∀ p, (HalfSpace.mk image).keeps 0 (t.applyPoint p) = (HalfSpace.mk plane).keeps 0 p) ∧
      (t.linear.IsOrthogonal → plane.normal.norm = 1 → ∀ p,
        image.signedDistance (t.applyPoint p) = plane.signedDistance p ∧
        ∀ tolerance, (HalfSpace.mk image).keeps tolerance (t.applyPoint p)
          = (HalfSpace.mk plane).keeps tolerance p)
  := by
  have ht := (AffineMap.isInvertible_iff t).mpr h
  have hdet := AffineMap.det_ne_zero ht
  refine ⟨plane.transpose_apply_eq_normal_iff hdet, ?_, ?_⟩
  · simp only [mapped_eq_ok_iff, ht, true_and, exists_and_left, exists_eq', and_true]
  · intro image himage
    obtain ⟨⟨-, hlong⟩, rfl⟩ := mapped_eq_ok_iff.mp himage
    have hpos := Scalar.epsilon_pos.trans hlong
    have hdistance := plane.signedDistance_image hdet
    refine ⟨Vec3.norm_direction hpos, hpos, hdistance, HalfSpace.mapped_mk himage, ?_, ?_⟩
    · intro p
      simp only [HalfSpace.keeps, hdistance, Scalar.le_eq, div_le_iff₀ hpos, zero_mul]
    · intro horthogonal hunit p
      have hsame : (plane.image t).signedDistance (t.applyPoint p) = plane.signedDistance p := by
        rw [hdistance, plane.norm_carriedNormal horthogonal, hunit, div_one]
      use hsame
      intro tolerance
      rw [HalfSpace.keeps, hsame]
      rfl

end Plane

/-- A map that shears, stretches and reflects space. -/
def AffineMap.shear : AffineMap ℝ :=
  ⟨⟨⟨2, 1, 0⟩, ⟨0, 1, 0⟩, ⟨0, 0, -1⟩⟩, ⟨1, 2, 0⟩⟩

theorem AffineMap.epsilon_lt_abs_determinant_shear :
  Scalar.epsilon < |shear.determinant|
  := by
  have hdet : shear.determinant = -2 := by
    rw [determinant, Matrix3.det_eq, Matrix3.det_toMatrix]
    norm_num [shear, Matrix3.transpose, Matrix3.ofColumns, Vec3.cross_eq, Vec3.dot_eq]
  rw [hdet, abs_neg, abs_two]
  linarith [Scalar.epsilon_lt_one]

/-- The sheared map divides the distances from a plane with the normal `(6, 7, 0)` by the length
of `(3, 4, 0)`, which its transpose maps to the normal. -/
theorem Plane.signedDistance_mapped_shear :
  Scalar.epsilon < |AffineMap.shear.determinant| ∧
    ∃ image, (⟨⟨1, 1, 1⟩, ⟨6, 7, 0⟩⟩ : Plane ℝ).mapped AffineMap.shear = .ok image ∧
      image.normal.norm = 1 ∧
      ∀ p, image.signedDistance (AffineMap.shear.applyPoint p)
        = (⟨⟨1, 1, 1⟩, ⟨6, 7, 0⟩⟩ : Plane ℝ).signedDistance p / 5
  := by
  have hdet := AffineMap.epsilon_lt_abs_determinant_shear
  obtain ⟨honly, hexists, himage⟩ := signedDistance_mapped ⟨⟨1, 1, 1⟩, ⟨6, 7, 0⟩⟩ hdet
  have hcarried := (honly ⟨3, 4, 0⟩).mp (by
    norm_num [AffineMap.shear, Matrix3.apply_eq, Matrix3.transpose, Matrix3.ofColumns, Vec3.dot_eq])
  have hnorm : (⟨3, 4, 0⟩ : Vec3 ℝ).norm = 5 := by
    apply Vec3.norm_eq_of_mul_self <;> norm_num [Vec3.dot_eq]
  rw [← hcarried, hnorm] at hexists himage
  obtain ⟨image, hmapped⟩ := hexists.mpr (by linarith [Scalar.epsilon_lt_one])
  obtain ⟨hunit, -, hdistance, -⟩ := himage image hmapped
  exact ⟨hdet, image, hmapped, hunit, hdistance⟩

end ClippedCylinder
