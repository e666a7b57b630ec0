import ClippedCylinder.Proofs.Exact.Assembly

/-!
# Round cylinders over the real numbers

A cylinder with two equal half widths and a perpendicular frame, or none, is round: it contains
the points whose distances from its axis, along its axis and from its planes are small enough
(`Cylinder.round_contains_iff`).  How the frame turns about the axis does not matter.
-/

namespace ClippedCylinder

/-- The inverse of an orthogonal map applies the transpose. -/
theorem AffineMap.toVec_inv_applyPoint_of_isOrthogonal {t : AffineMap ℝ}
    (h : t.linear.IsOrthogonal) (p : Point ℝ) :
  (t.inv.applyPoint p).toVec = t.linear.transpose.apply (p.toVec - t.shift)
  := by
  rw [toVec_inv_applyPoint, h.inverse_eq]

namespace Cylinder

variable {name : String} {s : CylinderSpec ℝ} {c : Cylinder ℝ} {r : ℝ}

/-! ### Distances from the axis and along it -/

theorem isFlat_eq_false (hr : 0 < r) (hdx : c.spec.dx = r) (hdy : c.spec.dy = r) :
  c.isFlat = false
  := by
  simp [isFlat, hdx, hdy, hr]

theorem solidContains_eq_true_iff (hr : 0 < r) (hdx : c.spec.dx = r) (hdy : c.spec.dy = r)
    (tolerance : ℝ) (q : Point ℝ) :
  c.solidContains tolerance q = true
    ↔ q.x * q.x + q.y * q.y ≤ r ^ 2 * (1 + tolerance) ∧ |q.z| ≤ c.spec.dz + tolerance
  := by
  have hradius : q.x / r * (q.x / r) + q.y / r * (q.y / r) = (q.x * q.x + q.y * q.y) / r ^ 2 := by
    field_simp
  simp only [solidContains, hdx, hdy, Bool.and_eq_true, Scalar.le_eq, Scalar.abs_eq,
    decide_eq_true_eq]
  rw [hradius, div_le_iff₀' (pow_pos hr 2)]

/-- The solid of a round cylinder is bounded by the distance from the axis, which is what the
distance along the axis lacks, and by the distance along the axis. -/
theorem inSolid_iff_of_isOrthogonal (hr : 0 < r) (hdx : c.spec.dx = r) (hdy : c.spec.dy = r)
    (h : c.placement.linear.IsOrthogonal) {p : Point ℝ} {d : Vec3 ℝ}
    (hd : p.toVec - c.placement.shift = d) (tolerance : ℝ) :
  c.InSolid tolerance p
    ↔ d.dot d - d.dot c.placement.linear.columnZ ^ 2 ≤ r ^ 2 * (1 + tolerance) ∧
      |d.dot c.placement.linear.columnZ| ≤ c.spec.dz + tolerance
  := by
  have hq := AffineMap.toVec_inv_applyPoint_of_isOrthogonal h p
  rw [hd] at hq
  unfold InSolid
  generalize c.placement.inv.applyPoint p = q at hq
  have hz : q.z = d.dot c.placement.linear.columnZ := by
    rw [Vec3.dot_comm]
    apply (congrArg Vec3.z hq).trans
    rw [Matrix3.apply_eq]
    rfl
  have hsquare : q.x * q.x + q.y * q.y = d.dot d - q.z ^ 2 := by
    rw [← h.transpose_apply_dot_self, ← hq, Vec3.dot_eq]
    change _ = q.x * q.x + q.y * q.y + q.z * q.z - q.z ^ 2
    ring
  rw [solidContains_eq_true_iff hr hdx hdy, hsquare, hz]
  apply and_iff_right (isFlat_eq_false hr hdx hdy)

/-- A round cylinder contains a point exactly if its distances from the axis, along the axis and
from the planes are small enough. -/
theorem contains_of_hasPerpendicularFrame (hr : 0 < r) (hdx : s.dx = r) (hdy : s.dy = r)
    (hplanes : ∀ plane ∈ s.planes, plane.normal.norm = 1) (hs : s.HasPerpendicularFrame)
    (h : (assemble name s).outcome = .ok c) (tolerance : ℝ) (p : Point ℝ) :
  ∃ b, c.contains tolerance p = .ok b ∧
    (b = true
      ↔ ((p.minus s.origin).dot (p.minus s.origin)
            - (p.minus s.origin).dot c.placement.linear.columnZ ^ 2 ≤ r ^ 2 * (1 + tolerance) ∧
          |(p.minus s.origin).dot c.placement.linear.columnZ| ≤ s.dz + tolerance) ∧
        ∀ plane ∈ s.planes, plane.signedDistance p ≤ tolerance)
  := by
  obtain ⟨horientation, hshift, -⟩ := CylinderSpec.placement_eq_ok_iff.mp (placement_assemble h)
  have horthogonal := CylinderSpec.orientation_isOrthogonal horientation hs
  have hspec := spec_assemble h
  have hd : p.toVec - c.placement.shift = p.minus s.origin := by
    rw [hshift, Point.minus_eq]
  obtain ⟨b, hb, hiff⟩ := contains_assemble h tolerance p
  use b, hb
  rw [inSolid_iff_of_isOrthogonal hr (hspec ▸ hdx) (hspec ▸ hdy) horthogonal hd, hspec] at hiff
  rw [hiff]
  apply and_congr_right'
  apply forall₂_congr
  intro plane hplane
  rw [norm_carriedNormal_of_isOrthogonal horthogonal (hplanes plane hplane), mul_one]

/-! ### Frames -/

/-- The columns of a frame across the axis do not matter to a round cylinder, as long as the
axis is kept. -/
theorem contains_eq_of_frames {x y : Option (Vec3 ℝ)} {c' : Cylinder ℝ} (hr : 0 < r)
    (hdx : s.dx = r) (hdy : s.dy = r) (hplanes : ∀ plane ∈ s.planes, plane.normal.norm = 1)
    (hs : s.HasPerpendicularFrame)
    (hs' : { s with frameX := x, frameY := y }.HasPerpendicularFrame) (haxis : s.KeepsAxis)
    (haxis' : { s with frameX := x, frameY := y }.KeepsAxis)
    (h : (assemble name s).outcome = .ok c)
    (h' : (assemble name { s with frameX := x, frameY := y }).outcome = .ok c')
    (tolerance : ℝ) (p : Point ℝ) :
  c'.contains tolerance p = c.contains tolerance p
  := by
  obtain ⟨b, hb, hiff⟩ :=
    contains_of_hasPerpendicularFrame hr hdx hdy hplanes hs h tolerance p
  obtain ⟨b', hb', hiff'⟩ :=
    contains_of_hasPerpendicularFrame (s := { s with frameX := x, frameY := y }) hr hdx hdy
      hplanes hs' h' tolerance p
  have horientation := (CylinderSpec.placement_eq_ok_iff.mp (placement_assemble h)).1
  have horientation' := (CylinderSpec.placement_eq_ok_iff.mp (placement_assemble h')).1
  rw [CylinderSpec.orientation_columnZ horientation haxis] at hiff
  rw [CylinderSpec.orientation_columnZ horientation' haxis'] at hiff'
  rw [hb, hb']
  congr 1
  rw [Bool.eq_iff_iff, hiff, hiff']

/-- A cylinder with two equal half widths, planes with unit normals and a perpendicular frame or
none contains a point exactly if the distances of the point from the axis, along the axis and
from the planes in the world are small enough.  The axis is the third column of the placement:
the direction of the described axis, or the third unit vector or its opposite where the
orientation is replaced.  Other perpendicular frames give the same answers. -/
theorem round_contains_iff (hr : 0 < r) (hdx : s.dx = r) (hdy : s.dy = r)
    (hplanes : ∀ plane ∈ s.planes, plane.normal.norm = 1) (hs : s.HasPerpendicularFrame)
    (h : (assemble name s).outcome = .ok c) :
  (∀ tolerance p, ∃ b, c.contains tolerance p = .ok b ∧
      (b = true
        ↔ ((p.minus s.origin).dot (p.minus s.origin)
              - (p.minus s.origin).dot c.placement.linear.columnZ ^ 2
            ≤ r ^ 2 * (1 + tolerance) ∧
            |(p.minus s.origin).dot c.placement.linear.columnZ| ≤ s.dz + tolerance) ∧
          ∀ plane ∈ s.planes, plane.signedDistance p ≤ tolerance)) ∧
    (s.KeepsAxis → c.placement.linear.columnZ = s.axis.dividedBy s.axis.norm) ∧
    (¬ s.KeepsAxis →
      (1 - Scalar.epsilon ≤ (s.axis.dividedBy s.axis.norm).z ∧
          c.placement.linear.columnZ = Vec3.unit .z) ∨
        ((s.axis.dividedBy s.axis.norm).z ≤ -1 + Scalar.epsilon ∧
          c.placement.linear.columnZ = -Vec3.unit .z)) ∧
    ∀ x y c', s.KeepsAxis → { s with frameX := x, frameY := y }.KeepsAxis →
      { s with frameX := x, frameY := y }.HasPerpendicularFrame →
      (assemble name { s with frameX := x, frameY := y }).outcome = .ok c' →
      ∀ tolerance p, c'.contains tolerance p = c.contains tolerance p
  := by
  have horientation := (CylinderSpec.placement_eq_ok_iff.mp (placement_assemble h)).1
  refine ⟨?_, ?_, ?_, ?_⟩
  · apply contains_of_hasPerpendicularFrame hr hdx hdy hplanes hs h
  · apply CylinderSpec.orientation_columnZ horientation
  · apply CylinderSpec.orientation_columnZ_of_not_keepsAxis horientation
  · intro x y c' haxis haxis' hs' h'
    apply contains_eq_of_frames hr hdx hdy hplanes hs hs' haxis haxis' h h'

/-- The frame vector `(3, 0, 0)` is perpendicular to the axis. -/
theorem round_contains_leaning_iff :
  ∃ c, (assemble "Cyl" (leaning 0)).outcome = .ok c ∧
    ∀ tolerance p, ∃ b, c.contains tolerance p = .ok b ∧
      (b = true
        ↔ ((p.minus ⟨0, 0, 0⟩).dot (p.minus ⟨0, 0, 0⟩)
              - (p.minus ⟨0, 0, 0⟩).dot c.placement.linear.columnZ ^ 2
            ≤ 1 ^ 2 * (1 + tolerance) ∧
            |(p.minus ⟨0, 0, 0⟩).dot c.placement.linear.columnZ| ≤ 1 + tolerance) ∧
          ∀ plane ∈ (leaning 0).planes, plane.signedDistance p ≤ tolerance)
  := by
  obtain ⟨c, h⟩ := exists_assemble_leaning (k := 0) (n := 3) (by norm_num) (by norm_num)
    (by norm_num)
  have hperpendicular : (leaning 0).HasPerpendicularFrame := by
    change (⟨3, 0, 0⟩ : Vec3 ℝ).dot ⟨0, 0, 1⟩ = 0
    norm_num [Vec3.dot_eq]
  use c, h
  apply (round_contains_iff one_pos rfl rfl (leaning_hasUnitNormals 0) hperpendicular h).1

end Cylinder

end ClippedCylinder
