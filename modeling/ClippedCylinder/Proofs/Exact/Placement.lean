import ClippedCylinder.Proofs.Exact.AffineMap
import ClippedCylinder.Proofs.Exact.Rotation
import ClippedCylinder.Placement.Basic

/-!
# Placements over the real numbers

When a description has a placement, and what is known of its linear part: its columns are of
norm one (`orientation_hasUnitColumns`), it is orthogonal unless a frame vector is given that
is not perpendicular to the axis (`orientation_isOrthogonal`), and its third column is the
direction of the axis, up to the replacement of rotations near the third axis.

An orientation that is found is far enough from a singular one (`orientation_isInvertible`), and
not too large either, so a placement and its inverse undo each other (`placement_inverse`).
-/

namespace ClippedCylinder

/-! ### Failures -/

section

variable {K : Type} [Scalar K]

/-- The failure says that vectors give no invertible transformation. -/
def Fault.IsDegenerate {K : Type} (f : Fault K) : Prop :=
  ∃ cause, f = .degenerate cause

theorem Vec3.isDegenerate_of_direction {role : AxisRole} {v : Vec3 K} {f : Fault K}
    (h : v.direction role = .error f) :
  f.IsDegenerate
  := by
  unfold direction at h
  split at h
  · use .zeroLength role v
    apply (Except.error.inj h).symm
  · cases h

theorem Matrix3.isDegenerate_of_rotationAligningZ {axis : Vec3 K} {f : Fault K}
    (h : rotationAligningZ axis = .error f) :
  f.IsDegenerate
  := by
  rcases Outcome.bind_eq_error_iff.mp h with h | ⟨u, -, h⟩
  · apply Vec3.isDegenerate_of_direction h
  · cases h

theorem Frame.isDegenerate_of_matrix {frame : Frame K} {f : Fault K}
    (h : frame.matrix = .error f) :
  f.IsDegenerate
  := by
  simp only [matrix, Outcome.bind_eq_error_iff] at h
  rcases h with hx | ⟨_, -, hy | ⟨_, -, hz | ⟨_, -, h⟩⟩⟩
  · apply Vec3.isDegenerate_of_direction hx
  · apply Vec3.isDegenerate_of_direction hy
  · apply Vec3.isDegenerate_of_direction hz
  · split at h
    · exact ⟨_, (Except.error.inj h).symm⟩
    · cases h

theorem CylinderSpec.outcome_orientation (s : CylinderSpec K) :
  s.orientation.outcome =
    if s.hasFrame then
      (Frame.complete s.axis s.frameX s.frameY).mapError Fault.frame >>= Frame.matrix
    else Matrix3.rotationAligningZ s.axis
  := by
  unfold orientation
  split
  · cases h : Frame.complete s.axis s.frameX s.frameY with
    | error e => simp [Frame.ofAxis, h]
    | ok frame =>
      cases hm : frame.matrix with
      | error e => simp [Frame.ofAxis, h, hm]
      | ok m => simp [Frame.ofAxis, h, hm]
  · cases Matrix3.rotationAligningZ s.axis with
    | error e => simp
    | ok m => simp

/-- There is no orientation if both frame vectors are given.  All other failures are of vectors
that give no invertible transformation. -/
theorem CylinderSpec.orientation_eq_error {s : CylinderSpec K} {f : Fault K}
    (h : s.orientation.outcome = .error f) :
  (f = .frame .both ∧ s.frameX.isSome = true ∧ s.frameY.isSome = true) ∨ f.IsDegenerate
  := by
  rw [outcome_orientation, hasFrame] at h
  cases hx : s.frameX with
  | none =>
    right
    rw [hx] at h
    cases hy : s.frameY with
    | none =>
      rw [hy] at h
      apply Matrix3.isDegenerate_of_rotationAligningZ h
    | some y =>
      rw [hy] at h
      apply Frame.isDegenerate_of_matrix h
  | some x =>
    rw [hx] at h
    cases hy : s.frameY with
    | none =>
      right
      rw [hy] at h
      apply Frame.isDegenerate_of_matrix h
    | some y =>
      left
      rw [hy] at h
      exact ⟨(Except.error.inj h).symm, rfl, rfl⟩

theorem CylinderSpec.orientation_of_both {s : CylinderSpec K} (hx : s.frameX.isSome = true)
    (hy : s.frameY.isSome = true) :
  s.orientation.outcome = .error (.frame .both)
  := by
  obtain ⟨x, hx⟩ := Option.isSome_iff_exists.mp hx
  obtain ⟨y, hy⟩ := Option.isSome_iff_exists.mp hy
  rw [outcome_orientation, hasFrame, hx, hy]
  rfl

end

namespace Frame

/-- The matrix with the directions of a frame as its columns. -/
noncomputable def directions (frame : Frame ℝ) : Matrix3 ℝ :=
  Matrix3.ofColumns (frame.x.dividedBy frame.x.norm) (frame.y.dividedBy frame.y.norm)
    (frame.z.dividedBy frame.z.norm)

/-- A frame has a matrix exactly if its vectors are long enough and their directions are far
enough from a plane. -/
theorem matrix_eq_ok_iff {frame : Frame ℝ} {m : Matrix3 ℝ} :
  frame.matrix = .ok m
    ↔ (Scalar.epsilon < frame.x.norm ∧ Scalar.epsilon < frame.y.norm ∧
        Scalar.epsilon < frame.z.norm ∧ Scalar.epsilon < |frame.directions.det|) ∧
      frame.directions = m
  := by
  simp only [matrix, Outcome.bind_eq_ok_iff, Vec3.direction_eq_ok_iff, Scalar.le_eq,
    Scalar.abs_eq, decide_eq_true_eq]
  constructor
  · rintro ⟨_, ⟨hx, rfl⟩, _, ⟨hy, rfl⟩, _, ⟨hz, rfl⟩, h⟩
    split at h
    · cases h
    · rename_i hdet
      exact ⟨⟨hx, hy, hz, not_le.mp hdet⟩, Except.ok.inj h⟩
  · rintro ⟨⟨hx, hy, hz, hdet⟩, rfl⟩
    exact ⟨_, ⟨hx, rfl⟩, _, ⟨hy, rfl⟩, _, ⟨hz, rfl⟩, if_neg (not_le.mpr hdet)⟩

theorem directions_hasUnitColumns {frame : Frame ℝ} {m : Matrix3 ℝ} (h : frame.matrix = .ok m) :
  frame.directions.HasUnitColumns
  := by
  obtain ⟨⟨hx, hy, hz, -⟩, -⟩ := matrix_eq_ok_iff.mp h
  exact ⟨Vec3.direction_dot_self hx, Vec3.direction_dot_self hy, Vec3.direction_dot_self hz⟩

/-- The directions of perpendicular vectors are perpendicular. -/
theorem directions_isOrthogonal {frame : Frame ℝ} {m : Matrix3 ℝ} (h : frame.matrix = .ok m)
    (hxy : frame.x.dot frame.y = 0) (hxz : frame.x.dot frame.z = 0)
    (hyz : frame.y.dot frame.z = 0) :
  frame.directions.IsOrthogonal
  := by
  apply (directions_hasUnitColumns h).isOrthogonal
  · apply Vec3.dividedBy_dot_dividedBy_of_eq_zero hxy
  · apply Vec3.dividedBy_dot_dividedBy_of_eq_zero hxz
  · apply Vec3.dividedBy_dot_dividedBy_of_eq_zero hyz

/-- Completion keeps the axis. -/
theorem complete_z {axis : Vec3 ℝ} {x y : Option (Vec3 ℝ)} {frame : Frame ℝ}
    (h : complete axis x y = .ok frame) :
  frame.z = axis
  := by
  unfold complete at h
  split at h
  · obtain rfl := Except.ok.inj h
    rfl
  · obtain rfl := Except.ok.inj h
    rfl
  · cases h
  · cases h

end Frame

namespace CylinderSpec

/-! ### Existence -/

/-- The linear part of a placement comes from a completed frame if a frame vector is given,
and from the rotation to the axis otherwise. -/
theorem orientation_eq_ok_iff {s : CylinderSpec ℝ} {m : Matrix3 ℝ} :
  s.orientation.outcome = .ok m
    ↔ if s.hasFrame then
        ∃ frame, Frame.complete s.axis s.frameX s.frameY = .ok frame ∧ frame.matrix = .ok m
      else Matrix3.rotationAligningZ s.axis = .ok m
  := by
  rw [outcome_orientation]
  split
  · simp only [Outcome.bind_eq_ok_iff, Outcome.mapError_eq_ok_iff]
  · rfl

/-- A description has a placement exactly if it has an orientation whose determinant is far
enough from zero; the shift is to the origin. -/
theorem placement_eq_ok_iff {s : CylinderSpec ℝ} {t : AffineMap ℝ} :
  s.placement.outcome = .ok t
    ↔ s.orientation.outcome = .ok t.linear ∧ t.shift = s.origin.toVec ∧ t.isInvertible = true
  := by
  simp only [placement, Traced.outcome_bind, Outcome.bind_eq_ok_iff]
  constructor
  · rintro ⟨m, hm, ht⟩
    split at ht
    · rename_i hinv
      obtain rfl := Except.ok.inj ht
      exact ⟨hm, rfl, hinv⟩
    · cases ht
  · obtain ⟨m, v⟩ := t
    rintro ⟨hm, rfl, hinv⟩
    use m, hm
    rw [if_pos hinv]
    rfl

/-- An orientation has a determinant that is far enough from zero. -/
theorem orientation_isInvertible {s : CylinderSpec ℝ} {m : Matrix3 ℝ}
    (h : s.orientation.outcome = .ok m) :
  m.isInvertible = true
  := by
  rw [Matrix3.isInvertible_iff]
  rw [orientation_eq_ok_iff] at h
  split at h
  · obtain ⟨frame, -, hm⟩ := h
    obtain ⟨⟨-, -, -, hdet⟩, rfl⟩ := Frame.matrix_eq_ok_iff.mp hm
    apply hdet
  · obtain ⟨haxis, rfl⟩ := Matrix3.rotationAligningZ_eq_ok_iff.mp h
    rw [(Matrix3.isRotation_rotationTo (Vec3.direction_dot_self haxis)).det_eq_one, abs_one]
    apply Scalar.epsilon_lt_one

/-- A description has a placement as soon as it has an orientation. -/
theorem outcome_placement (s : CylinderSpec ℝ) :
  s.placement.outcome = s.orientation.outcome.map fun m => ⟨m, s.origin.toVec⟩
  := by
  rw [placement, Traced.outcome_bind]
  cases h : s.orientation.outcome with
  | error f => rfl
  | ok m =>
    rw [Outcome.ok_bind, if_pos]
    · rfl
    · apply orientation_isInvertible h

/-- Without a frame vector, the placement turns the third axis to the axis. -/
theorem placement_of_axis {s : CylinderSpec ℝ} (hframe : s.hasFrame = false)
    (haxis : Scalar.epsilon < s.axis.norm) :
  s.placement.outcome = .ok ⟨Matrix3.rotationTo (s.axis.dividedBy s.axis.norm), s.origin.toVec⟩
  := by
  have h := Matrix3.rotationAligningZ_eq_ok_iff.mpr ⟨haxis, rfl⟩
  rw [outcome_placement, outcome_orientation, hframe, if_neg Bool.false_ne_true, h]
  rfl

theorem placement_eq_ok_iff_of_axis {s : CylinderSpec ℝ} {t : AffineMap ℝ}
    (hframe : s.hasFrame = false) :
  s.placement.outcome = .ok t
    ↔ Scalar.epsilon < s.axis.norm ∧
      ⟨Matrix3.rotationTo (s.axis.dividedBy s.axis.norm), s.origin.toVec⟩ = t
  := by
  constructor
  · intro h
    have horientation := orientation_eq_ok_iff.mp (placement_eq_ok_iff.mp h).1
    rw [hframe, if_neg Bool.false_ne_true] at horientation
    have haxis := (Matrix3.rotationAligningZ_eq_ok_iff.mp horientation).1
    exact ⟨haxis, Except.ok.inj ((placement_of_axis hframe haxis).symm.trans h)⟩
  · rintro ⟨haxis, rfl⟩
    apply placement_of_axis hframe haxis

theorem placement_eq_error_iff {s : CylinderSpec ℝ} {f : Fault ℝ} :
  s.placement.outcome = .error f ↔ s.orientation.outcome = .error f
  := by
  rw [outcome_placement]
  cases s.orientation.outcome with
  | error f => simp [Except.map]
  | ok m => simp [Except.map]

/-! ### Columns -/

theorem orientation_hasUnitColumns {s : CylinderSpec ℝ} {m : Matrix3 ℝ}
    (h : s.orientation.outcome = .ok m) :
  m.HasUnitColumns
  := by
  rw [orientation_eq_ok_iff] at h
  split at h
  · obtain ⟨frame, -, hm⟩ := h
    rw [← (Frame.matrix_eq_ok_iff.mp hm).2]
    apply Frame.directions_hasUnitColumns hm
  · obtain ⟨haxis, rfl⟩ := Matrix3.rotationAligningZ_eq_ok_iff.mp h
    apply Matrix3.IsOrthogonal.hasUnitColumns
    apply (Matrix3.isRotation_rotationTo (Vec3.direction_dot_self haxis)).isOrthogonal

/-- At most one frame vector is given, and it is perpendicular to the axis. -/
def HasPerpendicularFrame (s : CylinderSpec ℝ) : Prop :=
  match s.frameX, s.frameY with
  | none, none => True
  | some v, none => v.dot s.axis = 0
  | none, some v => v.dot s.axis = 0
  | some _, some _ => False

/-- The vectors of a frame that is completed from a perpendicular vector are perpendicular to
one another, whichever of the two vectors across the axis is given. -/
theorem complete_perpendicular {s : CylinderSpec ℝ} {frame : Frame ℝ}
    (h : Frame.complete s.axis s.frameX s.frameY = .ok frame) (hs : s.HasPerpendicularFrame) :
  frame.x.dot frame.y = 0 ∧ frame.x.dot frame.z = 0 ∧ frame.y.dot frame.z = 0
  := by
  unfold HasPerpendicularFrame at hs
  cases hx : s.frameX with
  | none =>
    cases hy : s.frameY with
    | none =>
      rw [hx, hy] at h
      cases h
    | some y =>
      rw [hx, hy] at h hs
      obtain rfl := Except.ok.inj h
      exact ⟨Vec3.cross_dot_left y s.axis, Vec3.cross_dot_right y s.axis, hs⟩
  | some x =>
    cases hy : s.frameY with
    | none =>
      rw [hx, hy] at h hs
      obtain rfl := Except.ok.inj h
      exact ⟨(Vec3.dot_comm _ _).trans (Vec3.cross_dot_left x s.axis), hs,
        Vec3.cross_dot_right x s.axis⟩
    | some y =>
      rw [hx, hy] at h
      cases h

/-- The orientation is orthogonal, unless a frame vector is given that is not perpendicular to
the axis. -/
theorem orientation_isOrthogonal {s : CylinderSpec ℝ} {m : Matrix3 ℝ}
    (h : s.orientation.outcome = .ok m) (hs : s.HasPerpendicularFrame) :
  m.IsOrthogonal
  := by
  rw [orientation_eq_ok_iff] at h
  split at h
  · obtain ⟨frame, hframe, hm⟩ := h
    obtain ⟨hxy, hxz, hyz⟩ := complete_perpendicular hframe hs
    rw [← (Frame.matrix_eq_ok_iff.mp hm).2]
    apply Frame.directions_isOrthogonal hm hxy hxz hyz
  · obtain ⟨haxis, rfl⟩ := Matrix3.rotationAligningZ_eq_ok_iff.mp h
    apply (Matrix3.isRotation_rotationTo (Vec3.direction_dot_self haxis)).isOrthogonal

/-! ### The direction of the axis -/

/-- The orientation is not replaced by the unit matrix or the half turn: a frame vector is
given, or the axis is far enough from the third coordinate axis and its opposite. -/
def KeepsAxis (s : CylinderSpec ℝ) : Prop :=
  s.hasFrame = true ∨
    (-1 + Scalar.epsilon < (s.axis.dividedBy s.axis.norm).z ∧
      (s.axis.dividedBy s.axis.norm).z < 1 - Scalar.epsilon)

theorem orientation_columnZ {s : CylinderSpec ℝ} {m : Matrix3 ℝ}
    (h : s.orientation.outcome = .ok m) (hs : s.KeepsAxis) :
  m.columnZ = s.axis.dividedBy s.axis.norm
  := by
  rw [orientation_eq_ok_iff] at h
  split at h
  · obtain ⟨frame, hframe, hm⟩ := h
    rw [← (Frame.matrix_eq_ok_iff.mp hm).2, ← Frame.complete_z hframe]
    rfl
  · rename_i hframe
    obtain ⟨hl, hu⟩ := hs.resolve_left hframe
    obtain ⟨haxis, rfl⟩ := Matrix3.rotationAligningZ_eq_ok_iff.mp h
    apply Matrix3.columnZ_rotationTo (Vec3.direction_dot_self haxis) hl hu

/-- Where the orientation is replaced, its third column is the third unit vector or its
opposite. -/
theorem orientation_columnZ_of_not_keepsAxis {s : CylinderSpec ℝ} {m : Matrix3 ℝ}
    (h : s.orientation.outcome = .ok m) (hs : ¬ s.KeepsAxis) :
  (1 - Scalar.epsilon ≤ (s.axis.dividedBy s.axis.norm).z ∧ m.columnZ = Vec3.unit .z) ∨
    ((s.axis.dividedBy s.axis.norm).z ≤ -1 + Scalar.epsilon ∧ m.columnZ = -Vec3.unit .z)
  := by
  rw [KeepsAxis, not_or, not_and_or, not_lt, not_lt] at hs
  obtain ⟨hframe, hz⟩ := hs
  rw [orientation_eq_ok_iff, if_neg hframe] at h
  obtain ⟨-, rfl⟩ := Matrix3.rotationAligningZ_eq_ok_iff.mp h
  obtain hl | hu := hz
  · right
    use hl
    rw [Matrix3.rotationTo_of_ge hl, Matrix3.columnZ_halfTurn]
  · left
    use hu
    rw [Matrix3.rotationTo_of_le hu]
    rfl

/-! ### Inverses -/

theorem placement_hasUnitColumns {s : CylinderSpec ℝ} {t : AffineMap ℝ}
    (h : s.placement.outcome = .ok t) :
  t.linear.HasUnitColumns
  := orientation_hasUnitColumns (placement_eq_ok_iff.mp h).1

/-- The inverse of a placement has an inverse again. -/
theorem placement_inv_isInvertible {s : CylinderSpec ℝ} {t : AffineMap ℝ}
    (h : s.placement.outcome = .ok t) :
  t.inv.isInvertible = true
  := AffineMap.inv_isInvertible (placement_eq_ok_iff.mp h).2.2 (placement_hasUnitColumns h)

/-- A placement has an inverse, which passes the test for an inverse, too.  The inverse of the
inverse is the placement, and the two undo each other on all points. -/
theorem placement_inverse {s : CylinderSpec ℝ} {t : AffineMap ℝ}
    (h : s.placement.outcome = .ok t) :
  ∃ u, t.inverse = .ok u ∧ Scalar.epsilon < |u.determinant| ∧ u.inverse = .ok t ∧
    ∀ p, u.applyPoint (t.applyPoint p) = p ∧ t.applyPoint (u.applyPoint p) = p
  := by
  have ht := (placement_eq_ok_iff.mp h).2.2
  have hu := placement_inv_isInvertible h
  have hdet := AffineMap.det_ne_zero ht
  refine ⟨t.inv, AffineMap.inverse_eq_ok_iff.mpr ⟨ht, rfl⟩, ?_, ?_, ?_⟩
  · apply (AffineMap.isInvertible_iff _).mp hu
  · apply AffineMap.inverse_eq_ok_iff.mpr ⟨hu, AffineMap.inv_inv hdet⟩
  · intro p
    exact ⟨AffineMap.inv_applyPoint hdet p, AffineMap.applyPoint_inv hdet p⟩

theorem placement_inverse_of_leaning_axis :
  ∃ t, (⟨⟨1, 2, 3⟩, 1, 1, 1, ⟨3, 0, 4⟩, none, none, []⟩ : CylinderSpec ℝ).placement.outcome = .ok t ∧
    ∃ u, t.inverse = .ok u ∧ Scalar.epsilon < |u.determinant| ∧ u.inverse = .ok t ∧
      ∀ p, u.applyPoint (t.applyPoint p) = p ∧ t.applyPoint (u.applyPoint p) = p
  := by
  have h := placement_of_axis (s := ⟨⟨1, 2, 3⟩, 1, 1, 1, ⟨3, 0, 4⟩, none, none, []⟩) rfl
    (by linarith [Scalar.epsilon_lt_half, Vec3.norm_three_zero_four])
  exact ⟨_, h, placement_inverse h⟩

end CylinderSpec

end ClippedCylinder
