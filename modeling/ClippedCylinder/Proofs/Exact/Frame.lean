import ClippedCylinder.Proofs.Exact.Placement

/-!
# Placements by a frame vector

With one frame vector besides the axis, a cylinder has a placement exactly if the two vectors and
their vector product are long enough and the sine of the angle between the two is large enough
(`CylinderSpec.placement_by_frame`).  The placement carries the third axis and the axis of the given
vector to their directions, and the other axis across to the direction perpendicular to both.  Its
determinant is the sine up to the sign: a vector that is given for the first coordinate makes a
reflection, and one that is given for the second coordinate keeps the orientation of space.
-/

namespace ClippedCylinder

/-! ### Coordinates across the axis -/

namespace Lateral

/-- The coordinate as one of the three. -/
def coordinate : Lateral → Coordinate
  | .x => .x
  | .y => .y

/-- The other coordinate across the axis. -/
def other : Lateral → Lateral
  | .x => .y
  | .y => .x

/-- The orientation of a frame that is completed from the vector of the coordinate. -/
def handedness : Lateral → ℝ
  | .x => -1
  | .y => 1

theorem abs_handedness (c : Lateral) :
  |c.handedness| = 1
  := by
  cases c with
  | x => rw [handedness, abs_neg, abs_one]
  | y => rw [handedness, abs_one]

end Lateral

namespace Frame

/-! ### Completed frames -/

/-- The vector of a coordinate. -/
def vector (frame : Frame ℝ) : Coordinate → Vec3 ℝ
  | .x => frame.x
  | .y => frame.y
  | .z => frame.z

/-- The frame with the given axis and vector of a coordinate across it. -/
noncomputable def completed (c : Lateral) (v axis : Vec3 ℝ) : Frame ℝ :=
  match c with
  | .x => ⟨v, v.cross axis, axis⟩
  | .y => ⟨v.cross axis, v, axis⟩

theorem completed_vector_coordinate (c : Lateral) (v axis : Vec3 ℝ) :
  (completed c v axis).vector c.coordinate = v
  := by
  cases c <;> rfl

theorem completed_vector_other (c : Lateral) (v axis : Vec3 ℝ) :
  (completed c v axis).vector c.other.coordinate = v.cross axis
  := by
  cases c <;> rfl

theorem completed_vector_z (c : Lateral) (v axis : Vec3 ℝ) :
  (completed c v axis).vector .z = axis
  := by
  cases c <;> rfl

/-- The matrix of a frame carries the axis of a coordinate to the direction of its vector. -/
theorem directions_apply_unit (frame : Frame ℝ) (c : Coordinate) :
  frame.directions.apply (Vec3.unit c)
    = (frame.vector c).dividedBy (frame.vector c).norm
  := by
  rw [directions, Matrix3.ofColumns_apply_unit]
  cases c
  · rfl
  · rfl
  · rfl

/-- The triple product of the vectors of a completed frame. -/
theorem completed_triple (c : Lateral) (v axis : Vec3 ℝ) :
  ((completed c v axis).x.cross (completed c v axis).y).dot (completed c v axis).z
    = c.handedness * (v.cross axis).dot (v.cross axis)
  := by
  cases c with
  | x =>
    simp only [completed, Lateral.handedness, Vec3.cross_eq, Vec3.dot_eq]
    ring
  | y =>
    simp only [completed, Lateral.handedness, Vec3.cross_eq, Vec3.dot_eq]
    ring

theorem det_directions (frame : Frame ℝ) :
  frame.directions.det
    = (frame.x.cross frame.y).dot frame.z / (frame.x.norm * frame.y.norm * frame.z.norm)
  := by
  rw [Matrix3.det_eq, Matrix3.det_toMatrix]
  apply Vec3.triple_dividedBy

theorem det_directions_completed (c : Lateral) (v axis : Vec3 ℝ) :
  (completed c v axis).directions.det = c.handedness * v.sine axis
  := by
  have hnorms : (completed c v axis).x.norm * (completed c v axis).y.norm
      * (completed c v axis).z.norm = (v.cross axis).norm * (v.norm * axis.norm) := by
    cases c with
    | x =>
      simp only [completed]
      ring
    | y =>
      simp only [completed]
      ring
  rw [det_directions, completed_triple, hnorms, mul_div_assoc, ← Vec3.norm_mul_norm, Vec3.sine]
  congr 1
  by_cases h : (v.cross axis).norm = 0
  · rw [h, zero_mul, zero_div, zero_div]
  · apply mul_div_mul_left _ _ h

/-- A completed frame has a matrix exactly if the two given vectors and their vector product are
long enough and the angle between the two is large enough. -/
theorem matrix_completed_eq_ok_iff {c : Lateral} {v axis : Vec3 ℝ} {m : Matrix3 ℝ} :
  (completed c v axis).matrix = .ok m
    ↔ (Scalar.epsilon < v.norm ∧ Scalar.epsilon < axis.norm ∧
        Scalar.epsilon < (v.cross axis).norm ∧ Scalar.epsilon < v.sine axis) ∧
      (completed c v axis).directions = m
  := by
  rw [matrix_eq_ok_iff, det_directions_completed, abs_mul, c.abs_handedness, one_mul,
    abs_of_nonneg (Vec3.sine_nonneg v axis)]
  apply and_congr_left'
  cases c with
  | x =>
    simp only [completed]
    tauto
  | y =>
    simp only [completed]
    tauto

end Frame

namespace CylinderSpec

/-! ### Placements -/

/-- The vector is given for the coordinate, and no other frame vector is. -/
def HasOnlyFrame (s : CylinderSpec ℝ) (c : Lateral) (v : Vec3 ℝ) : Prop :=
  match c with
  | .x => s.frameX = some v ∧ s.frameY = none
  | .y => s.frameX = none ∧ s.frameY = some v

theorem HasOnlyFrame.outcome_orientation {s : CylinderSpec ℝ} {c : Lateral} {v : Vec3 ℝ}
    (h : s.HasOnlyFrame c v) :
  s.orientation.outcome = (Frame.completed c v s.axis).matrix
  := by
  cases c with
  | x =>
    obtain ⟨hx, hy⟩ := h
    rw [CylinderSpec.outcome_orientation, hasFrame, hx, hy]
    rfl
  | y =>
    obtain ⟨hx, hy⟩ := h
    rw [CylinderSpec.outcome_orientation, hasFrame, hx, hy]
    rfl

/-- With one frame vector there is a placement exactly if the vector, the axis and their vector
product are long enough and the angle between the vector and the axis is large enough. -/
theorem HasOnlyFrame.placement_eq_ok_iff {s : CylinderSpec ℝ} {c : Lateral} {v : Vec3 ℝ}
    (h : s.HasOnlyFrame c v) {t : AffineMap ℝ} :
  s.placement.outcome = .ok t
    ↔ (Scalar.epsilon < v.norm ∧ Scalar.epsilon < s.axis.norm ∧
        Scalar.epsilon < (v.cross s.axis).norm ∧ Scalar.epsilon < v.sine s.axis) ∧
      ⟨(Frame.completed c v s.axis).directions, s.origin.toVec⟩ = t
  := by
  rw [outcome_placement, h.outcome_orientation]
  constructor
  · intro ht
    cases hm : (Frame.completed c v s.axis).matrix with
    | error f =>
      rw [hm] at ht
      cases ht
    | ok m =>
      obtain ⟨hlong, rfl⟩ := Frame.matrix_completed_eq_ok_iff.mp hm
      rw [hm] at ht
      exact ⟨hlong, Except.ok.inj ht⟩
  · rintro ⟨hlong, rfl⟩
    rw [Frame.matrix_completed_eq_ok_iff.mpr ⟨hlong, rfl⟩]
    rfl

/-- The conditions of a placement, told by squares. -/
theorem HasOnlyFrame.exists_placement_iff {s : CylinderSpec ℝ} {c : Lateral} {v : Vec3 ℝ}
    (h : s.HasOnlyFrame c v) :
  (∃ t, s.placement.outcome = .ok t)
    ↔ Scalar.epsilon ^ 2 < v.dot v ∧ Scalar.epsilon ^ 2 < s.axis.dot s.axis ∧
      Scalar.epsilon ^ 2 < (v.cross s.axis).dot (v.cross s.axis) ∧
      Scalar.epsilon ^ 2 < (v.cross s.axis).dot (v.cross s.axis) / (v.dot v * s.axis.dot s.axis)
  := by
  have he := Scalar.epsilon_pos.le
  have hsine : Scalar.epsilon < v.sine s.axis ↔ Scalar.epsilon ^ 2 < v.sine s.axis ^ 2 :=
    (sq_lt_sq₀ he (Vec3.sine_nonneg v s.axis)).symm
  simp only [h.placement_eq_ok_iff, exists_and_left, exists_eq', and_true, hsine, Vec3.sine_sq,
    Vec3.lt_norm_iff he]

/-- The map carries the third axis to the direction of the axis of a cylinder, the axis of the
coordinate to the direction of the vector that is given for it, and the other axis across to a unit
vector perpendicular to both. -/
structure CarriesFrame (t : AffineMap ℝ) (c : Lateral) (v axis : Vec3 ℝ) : Prop where
  z : t.applyVector (Vec3.unit .z) = axis.dividedBy axis.norm
  given : t.applyVector (Vec3.unit c.coordinate) = v.dividedBy v.norm
  norm_other : (t.applyVector (Vec3.unit c.other.coordinate)).norm = 1
  other_dot_z :
    (t.applyVector (Vec3.unit c.other.coordinate)).dot (t.applyVector (Vec3.unit .z)) = 0
  other_dot_given :
    (t.applyVector (Vec3.unit c.other.coordinate)).dot
      (t.applyVector (Vec3.unit c.coordinate)) = 0

theorem carriesFrame_directions (c : Lateral) {v axis : Vec3 ℝ} (shift : Vec3 ℝ)
    (h : 0 < (v.cross axis).norm) :
  CarriesFrame ⟨(Frame.completed c v axis).directions, shift⟩ c v axis
  := by
  have image (k : Coordinate) :=
    (Frame.completed c v axis).directions_apply_unit k
  constructor
  · apply (image .z).trans
    rw [Frame.completed_vector_z]
  · apply (image _).trans
    rw [Frame.completed_vector_coordinate]
  · simp only [AffineMap.applyVector, image, Frame.completed_vector_other]
    apply Vec3.norm_direction h
  · simp only [AffineMap.applyVector, image, Frame.completed_vector_other,
      Frame.completed_vector_z]
    apply Vec3.dividedBy_dot_dividedBy_of_eq_zero (Vec3.cross_dot_right v axis)
  · simp only [AffineMap.applyVector, image, Frame.completed_vector_other,
      Frame.completed_vector_coordinate]
    apply Vec3.dividedBy_dot_dividedBy_of_eq_zero (Vec3.cross_dot_left v axis)

/-- There is no unique frame exactly if both frame vectors are given. -/
theorem exists_placement_eq_frame_iff {s : CylinderSpec ℝ} :
  (∃ cause, s.placement.outcome = .error (.frame cause))
    ↔ s.frameX.isSome = true ∧ s.frameY.isSome = true
  := by
  simp only [placement_eq_error_iff]
  constructor
  · rintro ⟨cause, h⟩
    obtain ⟨-, hboth⟩ | ⟨_, hdegenerate⟩ := orientation_eq_error h
    · exact hboth
    · cases hdegenerate
  · rintro ⟨hx, hy⟩
    exact ⟨_, orientation_of_both hx hy⟩

theorem HasOnlyFrame.not_both {s : CylinderSpec ℝ} {c : Lateral} {v : Vec3 ℝ}
    (h : s.HasOnlyFrame c v) :
  ¬ (s.frameX.isSome = true ∧ s.frameY.isSome = true)
  := by
  cases c with
  | x => simp [h.2]
  | y => simp [h.1]

/-- A description with a placement has no frame vector, or only one. -/
theorem exists_hasOnlyFrame {s : CylinderSpec ℝ} {t : AffineMap ℝ} (h : s.placement.outcome = .ok t)
    (hframe : s.hasFrame = true) :
  ∃ c v, s.HasOnlyFrame c v
  := by
  rw [hasFrame] at hframe
  cases hx : s.frameX with
  | none =>
    cases hy : s.frameY with
    | none =>
      rw [hx, hy] at hframe
      cases hframe
    | some y => exact ⟨.y, y, hx, hy⟩
  | some x =>
    cases hy : s.frameY with
    | none => exact ⟨.x, x, hx, hy⟩
    | some y =>
      obtain ⟨cause, hcause⟩ : ∃ cause, s.placement.outcome = .error (.frame cause) :=
        exists_placement_eq_frame_iff.mpr (by simp [hx, hy])
      rw [hcause] at h
      cases h

/-- A placement with one frame vector that is refused is refused for vectors that give no invertible
transformation. -/
theorem HasOnlyFrame.isDegenerate {s : CylinderSpec ℝ} {c : Lateral} {v : Vec3 ℝ}
    (h : s.HasOnlyFrame c v) {f : Fault ℝ} (hf : s.placement.outcome = .error f) :
  f.IsDegenerate
  := by
  obtain ⟨-, hboth⟩ | hdegenerate := orientation_eq_error (placement_eq_error_iff.mp hf)
  · exact absurd hboth h.not_both
  · exact hdegenerate

/-- The frame vectors of a description are ambiguous exactly if both are given.  With one frame
vector there is a placement exactly if the vector, the axis and their vector product are long enough
and the sine of the angle between the vector and the axis is large enough; otherwise the vectors are
degenerate.  The placement carries the axes to the directions of the frame, and its determinant is
the sine up to the sign.  The last test for an inverse never fails, with or without frame vectors. -/
theorem placement_by_frame (s : CylinderSpec ℝ) :
  ((∃ cause, s.placement.outcome = .error (.frame cause))
      ↔ s.frameX.isSome = true ∧ s.frameY.isSome = true) ∧
    (∀ c v, s.HasOnlyFrame c v →
      ((∃ t, s.placement.outcome = .ok t)
        ↔ Scalar.epsilon < v.norm ∧ Scalar.epsilon < s.axis.norm ∧
          Scalar.epsilon < (v.cross s.axis).norm ∧ Scalar.epsilon < v.sine s.axis) ∧
      ((¬ ∃ t, s.placement.outcome = .ok t) →
        ∃ cause, s.placement.outcome = .error (.degenerate cause)) ∧
      ∀ t, s.placement.outcome = .ok t →
        CarriesFrame t c v s.axis ∧ t.determinant = c.handedness * v.sine s.axis) ∧
    ∀ m, s.orientation.outcome = .ok m →
      (⟨m, s.origin.toVec⟩ : AffineMap ℝ).isInvertible = true
  := by
  refine ⟨exists_placement_eq_frame_iff, ?_, ?_⟩
  · intro c v h
    refine ⟨?_, ?_, ?_⟩
    · simp only [h.placement_eq_ok_iff, exists_and_left, exists_eq', and_true]
    · intro hnone
      cases hf : s.placement.outcome with
      | error f =>
        obtain ⟨cause, rfl⟩ := h.isDegenerate hf
        use cause
      | ok t => exact absurd ⟨t, hf⟩ hnone
    · intro t ht
      obtain ⟨⟨-, -, hcross, -⟩, rfl⟩ := h.placement_eq_ok_iff.mp ht
      constructor
      · apply carriesFrame_directions
        apply Scalar.epsilon_pos.trans hcross
      · apply Frame.det_directions_completed
  · intro m
    apply orientation_isInvertible

/-- The frame vector `(3, 0, 4)` is oblique to the axis, and it is given for the first
coordinate. -/
theorem placement_by_oblique_frame :
  ∃ t, (⟨⟨1, 2, 3⟩, 1, 1, 1, ⟨0, 0, 1⟩, some ⟨3, 0, 4⟩, none, []⟩ : CylinderSpec ℝ).placement.outcome
      = .ok t ∧
    CarriesFrame t .x ⟨3, 0, 4⟩ ⟨0, 0, 1⟩ ∧ t.determinant = -(3 / 5)
  := by
  have hv := Vec3.norm_three_zero_four
  have haxis : (⟨0, 0, 1⟩ : Vec3 ℝ).norm = 1 := Vec3.norm_unit_z
  have hcross : ((⟨3, 0, 4⟩ : Vec3 ℝ).cross ⟨0, 0, 1⟩).norm = 3 := by
    apply Vec3.norm_eq_of_mul_self <;> norm_num [Vec3.cross_eq, Vec3.dot_eq]
  have hsine : (⟨3, 0, 4⟩ : Vec3 ℝ).sine ⟨0, 0, 1⟩ = 3 / 5 := by
    rw [Vec3.sine, hv, haxis, hcross, mul_one]
  have he := Scalar.epsilon_lt_half
  obtain ⟨hexists, -, hcarries⟩ := (placement_by_frame
    ⟨⟨1, 2, 3⟩, 1, 1, 1, ⟨0, 0, 1⟩, some ⟨3, 0, 4⟩, none, []⟩).2.1 .x ⟨3, 0, 4⟩ ⟨rfl, rfl⟩
  obtain ⟨t, ht⟩ := hexists.mpr ⟨by linarith, by linarith, by linarith, by linarith⟩
  obtain ⟨hframe, hdet⟩ := hcarries t ht
  use t, ht, hframe
  rw [hdet, hsine, Lateral.handedness]
  ring

end CylinderSpec

end ClippedCylinder
