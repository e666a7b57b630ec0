import ClippedCylinder.Proofs.Exact.Assembly
import ClippedCylinder.Proofs.Exact.Frame

/-!
# Oblique frames over the real numbers

The transpose of an orientation carries the normals of planes to the coordinates of a cylinder.  A
perpendicular frame keeps their lengths.  An oblique frame shortens some of them: the square of the
length of a unit normal is at least one minus the absolute value of the cosine between the frame
vector and the axis, and some unit normal gets that short
(`Vec3.le_sq_add_sq_add_sq`, `Vec3.exists_sq_add_sq_add_sq_eq`).

A frame is accepted if the sine between its vector and the axis is above a bound, and a carried
normal if its length is above the same bound.  The second condition asks for a larger sine, by a
factor of about the square root of two, so between the two there are placements with which not every
plane can be carried (`Cylinder.assemble_of_placement`).
-/

namespace ClippedCylinder

/-! ### The narrowest direction -/

/-- An estimate for a quantity `n` that is known by the squares of three numbers and the product of
two of them. -/
theorem one_sub_abs_mul_le {k x y z n : ℝ}
    (h : (1 - k ^ 2) * n = (1 - k ^ 2) * y ^ 2 + (x ^ 2 + z ^ 2 - 2 * (k * (x * z)))) :
  (1 - |k|) * n ≤ x ^ 2 + y ^ 2 + z ^ 2
  := by
  have hmixed : -(2 * (k * (x * z))) ≤ |k| * (x ^ 2 + z ^ 2) := by
    rcases le_total 0 k with hk | hk
    · rw [abs_of_nonneg hk]
      nlinarith [mul_nonneg hk (sq_nonneg (x + z))]
    · rw [abs_of_nonpos hk]
      nlinarith [mul_nonneg (neg_nonneg.mpr hk) (sq_nonneg (x - z))]
  have hfactors : (1 + |k|) * (1 - |k|) = 1 - k ^ 2 := by
    rw [← sq_abs k]
    ring
  have hy : (1 - k ^ 2) * y ^ 2 ≤ (1 + |k|) * y ^ 2 := by
    apply mul_le_mul_of_nonneg_right _ (sq_nonneg y)
    linarith [sq_nonneg k, abs_nonneg k]
  have hpos : 0 < 1 + |k| := by positivity
  apply le_of_mul_le_mul_left _ hpos
  rw [← mul_assoc, hfactors, h]
  linarith

namespace Vec3

variable {u a : Vec3 ℝ}

theorem norm_cross_sq (hu : u.dot u = 1) (ha : a.dot a = 1) :
  (u.cross a).norm ^ 2 = 1 - u.dot a ^ 2
  := by
  rw [pow_two, norm_mul_norm, cross_dot_cross, hu, ha, one_mul]

/-- The components of a vector along two unit vectors and the direction perpendicular to both give
at least a part of its length that depends on the cosine of the two. -/
theorem le_sq_add_sq_add_sq (hu : u.dot u = 1) (ha : a.dot a = 1) (h : 0 < (u.cross a).norm)
    (n : Vec3 ℝ) :
  (1 - |u.dot a|) * n.dot n
    ≤ u.dot n ^ 2 + ((u.cross a).dividedBy (u.cross a).norm).dot n ^ 2 + a.dot n ^ 2
  := by
  have hs := norm_cross_sq hu ha
  have hne : 1 - u.dot a ^ 2 ≠ 0 := by
    rw [← hs]
    positivity
  apply one_sub_abs_mul_le
  rw [dividedBy_dot, div_pow, hs, mul_div_cancel₀ _ hne, triple_sq, hu, ha]
  ring

/-- The estimate is attained by the difference of the two unit vectors if their angle is acute, and
by their sum if it is obtuse. -/
theorem exists_sq_add_sq_add_sq_eq (hu : u.dot u = 1) (ha : a.dot a = 1)
    (h : 0 < (u.cross a).norm) :
  ∃ n : Vec3 ℝ, n.norm = 1 ∧
    u.dot n ^ 2 + ((u.cross a).dividedBy (u.cross a).norm).dot n ^ 2 + a.dot n ^ 2
      = 1 - |u.dot a|
  := by
  have hlt : |u.dot a| < 1 := by
    rw [← sq_lt_one_iff_abs_lt_one]
    linarith [norm_cross_sq hu ha, pow_pos h 2]
  -- The sign of the cosine decides between the difference and the sum.
  obtain ⟨σ, hσ, hk⟩ : ∃ σ : ℝ, σ * σ = 1 ∧ σ * u.dot a = |u.dot a| := by
    rcases le_total 0 (u.dot a) with hk | hk
    · exact ⟨1, one_mul 1, by rw [abs_of_nonneg hk, one_mul]⟩
    · exact ⟨-1, by ring, by rw [abs_of_nonpos hk, neg_one_mul]⟩
  have hcross : (u.cross a).dot (u - a.scale σ) = 0 := by
    rw [dot_sub_scale, cross_dot_left, cross_dot_right, mul_zero, sub_zero]
  have hum : u.dot (u - a.scale σ) = 1 - |u.dot a| := by
    rw [dot_sub_scale, hu, hk]
  have ham : a.dot (u - a.scale σ) = -σ * (1 - |u.dot a|) := by
    rw [dot_sub_scale, ha, dot_comm a u, ← hk]
    linear_combination -u.dot a * hσ
  have hmm : (u - a.scale σ).norm ^ 2 = 2 * (1 - |u.dot a|) := by
    rw [pow_two, norm_mul_norm, dot_sub_scale, dot_comm _ u, dot_comm _ a, hum, ham]
    linear_combination (1 - |u.dot a|) * hσ
  have hpos : 0 < (u - a.scale σ).norm := by
    apply lt_of_le_of_ne (norm_nonneg _)
    intro h0
    rw [← h0] at hmm
    linarith
  refine ⟨_, norm_direction hpos, ?_⟩
  simp only [dividedBy_dot, dot_dividedBy, hcross, hum, ham, zero_div, div_pow, hmm]
  have hne : 1 - |u.dot a| ≠ 0 := by linarith
  field_simp
  linear_combination (1 - |u.dot a|) * hσ

end Vec3

/-! ### Carried normals -/

namespace Frame

/-- The transpose of the matrix of a completed frame gives the components of a vector along the
directions of the frame. -/
theorem directions_transpose_apply_dot_self (c : Lateral) (v axis n : Vec3 ℝ) :
  ((completed c v axis).directions.transpose.apply n).dot
      ((completed c v axis).directions.transpose.apply n)
    = (v.dividedBy v.norm).dot n ^ 2 + ((v.cross axis).dividedBy (v.cross axis).norm).dot n ^ 2
      + (axis.dividedBy axis.norm).dot n ^ 2
  := by
  rw [Matrix3.apply_eq, Vec3.dot_eq]
  cases c with
  | x =>
    change (v.dividedBy v.norm).dot n * (v.dividedBy v.norm).dot n
      + ((v.cross axis).dividedBy (v.cross axis).norm).dot n
        * ((v.cross axis).dividedBy (v.cross axis).norm).dot n
      + (axis.dividedBy axis.norm).dot n * (axis.dividedBy axis.norm).dot n = _
    ring
  | y =>
    change ((v.cross axis).dividedBy (v.cross axis).norm).dot n
        * ((v.cross axis).dividedBy (v.cross axis).norm).dot n
      + (v.dividedBy v.norm).dot n * (v.dividedBy v.norm).dot n
      + (axis.dividedBy axis.norm).dot n * (axis.dividedBy axis.norm).dot n = _
    ring

variable {v axis : Vec3 ℝ}

/-- The least length of a carried unit normal, told by its square. -/
theorem norm_directions_transpose_apply (c : Lateral) (hv : 0 < v.norm) (haxis : 0 < axis.norm)
    (hcross : 0 < (v.cross axis).norm) :
  (∀ n : Vec3 ℝ, n.norm = 1 →
      1 - |v.cosine axis| ≤ ((completed c v axis).directions.transpose.apply n).norm ^ 2) ∧
    ∃ n : Vec3 ℝ, n.norm = 1 ∧
      ((completed c v axis).directions.transpose.apply n).norm ^ 2 = 1 - |v.cosine axis|
  := by
  have hu := (Vec3.norm_eq_one_iff _).mp (Vec3.norm_direction hv)
  have ha := (Vec3.norm_eq_one_iff _).mp (Vec3.norm_direction haxis)
  have hw := Vec3.direction_dividedBy (v.cross axis) (mul_pos hv haxis)
  have hpos : 0 < ((v.dividedBy v.norm).cross (axis.dividedBy axis.norm)).norm := by
    rw [Vec3.cross_dividedBy, Vec3.norm_dividedBy _ (mul_pos hv haxis)]
    positivity
  rw [← Vec3.cross_dividedBy] at hw
  simp only [pow_two (Vec3.norm _), Vec3.norm_mul_norm, directions_transpose_apply_dot_self, ← hw,
    ← Vec3.direction_dot_direction]
  constructor
  · intro n hn
    have hle := Vec3.le_sq_add_sq_add_sq hu ha hpos n
    rw [(Vec3.norm_eq_one_iff n).mp hn, mul_one] at hle
    apply hle
  · apply Vec3.exists_sq_add_sq_add_sq_eq hu ha hpos

end Frame

/-- A bound for the cosine as one for the sine. -/
theorem Vec3.sq_lt_one_sub_abs_cosine_iff {v w : Vec3 ℝ} (hv : 0 < v.norm) (hw : 0 < w.norm)
    {e : ℝ} (he : e ^ 2 ≤ 1) :
  e ^ 2 < 1 - |v.cosine w| ↔ e ^ 2 * (2 - e ^ 2) < v.sine w ^ 2
  := by
  have hsine := cosine_sq_add_sine_sq hv hw
  have hcosine : |v.cosine w| < 1 - e ^ 2 ↔ v.cosine w ^ 2 < (1 - e ^ 2) ^ 2 := by
    rw [← sq_abs (v.cosine w), sq_lt_sq₀ (abs_nonneg _) (sub_nonneg.mpr he)]
  rw [lt_sub_comm, hcosine]
  constructor
  · intro h
    linarith
  · intro h
    linarith

namespace Cylinder

variable {name : String} {s : CylinderSpec ℝ} {t : AffineMap ℝ}

/-! ### Assembly after placement -/

theorem exists_assemble_iff (h : s.placement.outcome = .ok t) :
  (∃ c, (assemble name s).outcome = .ok c)
    ↔ ∀ plane ∈ s.planes, Scalar.epsilon < (t.linear.transpose.apply plane.normal).norm
  := by
  have hdet := AffineMap.det_ne_zero (CylinderSpec.placement_eq_ok_iff.mp h).2.2
  simp only [assemble_eq_ok_iff, h, Except.ok.injEq, exists_eq_left', exists_and_left, exists_eq',
    and_true, Plane.carriedNormal_inv _ hdet]

/-- With a placement, a cylinder is refused only for a carried normal that is too short. -/
theorem assemble_eq_error_of_placement (h : s.placement.outcome = .ok t) {f : Fault ℝ}
    (hf : (assemble name s).outcome = .error f) :
  f = .geometry .zeroNormal
  := by
  have hinv := CylinderSpec.placement_inv_isInvertible h
  have ht := (CylinderSpec.placement_eq_ok_iff.mp h).2.2
  have hinverse := AffineMap.inverse_eq_ok_iff.mpr ⟨ht, rfl⟩
  rw [assemble, Traced.outcome_bind, h, Outcome.ok_bind, Traced.outcome_bind, Traced.outcome_lift,
    localBounds, hinverse, Outcome.ok_bind] at hf
  rcases Outcome.bind_eq_error_iff.mp hf with hf | ⟨bounds, -, hf⟩
  · obtain ⟨front, plane, back, -, -, hf⟩ := Outcome.mapM_eq_error_iff.mp hf
    rcases Outcome.bind_eq_error_iff.mp hf with hf | ⟨image, -, hf⟩
    · apply Plane.mapped_eq_error hinv hf
    · cases hf
  · cases hf

/-- A perpendicular frame, and a rotation to the axis, carry every plane. -/
theorem exists_assemble_of_hasPerpendicularFrame (h : s.placement.outcome = .ok t)
    (hs : s.HasPerpendicularFrame) (hunit : ∀ plane ∈ s.planes, plane.normal.norm = 1) :
  ∃ c, (assemble name s).outcome = .ok c
  := by
  have horthogonal :=
    CylinderSpec.orientation_isOrthogonal (CylinderSpec.placement_eq_ok_iff.mp h).1 hs
  rw [exists_assemble_iff h]
  intro plane hplane
  rw [Vec3.norm, horthogonal.transpose_apply_dot_self, ← Vec3.norm, hunit plane hplane]
  apply Scalar.epsilon_lt_one

/-- The placement of a frame vector carries every plane exactly if the sine between the vector and
the axis is large enough. -/
theorem forall_exists_assemble_iff (h : s.placement.outcome = .ok t) {c : Lateral} {v : Vec3 ℝ}
    (hs : s.HasOnlyFrame c v) :
  (∀ planes : List (Plane ℝ), (∀ plane ∈ planes, plane.normal.norm = 1) →
      ∃ c, (assemble name { s with planes := planes }).outcome = .ok c)
    ↔ Scalar.epsilon ^ 2 * (2 - Scalar.epsilon ^ 2) < v.sine s.axis ^ 2
  := by
  have he := Scalar.epsilon_pos
  have hassemble (planes : List (Plane ℝ)) :
      (∃ cylinder, (assemble name { s with planes := planes }).outcome = .ok cylinder)
        ↔ ∀ plane ∈ planes, Scalar.epsilon < (t.linear.transpose.apply plane.normal).norm :=
    exists_assemble_iff h
  obtain ⟨⟨hv, haxis, hcross, -⟩, rfl⟩ := hs.placement_eq_ok_iff.mp h
  obtain ⟨hle, n, hn, heq⟩ := Frame.norm_directions_transpose_apply c (he.trans hv)
    (he.trans haxis) (he.trans hcross)
  have hlong (w : Vec3 ℝ) : Scalar.epsilon < w.norm ↔ Scalar.epsilon ^ 2 < w.norm ^ 2 :=
    (sq_lt_sq₀ he.le w.norm_nonneg).symm
  have hone : (Scalar.epsilon : ℝ) ^ 2 ≤ 1 := pow_le_one₀ he.le Scalar.epsilon_lt_one.le
  rw [← Vec3.sq_lt_one_sub_abs_cosine_iff (he.trans hv) (he.trans haxis) hone]
  simp only [hassemble, hlong]
  constructor
  · intro hall
    rw [← heq]
    apply hall [⟨Point.zero, n⟩] (by simp [hn]) ⟨Point.zero, n⟩ (by simp)
  · intro hsine planes hunit plane hplane
    apply hsine.trans_le (hle _ (hunit plane hplane))

/-- After a description has its placement, the assembly fails only if a carried normal is too short,
and a cylinder that is assembled has one half-space for each plane.  With a perpendicular frame, or
none, planes with unit normals never make it fail.  With a frame vector in any direction they never
do exactly if the sine between the vector and the axis is above a bound that is larger than the one
that placements have to meet. -/
theorem assemble_of_placement (name : String) {s : CylinderSpec ℝ} {t : AffineMap ℝ}
    (h : s.placement.outcome = .ok t) :
  ((∃ c, (assemble name s).outcome = .ok c)
      ↔ ∀ plane ∈ s.planes, Scalar.epsilon < (t.linear.transpose.apply plane.normal).norm) ∧
    (∀ c, (assemble name s).outcome = .ok c → c.bounds.length = s.planes.length) ∧
    (∀ f, (assemble name s).outcome = .error f → f = .geometry .zeroNormal) ∧
    (s.HasPerpendicularFrame → (∀ plane ∈ s.planes, plane.normal.norm = 1) →
      ∃ c, (assemble name s).outcome = .ok c) ∧
    ∀ c v, s.HasOnlyFrame c v →
      ((∀ planes : List (Plane ℝ), (∀ plane ∈ planes, plane.normal.norm = 1) →
          ∃ c, (assemble name { s with planes := planes }).outcome = .ok c)
        ↔ Scalar.epsilon ^ 2 * (2 - Scalar.epsilon ^ 2) < v.sine s.axis ^ 2)
  := by
  refine ⟨exists_assemble_iff h, ?_, ?_, ?_, ?_⟩
  · intro c hc
    rw [bounds_assemble hc, List.length_map]
  · intro f
    apply assemble_eq_error_of_placement h
  · apply exists_assemble_of_hasPerpendicularFrame h
  · intro c v
    apply forall_exists_assemble_iff h

/-- The frame vector of a leaning cylinder is far from parallel to its axis, so its placement
carries every plane. -/
theorem assemble_of_placement_of_leaning :
  ∃ t, (leaning 4).placement.outcome = .ok t ∧
    (∃ c, (assemble "Cyl" (leaning 4)).outcome = .ok c ∧ c.bounds.length = 1) ∧
    ∀ planes : List (Plane ℝ), (∀ plane ∈ planes, plane.normal.norm = 1) →
      ∃ c, (assemble "Cyl" { leaning 4 with planes := planes }).outcome = .ok c
  := by
  obtain ⟨c, hc⟩ := exists_assemble_leaning (k := 4) (n := 5) (by norm_num) (by norm_num)
    (by norm_num)
  have ht := placement_assemble hc
  obtain ⟨-, hlength, -, -, hframe⟩ := assemble_of_placement "Cyl" ht
  refine ⟨c.placement, ht, ⟨c, hc, hlength c hc⟩, (hframe .x ⟨3, 0, 4⟩ ⟨rfl, rfl⟩).mpr ?_⟩
  rw [Vec3.sine_sq, Scalar.epsilon_eq]
  norm_num [leaning, Vec3.cross_eq, Vec3.dot_eq]

/-! ### A frame vector near the axis -/

/-- A round cylinder along the third coordinate axis, with a frame vector that leans by a little
more than the least angle.  It is clipped by one plane, whose unit normal leans half as much out of
the plane across the axis. -/
noncomputable def nearlyParallel : CylinderSpec ℝ :=
  let normal : Vec3 ℝ := ⟨1, 0, -(0.6 * Scalar.epsilon)⟩
  ⟨⟨0, 0, 0⟩, 1, 1, 1, ⟨0, 0, 1⟩, some ⟨1.2 * Scalar.epsilon, 0, 1⟩, none,
    [⟨⟨0, 0, 0⟩, normal.dividedBy normal.norm⟩]⟩

/-- The placement of the cylinder is accepted, but the normal of its plane is carried to a vector
that is too short. -/
theorem assemble_nearlyParallel :
  (∃ t, nearlyParallel.placement.outcome = .ok t) ∧
    (∀ plane ∈ nearlyParallel.planes, plane.normal.norm = 1) ∧
    (assemble "Cylinder" nearlyParallel).outcome = .error (.geometry .zeroNormal)
  := by
  have hframe : nearlyParallel.HasOnlyFrame .x _ := ⟨rfl, rfl⟩
  obtain ⟨t, ht⟩ : ∃ t, nearlyParallel.placement.outcome = .ok t := by
    rw [hframe.exists_placement_iff, Scalar.epsilon_eq]
    norm_num [nearlyParallel, Vec3.cross_eq, Vec3.dot_eq]
  refine ⟨⟨t, ht⟩, ?_, ?_⟩
  · intro plane hplane
    obtain rfl := List.mem_singleton.mp hplane
    apply Vec3.norm_direction
    rw [Vec3.lt_norm_iff le_rfl]
    norm_num [Vec3.dot_eq, Scalar.epsilon_eq]
  · cases hf : (assemble "Cylinder" nearlyParallel).outcome with
    | error f => rw [assemble_eq_error_of_placement ht hf]
    | ok c =>
      have hlong := (exists_assemble_iff ht).mp ⟨c, hf⟩ _ (List.mem_singleton_self _)
      obtain ⟨-, rfl⟩ := hframe.placement_eq_ok_iff.mp ht
      rw [Vec3.lt_norm_iff Scalar.epsilon_pos.le,
        Frame.directions_transpose_apply_dot_self] at hlong
      simp only [Vec3.dividedBy_dot, Vec3.dot_dividedBy, div_pow, pow_two (Vec3.norm _),
        Vec3.norm_mul_norm, Scalar.epsilon_eq] at hlong
      norm_num [nearlyParallel, Vec3.cross_eq, Vec3.dot_eq] at hlong

end Cylinder

end ClippedCylinder
