import ClippedCylinder.Proofs.Exact.Placement
import ClippedCylinder.Cylinder.Containment

/-!
# Assembled cylinders over the real numbers

A cylinder is assembled exactly if its description has a placement and every clipping plane
keeps a normal of some length (`Cylinder.assemble_eq_ok_iff`).  The half-spaces of an assembled
cylinder keep, in its own coordinates, what the described planes keep in the world, with the
tolerance multiplied by the norm of the carried normal (`Cylinder.contains_assemble`).
-/

namespace ClippedCylinder

namespace Cylinder

/-! ### Assembly -/

theorem localBounds_eq_ok_iff {s : CylinderSpec ℝ} {t : AffineMap ℝ} {bounds : List (HalfSpace ℝ)}
    (ht : t.isInvertible = true) :
  localBounds s t = .ok bounds
    ↔ (∀ plane ∈ s.planes, t.inv.isInvertible = true ∧
        Scalar.epsilon < (plane.carriedNormal t.inv).norm) ∧
      s.planes.map (fun plane => ⟨plane.image t.inv⟩) = bounds
  := by
  rw [localBounds, AffineMap.inverse_eq_ok_iff.mpr ⟨ht, rfl⟩, Outcome.ok_bind]
  apply Outcome.mapM_eq_ok_iff
  intro plane h
  apply HalfSpace.mapped_eq_ok_iff (h := ⟨plane⟩)

/-- A described cylinder can be assembled exactly if it has a placement and the carried normals
of its planes are long enough. -/
theorem assemble_eq_ok_iff {name : String} {s : CylinderSpec ℝ} {c : Cylinder ℝ} :
  (assemble name s).outcome = .ok c
    ↔ ∃ t, s.placement.outcome = .ok t ∧
      (∀ plane ∈ s.planes, Scalar.epsilon < (plane.carriedNormal t.inv).norm) ∧
      ⟨name, s, t, s.planes.map fun plane => ⟨plane.image t.inv⟩⟩ = c
  := by
  simp only [assemble, Traced.outcome_bind, Traced.outcome_lift, Traced.outcome_pure,
    Outcome.bind_eq_ok_iff]
  constructor
  · rintro ⟨t, ht, bounds, hbounds, hc⟩
    obtain ⟨hplanes, rfl⟩ :=
      (localBounds_eq_ok_iff (CylinderSpec.placement_eq_ok_iff.mp ht).2.2).mp hbounds
    use t, ht
    constructor
    · intro plane hplane
      apply (hplanes plane hplane).2
    · apply Except.ok.inj hc
  · rintro ⟨t, ht, hplanes, rfl⟩
    use t, ht, s.planes.map fun plane => ⟨plane.image t.inv⟩
    constructor
    · apply (localBounds_eq_ok_iff (CylinderSpec.placement_eq_ok_iff.mp ht).2.2).mpr
      constructor
      · intro plane hplane
        use CylinderSpec.placement_inv_isInvertible ht, hplanes plane hplane
      · rfl
    · rfl

section

variable {name : String} {s : CylinderSpec ℝ} {c : Cylinder ℝ}

theorem placement_assemble (h : (assemble name s).outcome = .ok c) :
  s.placement.outcome = .ok c.placement
  := by
  obtain ⟨t, ht, -, rfl⟩ := assemble_eq_ok_iff.mp h
  apply ht

theorem spec_assemble (h : (assemble name s).outcome = .ok c) :
  c.spec = s
  := by
  obtain ⟨t, -, -, rfl⟩ := assemble_eq_ok_iff.mp h
  rfl

theorem bounds_assemble (h : (assemble name s).outcome = .ok c) :
  c.bounds = s.planes.map fun plane => ⟨plane.image c.placement.inv⟩
  := by
  obtain ⟨t, -, -, rfl⟩ := assemble_eq_ok_iff.mp h
  rfl

theorem carriedNormal_assemble (h : (assemble name s).outcome = .ok c) :
  ∀ plane ∈ s.planes, Scalar.epsilon < (plane.carriedNormal c.placement.inv).norm
  := by
  obtain ⟨t, -, hplanes, rfl⟩ := assemble_eq_ok_iff.mp h
  apply hplanes

/-- A description with an orientation can be assembled if the transpose leaves the normals of its
planes long enough. -/
theorem exists_assemble {m : Matrix3 ℝ} (h : s.orientation.outcome = .ok m)
    (hplanes : ∀ plane ∈ s.planes, Scalar.epsilon < (m.transpose.apply plane.normal).norm) :
  ∃ c, (assemble name s).outcome = .ok c
  := by
  have ht : s.placement.outcome = .ok ⟨m, s.origin.toVec⟩ := by
    rw [CylinderSpec.outcome_placement, h]
    rfl
  have hne := AffineMap.det_ne_zero (CylinderSpec.placement_eq_ok_iff.mp ht).2.2
  refine ⟨_, assemble_eq_ok_iff.mpr ⟨_, ht, ?_, rfl⟩⟩
  intro plane hplane
  rw [Plane.carriedNormal_inv plane hne]
  apply hplanes plane hplane

theorem placement_isInvertible (h : (assemble name s).outcome = .ok c) :
  c.placement.isInvertible = true
  := (CylinderSpec.placement_eq_ok_iff.mp (placement_assemble h)).2.2

end

/-! ### Containment -/

/-- Whether a cylinder contains a point is always decided, if its placement has an inverse. -/
theorem contains_eq {c : Cylinder ℝ} (h : c.placement.isInvertible = true) (tolerance : ℝ)
    (p : Point ℝ) :
  c.contains tolerance p =
    .ok (!c.isFlat && (c.solidContains tolerance (c.placement.inv.applyPoint p) &&
      c.bounds.all (·.keeps tolerance (c.placement.inv.applyPoint p))))
  := by
  rw [contains, AffineMap.inverse_eq_ok_iff.mpr ⟨h, rfl⟩, Outcome.ok_bind]
  cases c.isFlat with
  | true => rfl
  | false => rfl

/-- The image of a plane keeps the image of a point exactly if the plane keeps the point with
the tolerance multiplied by the norm of the carried normal. -/
theorem keeps_image_inv {plane : Plane ℝ} {t : AffineMap ℝ} (ht : t.inv.isInvertible = true)
    (hp : 0 < (plane.carriedNormal t.inv).norm) (tolerance : ℝ) (p : Point ℝ) :
  (HalfSpace.mk (plane.image t.inv)).keeps tolerance (t.inv.applyPoint p) = true
    ↔ plane.signedDistance p ≤ tolerance * (plane.carriedNormal t.inv).norm
  := by
  rw [HalfSpace.keeps, Plane.signedDistance_image plane (AffineMap.det_ne_zero ht),
    Scalar.le_eq, decide_eq_true_eq, div_le_iff₀ hp]

/-- The point of the world is in the cylinder without its half-spaces. -/
def InSolid (c : Cylinder ℝ) (tolerance : ℝ) (p : Point ℝ) : Prop :=
  c.isFlat = false ∧ c.solidContains tolerance (c.placement.inv.applyPoint p) = true

/-- An assembled cylinder contains the points of its solid that the described planes keep in
the world, with the tolerance multiplied by the norms of the carried normals. -/
theorem contains_assemble {name : String} {s : CylinderSpec ℝ} {c : Cylinder ℝ}
    (h : (assemble name s).outcome = .ok c) (tolerance : ℝ) (p : Point ℝ) :
  ∃ b, c.contains tolerance p = .ok b ∧
    (b = true ↔ c.InSolid tolerance p ∧
      ∀ plane ∈ s.planes,
        plane.signedDistance p ≤ tolerance * (plane.carriedNormal c.placement.inv).norm)
  := by
  have hinv := CylinderSpec.placement_inv_isInvertible (placement_assemble h)
  have hplanes := carriedNormal_assemble h
  rw [contains_eq (placement_isInvertible h)]
  refine ⟨_, rfl, ?_⟩
  simp only [bounds_assemble h, InSolid, Bool.and_eq_true, Bool.not_eq_true', List.all_map,
    List.all_eq_true, Function.comp_apply, and_assoc]
  apply and_congr_right'
  apply and_congr_right'
  apply forall₂_congr
  intro plane hplane
  apply keeps_image_inv hinv (Scalar.epsilon_pos.trans (hplanes plane hplane))

theorem contains_eq_true_iff {name : String} {s : CylinderSpec ℝ} {c : Cylinder ℝ}
    (h : (assemble name s).outcome = .ok c) (tolerance : ℝ) (p : Point ℝ) :
  c.contains tolerance p = .ok true
    ↔ c.InSolid tolerance p ∧
      ∀ plane ∈ s.planes,
        plane.signedDistance p ≤ tolerance * (plane.carriedNormal c.placement.inv).norm
  := by
  obtain ⟨b, hc, hb⟩ := contains_assemble h tolerance p
  rw [hc, ← hb, Except.ok.injEq]

/-- For an orthogonal placement and planes with unit normals, the tolerance is not changed. -/
theorem norm_carriedNormal_of_isOrthogonal {plane : Plane ℝ} {t : AffineMap ℝ}
    (ht : t.linear.IsOrthogonal) (hp : plane.normal.norm = 1) :
  (plane.carriedNormal t.inv).norm = 1
  := by
  rw [Vec3.norm_eq_one_iff] at hp ⊢
  rw [Plane.carriedNormal_inv plane ht.det_ne_zero, ht.transpose_apply_dot_self, hp]

/-! ### A leaning frame -/

/-- A round cylinder along the third coordinate axis, clipped by one plane, with a frame vector
that leans out of the plane across the axis by `k`. -/
def leaning (k : ℝ) : CylinderSpec ℝ :=
  ⟨⟨0, 0, 0⟩, 1, 1, 1, ⟨0, 0, 1⟩, some ⟨3, 0, k⟩, none, [⟨⟨0, 0, 0⟩, ⟨0, 1, 0⟩⟩]⟩

theorem leaning_hasUnitNormals (k : ℝ) :
  ∀ plane ∈ (leaning k).planes, plane.normal.norm = 1
  := by
  intro plane hplane
  obtain rfl := List.mem_singleton.mp hplane
  norm_num [Vec3.norm_eq_one_iff, Vec3.dot_eq]

theorem det_leaning (k n : ℝ) :
  (⟨⟨3 / n, 0, 0⟩, ⟨0, -1, 0⟩, ⟨k / n, 0, 1⟩⟩ : Matrix3 ℝ).det = -(3 / n)
  := by
  rw [Matrix3.det_eq, Matrix3.det_toMatrix]
  simp only [Matrix3.transpose, Matrix3.ofColumns, Vec3.cross_eq, Vec3.dot_eq]
  ring

theorem epsilon_lt_det_leaning (k : ℝ) {n : ℝ} (hn : 0 < n) (hle : n ≤ 6) :
  Scalar.epsilon < |(⟨⟨3 / n, 0, 0⟩, ⟨0, -1, 0⟩, ⟨k / n, 0, 1⟩⟩ : Matrix3 ℝ).det|
  := by
  rw [det_leaning, abs_neg, abs_of_pos (div_pos three_pos hn)]
  apply Scalar.epsilon_lt_half.trans_le
  rw [div_le_div_iff₀ two_pos hn]
  linarith

/-- The leaning frame vector has the length `n`. -/
theorem orientation_leaning {k n : ℝ} (hk : 9 + k * k = n * n) (hn : 1 ≤ n) (hle : n ≤ 6) :
  (leaning k).orientation.outcome = .ok ⟨⟨3 / n, 0, 0⟩, ⟨0, -1, 0⟩, ⟨k / n, 0, 1⟩⟩
  := by
  have he := Scalar.epsilon_lt_half
  have hpos : 0 < n := by linarith
  have hx : (⟨3, 0, k⟩ : Vec3 ℝ).norm = n := by
    apply Vec3.norm_eq_of_mul_self hpos.le
    rw [Vec3.dot_eq]
    linarith
  have hy : (⟨0, -3, 0⟩ : Vec3 ℝ).norm = 3 := by
    apply Vec3.norm_eq_of_mul_self <;> norm_num [Vec3.dot_eq]
  have hz : (⟨0, 0, 1⟩ : Vec3 ℝ).norm = 1 := by
    norm_num [Vec3.norm_eq_one_iff, Vec3.dot_eq]
  have hcross : (⟨3, 0, k⟩ : Vec3 ℝ).cross ⟨0, 0, 1⟩ = ⟨0, -3, 0⟩ := by
    norm_num [Vec3.cross_eq]
  have hdirections : (⟨⟨3, 0, k⟩, ⟨0, -3, 0⟩, ⟨0, 0, 1⟩⟩ : Frame ℝ).directions
      = ⟨⟨3 / n, 0, 0⟩, ⟨0, -1, 0⟩, ⟨k / n, 0, 1⟩⟩ := by
    simp only [Frame.directions, hx, hy, hz, Vec3.dividedBy_eq, Matrix3.ofColumns]
    norm_num
  rw [CylinderSpec.orientation_eq_ok_iff]
  refine ⟨⟨⟨3, 0, k⟩, ⟨0, -3, 0⟩, ⟨0, 0, 1⟩⟩, ?_, Frame.matrix_eq_ok_iff.mpr ⟨⟨?_, ?_, ?_, ?_⟩, ?_⟩⟩
  · rw [← hcross]
    rfl
  · rw [hx]
    linarith
  · rw [hy]
    linarith
  · rw [hz]
    linarith
  · rw [hdirections]
    apply epsilon_lt_det_leaning k hpos hle
  · apply hdirections

theorem exists_assemble_leaning {k n : ℝ} (hk : 9 + k * k = n * n) (hn : 1 ≤ n) (hle : n ≤ 6) :
  ∃ c, (assemble "Cyl" (leaning k)).outcome = .ok c
  := by
  apply exists_assemble (orientation_leaning hk hn hle)
  intro plane hplane
  obtain rfl := List.mem_singleton.mp hplane
  have hnormal : (⟨0, -1, 0⟩ : Vec3 ℝ).norm = 1 := by
    norm_num [Vec3.norm_eq_one_iff, Vec3.dot_eq]
  simp only [Matrix3.apply_eq, Matrix3.transpose, Matrix3.ofColumns, Vec3.dot_eq]
  norm_num [hnormal, Scalar.epsilon_lt_one]

end Cylinder

end ClippedCylinder
