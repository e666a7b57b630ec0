import Mathlib.Data.List.Perm.Basic
import ClippedCylinder.Proofs.Exact.Assembly

/-!
# Clipping over the real numbers

Clipping in the coordinates of a cylinder is clipping in the world: the half-spaces of an
assembled cylinder keep what the planes of its description keep, in any order and also for
frames that are oblique or reflect (`Cylinder.contains_iff_unclipped`).  The planes come back
from the coordinates of the cylinder as they were described (`Cylinder.worldPlanes_eq`).
-/

namespace ClippedCylinder.Cylinder

variable {name : String} {s : CylinderSpec ℝ} {c c' : Cylinder ℝ} {planes : List (Plane ℝ)}

/-! ### Other planes -/

/-- A cylinder with some of the planes of an assembled cylinder, in any order, can be
assembled. -/
theorem exists_assemble_planes (h : (assemble name s).outcome = .ok c)
    (hplanes : ∀ plane ∈ planes, plane ∈ s.planes) :
  ∃ c', (assemble name { s with planes := planes }).outcome = .ok c'
  := by
  have hplacement := placement_assemble h
  refine ⟨_, assemble_eq_ok_iff.mpr ⟨c.placement, hplacement, ?_, rfl⟩⟩
  intro plane hplane
  apply carriedNormal_assemble h plane (hplanes plane hplane)

/-- The placement does not depend on the planes. -/
theorem placement_eq_of_assemble (h : (assemble name s).outcome = .ok c)
    (h' : (assemble name { s with planes := planes }).outcome = .ok c') :
  c'.placement = c.placement
  := by
  apply Except.ok.inj (ε := Fault ℝ)
  rw [← placement_assemble h, ← placement_assemble h']
  rfl

/-- The solid does not depend on the planes. -/
theorem inSolid_iff_of_assemble (h : (assemble name s).outcome = .ok c)
    (h' : (assemble name { s with planes := planes }).outcome = .ok c') (tolerance : ℝ)
    (p : Point ℝ) :
  c'.InSolid tolerance p ↔ c.InSolid tolerance p
  := by
  unfold InSolid isFlat solidContains
  rw [placement_eq_of_assemble h h', spec_assemble h, spec_assemble h']

/-- A clipped cylinder contains what the unclipped one contains and the planes keep, with the
tolerance multiplied by the norms of the carried normals. -/
theorem contains_eq_true_iff_of_unclipped (h : (assemble name s).outcome = .ok c)
    (h' : (assemble name { s with planes := [] }).outcome = .ok c') (tolerance : ℝ)
    (p : Point ℝ) :
  c.contains tolerance p = .ok true
    ↔ c'.contains tolerance p = .ok true ∧
      ∀ plane ∈ s.planes,
        plane.signedDistance p ≤ tolerance * (plane.carriedNormal c.placement.inv).norm
  := by
  simp only [contains_eq_true_iff h, contains_eq_true_iff h', inSolid_iff_of_assemble h h',
    List.not_mem_nil, false_imp_iff, implies_true, and_true]

/-- Cylinders that have the same planes in another order contain the same points. -/
theorem contains_eq_of_perm (h : (assemble name s).outcome = .ok c)
    (h' : (assemble name { s with planes := planes }).outcome = .ok c')
    (hplanes : planes.Perm s.planes) (tolerance : ℝ) (p : Point ℝ) :
  c'.contains tolerance p = c.contains tolerance p
  := by
  obtain ⟨b, hc, hb⟩ := contains_assemble h tolerance p
  obtain ⟨b', hc', hb'⟩ := contains_assemble h' tolerance p
  rw [hc, hc']
  congr 1
  rw [Bool.eq_iff_iff, hb, hb', inSolid_iff_of_assemble h h', placement_eq_of_assemble h h']
  simp only [hplanes.mem_iff]

/-- A cylinder contains a point with tolerance zero exactly if the cylinder without planes
contains it and every plane keeps it in the world; with an orthogonal placement and unit
normals, the same holds with every tolerance.  The order of the planes does not matter. -/
theorem contains_iff_unclipped (h : (assemble name s).outcome = .ok c) :
  (∀ tolerance p, ∃ b, c.contains tolerance p = .ok b) ∧
    (∃ c₀, (assemble name { s with planes := [] }).outcome = .ok c₀ ∧
      (∀ p, c.contains 0 p = .ok true
        ↔ c₀.contains 0 p = .ok true ∧ ∀ plane ∈ s.planes, plane.signedDistance p ≤ 0) ∧
      (c.placement.linear.IsOrthogonal → (∀ plane ∈ s.planes, plane.normal.norm = 1) →
        ∀ tolerance p, c.contains tolerance p = .ok true
          ↔ c₀.contains tolerance p = .ok true ∧
            ∀ plane ∈ s.planes, plane.signedDistance p ≤ tolerance)) ∧
    (∀ planes : List (Plane ℝ), planes.Perm s.planes →
      ∃ c', (assemble name { s with planes := planes }).outcome = .ok c' ∧
        ∀ tolerance p, c'.contains tolerance p = c.contains tolerance p)
  := by
  refine ⟨?_, ?_, ?_⟩
  · intro tolerance p
    obtain ⟨b, hb, -⟩ := contains_assemble h tolerance p
    use b, hb
  · obtain ⟨c₀, h₀⟩ := exists_assemble_planes h (List.forall_mem_nil _)
    refine ⟨c₀, h₀, ?_, ?_⟩
    · intro p
      simp only [contains_eq_true_iff_of_unclipped h h₀, zero_mul]
    · intro horthogonal hunit tolerance p
      rw [contains_eq_true_iff_of_unclipped h h₀]
      apply and_congr_right'
      apply forall₂_congr
      intro plane hplane
      rw [norm_carriedNormal_of_isOrthogonal horthogonal (hunit plane hplane), mul_one]
  · intro planes hplanes
    obtain ⟨c', h'⟩ := exists_assemble_planes h fun _ => hplanes.mem_iff.mp
    use c', h'
    apply contains_eq_of_perm h h' hplanes

/-- The frame vector `(3, 0, 4)` is oblique to the axis. -/
theorem contains_leaning_iff_unclipped :
  ∃ c c₀, (assemble "Cyl" (leaning 4)).outcome = .ok c ∧
    (assemble "Cyl" { leaning 4 with planes := [] }).outcome = .ok c₀ ∧
    ∀ p, c.contains 0 p = .ok true
      ↔ c₀.contains 0 p = .ok true ∧ ∀ plane ∈ (leaning 4).planes, plane.signedDistance p ≤ 0
  := by
  obtain ⟨c, h⟩ := exists_assemble_leaning (k := 4) (n := 5) (by norm_num) (by norm_num)
    (by norm_num)
  obtain ⟨-, ⟨c₀, h₀, hclip, -⟩, -⟩ := contains_iff_unclipped h
  use c, c₀, h, h₀, hclip

/-! ### Planes in the world -/

theorem worldPlanes_eq_ok_iff (h : c.placement.isInvertible = true) :
  c.worldPlanes = .ok planes
    ↔ (∀ half ∈ c.bounds, Scalar.epsilon < (half.boundary.carriedNormal c.placement).norm) ∧
      c.bounds.map (fun half => half.boundary.image c.placement) = planes
  := by
  apply Outcome.mapM_eq_ok_iff
  intro half plane
  simp only [Outcome.bind_eq_ok_iff, HalfSpace.mapped_eq_ok_iff]
  constructor
  · rintro ⟨_, ⟨⟨-, hnorm⟩, rfl⟩, hplane⟩
    exact ⟨hnorm, Except.ok.inj hplane⟩
  · rintro ⟨hnorm, rfl⟩
    exact ⟨_, ⟨⟨h, hnorm⟩, rfl⟩, rfl⟩

/-- The inverse of a placement makes a unit normal less than twice as long. -/
theorem norm_carriedNormal_lt_two {plane : Plane ℝ} {t : AffineMap ℝ}
    (ht : t.linear.det ≠ 0) (hcolumns : t.linear.HasUnitColumns)
    (hplane : plane.normal.norm = 1) :
  (plane.carriedNormal t.inv).norm < 2
  := by
  have hle := hcolumns.transpose_apply_dot_self_le plane.normal
  rw [← Plane.carriedNormal_inv plane ht, ← Vec3.norm_mul_norm,
    (Vec3.norm_eq_one_iff _).mp hplane] at hle
  nlinarith

/-- The planes come back from the coordinates of an assembled cylinder as they were described,
if their normals are unit vectors. -/
theorem worldPlanes_eq (h : (assemble name s).outcome = .ok c)
    (hunit : ∀ plane ∈ s.planes, plane.normal.norm = 1) :
  c.worldPlanes = .ok s.planes
  := by
  have ht := placement_isInvertible h
  have hdet := AffineMap.det_ne_zero ht
  have hcolumns := CylinderSpec.placement_hasUnitColumns (placement_assemble h)
  have hpos (plane) (hplane : plane ∈ s.planes) :=
    Scalar.epsilon_pos.trans (carriedNormal_assemble h plane hplane)
  rw [worldPlanes_eq_ok_iff ht, bounds_assemble h]
  constructor
  · rw [List.forall_mem_map]
    intro plane hplane
    rw [Plane.carriedNormal_image_inv plane hdet, Vec3.norm_dividedBy _ (hpos plane hplane),
      hunit plane hplane]
    apply Scalar.epsilon_lt_half.trans
    apply one_div_lt_one_div_of_lt (hpos plane hplane)
    apply norm_carriedNormal_lt_two hdet hcolumns (hunit plane hplane)
  · rw [List.map_map]
    apply Eq.trans (List.map_congr_left _) (List.map_id s.planes)
    intro plane hplane
    apply Plane.image_image_inv hdet (hunit plane hplane) (hpos plane hplane)

theorem worldPlanes_leaning_eq :
  ∃ c, (assemble "Cyl" (leaning 4)).outcome = .ok c ∧
    (∀ plane ∈ (leaning 4).planes, plane.normal.norm = 1) ∧
    c.worldPlanes = .ok (leaning 4).planes
  := by
  obtain ⟨c, h⟩ := exists_assemble_leaning (k := 4) (n := 5) (by norm_num) (by norm_num)
    (by norm_num)
  have hunit := leaning_hasUnitNormals 4
  use c, h, hunit, worldPlanes_eq h hunit

end ClippedCylinder.Cylinder
