import ClippedCylinder.Proofs.Exact.Assembly

/-!
# Moved cylinders

If the centre and the planes of a description are moved by a vector, it describes the moved
cylinder.  The placement is moved as well, and its inverse sends moved points to where the inverse
of the placement sends the points (`AffineMap.inv_moved_applyPoint`).  So the vector cannot be seen
in the coordinates of the cylinder: the half-spaces stay the same ones, and the moved points are
contained exactly if the points are (`Cylinder.assemble_moved`).
-/

namespace ClippedCylinder

/-! ### Moving -/

section

variable {K : Type} [Scalar K]

/-- The plane moved by a vector. -/
def Plane.moved (plane : Plane K) (d : Vec3 K) : Plane K :=
  { plane with anchor := plane.anchor.move d }

/-- The map whose images are moved by a vector. -/
def AffineMap.moved (t : AffineMap K) (d : Vec3 K) : AffineMap K :=
  { t with shift := t.shift + d }

/-- The description with its centre and its planes moved by a vector. -/
def CylinderSpec.moved (s : CylinderSpec K) (d : Vec3 K) : CylinderSpec K :=
  { s with origin := s.origin.move d, planes := s.planes.map (·.moved d) }

/-- The cylinder moved by a vector, with the same half-spaces in its own coordinates. -/
def Cylinder.moved (c : Cylinder K) (d : Vec3 K) : Cylinder K :=
  { c with spec := c.spec.moved d, placement := c.placement.moved d }

end

variable (d : Vec3 ℝ)

/-! ### Own coordinates -/

theorem Point.toVec_move (p : Point ℝ) :
  (p.move d).toVec = p.toVec + d
  := rfl

/-- The inverse of the moved map undoes the move. -/
theorem AffineMap.inv_moved_applyPoint (t : AffineMap ℝ) (p : Point ℝ) :
  (t.moved d).inv.applyPoint (p.move d) = t.inv.applyPoint p
  := by
  apply Point.toVec_injective
  rw [toVec_inv_applyPoint, toVec_inv_applyPoint, moved, Point.toVec_move, Vec3.add_sub_add_right]

theorem Plane.mapped_moved (plane : Plane ℝ) (t : AffineMap ℝ) :
  (plane.moved d).mapped (t.moved d).inv = plane.mapped t.inv
  := by
  simp only [mapped, moved, AffineMap.inv_moved_applyPoint]
  rfl

theorem CylinderSpec.placement_moved (s : CylinderSpec ℝ) :
  (s.moved d).placement.outcome = s.placement.outcome.map (·.moved d)
  := by
  have horientation : (s.moved d).orientation = s.orientation := rfl
  rw [outcome_placement, outcome_placement, horientation]
  cases s.orientation.outcome with
  | error f => rfl
  | ok m => rfl

namespace Cylinder

theorem localBounds_moved (s : CylinderSpec ℝ) (t : AffineMap ℝ) :
  localBounds (s.moved d) (t.moved d) = localBounds s t
  := by
  by_cases h : t.isInvertible = true
  · have h' : (t.moved d).isInvertible = true := h
    rw [localBounds, localBounds, AffineMap.inverse_eq_ok_iff.mpr ⟨h, rfl⟩,
      AffineMap.inverse_eq_ok_iff.mpr ⟨h', rfl⟩, Outcome.ok_bind, Outcome.ok_bind]
    simp only [CylinderSpec.moved, List.mapM_map, Function.comp_def, Plane.mapped_moved]
  · have h' : ¬ (t.moved d).isInvertible = true := h
    rw [localBounds, localBounds, AffineMap.inverse, AffineMap.inverse, AffineMap.inverseLinear,
      AffineMap.inverseLinear, if_neg h, if_neg h']
    rfl

theorem contains_moved {c : Cylinder ℝ} (h : c.placement.isInvertible = true) (tolerance : ℝ)
    (p : Point ℝ) :
  (c.moved d).contains tolerance (p.move d) = c.contains tolerance p
  := by
  have h' : (c.moved d).placement.isInvertible = true := h
  rw [contains_eq h, contains_eq h', moved, AffineMap.inv_moved_applyPoint]
  rfl

/-- A moved description is assembled to the moved cylinder, or fails as the description does.  The
moved cylinder has the same orientation, the same size and the same half-spaces, and it contains
exactly the moved points. -/
theorem assemble_moved (name : String) (s : CylinderSpec ℝ) :
  (assemble name (s.moved d)).outcome = (assemble name s).outcome.map (·.moved d) ∧
    ∀ c, (assemble name s).outcome = .ok c →
      ∃ c', (assemble name (s.moved d)).outcome = .ok c' ∧
        c'.placement.linear = c.placement.linear ∧
        c'.placement.shift = c.placement.shift + d ∧
        c'.spec.extents = c.spec.extents ∧
        c'.bounds = c.bounds ∧
        ∀ tolerance p, ∃ b, c.contains tolerance p = .ok b ∧
          c'.contains tolerance (p.move d) = .ok b
  := by
  have hassemble :
      (assemble name (s.moved d)).outcome = (assemble name s).outcome.map (·.moved d) := by
    simp only [assemble, Traced.outcome_bind, Traced.outcome_lift, Traced.outcome_pure,
      CylinderSpec.placement_moved]
    cases s.placement.outcome with
    | error f => rfl
    | ok t =>
      change localBounds (s.moved d) (t.moved d) >>= _ = Except.map _ (localBounds s t >>= _)
      rw [localBounds_moved]
      cases localBounds s t with
      | error f => rfl
      | ok bounds => rfl
  use hassemble
  intro c hc
  refine ⟨c.moved d, ?_, rfl, rfl, rfl, rfl, ?_⟩
  · rw [hassemble, hc]
    rfl
  · intro tolerance p
    obtain ⟨b, hb, -⟩ := contains_assemble hc tolerance p
    use b, hb
    rw [contains_moved d (placement_isInvertible hc), hb]

/-- The leaning cylinder, moved along a vector that is not in its plane. -/
theorem assemble_moved_of_leaning :
  ∃ c, (assemble "Cyl" (leaning 4)).outcome = .ok c ∧
    ∃ c', (assemble "Cyl" ((leaning 4).moved ⟨1, 2, 3⟩)).outcome = .ok c' ∧
      c'.bounds = c.bounds ∧ c'.placement.shift = c.placement.shift + ⟨1, 2, 3⟩
  := by
  obtain ⟨c, hc⟩ := exists_assemble_leaning (k := 4) (n := 5) (by norm_num) (by norm_num)
    (by norm_num)
  obtain ⟨c', hc', -, hshift, -, hbounds, -⟩ :=
    (assemble_moved ⟨1, 2, 3⟩ "Cyl" (leaning 4)).2 c hc
  exact ⟨c, hc, c', hc', hbounds, hshift⟩

end Cylinder

end ClippedCylinder
