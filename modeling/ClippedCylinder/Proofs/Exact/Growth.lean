import ClippedCylinder.Proofs.Exact.Assembly

/-!
# Larger cylinders

The half widths and the half length of a description are used only to test points, so they do not
matter to the placement and to the planes.  A cylinder that is not smaller in any of them, tested
with no less slack, contains at least as much (`Cylinder.contains_resized`): a half width that is
not positive makes a cylinder empty, and a positive one may only grow.
-/

namespace ClippedCylinder

/-- The description with other half widths and another half length. -/
def CylinderSpec.resized (s : CylinderSpec ℝ) (dx dy dz : ℝ) : CylinderSpec ℝ :=
  { s with dx := dx, dy := dy, dz := dz }

namespace Cylinder

/-! ### Solids -/

theorem isFlat_eq_false_iff (c : Cylinder ℝ) :
  c.isFlat = false ↔ 0 < c.spec.dx ∧ 0 < c.spec.dy
  := by
  simp only [isFlat, Scalar.le_eq, Bool.or_eq_false_iff, decide_eq_false_iff_not, not_le]

/-- The square of a quotient by a positive number gets smaller as the number grows. -/
theorem quotient_mul_self_le {a b : ℝ} (ha : 0 < a) (hab : a ≤ b) (x : ℝ) :
  x / b * (x / b) ≤ x / a * (x / a)
  := by
  rw [div_mul_div_comm, div_mul_div_comm]
  apply div_le_div_of_nonneg_left (mul_self_nonneg x) (mul_pos ha ha)
  apply mul_self_le_mul_self ha.le hab

variable {c c' : Cylinder ℝ} {tolerance tolerance' : ℝ}

theorem solidContains_mono (hx : 0 < c.spec.dx) (hy : 0 < c.spec.dy)
    (hdx : c.spec.dx ≤ c'.spec.dx) (hdy : c.spec.dy ≤ c'.spec.dy) (hdz : c.spec.dz ≤ c'.spec.dz)
    (htolerance : tolerance ≤ tolerance') {q : Point ℝ}
    (h : c.solidContains tolerance q = true) :
  c'.solidContains tolerance' q = true
  := by
  simp only [solidContains, Bool.and_eq_true, Scalar.le_eq, Scalar.abs_eq, decide_eq_true_eq] at h ⊢
  obtain ⟨hradial, haxial⟩ := h
  have hx' := quotient_mul_self_le hx hdx q.x
  have hy' := quotient_mul_self_le hy hdy q.y
  constructor
  · calc q.x / c'.spec.dx * (q.x / c'.spec.dx) + q.y / c'.spec.dy * (q.y / c'.spec.dy)
      _ ≤ q.x / c.spec.dx * (q.x / c.spec.dx) + q.y / c.spec.dy * (q.y / c.spec.dy) :=
        add_le_add hx' hy'
      _ ≤ 1 + tolerance := hradial
      _ ≤ 1 + tolerance' := by linarith
  · calc |q.z|
      _ ≤ c.spec.dz + tolerance := haxial
      _ ≤ c'.spec.dz + tolerance' := add_le_add hdz htolerance

/-- Cylinders with one placement: the larger one has the larger solid. -/
theorem InSolid.mono (hplacement : c'.placement = c.placement) (hdx : c.spec.dx ≤ c'.spec.dx)
    (hdy : c.spec.dy ≤ c'.spec.dy) (hdz : c.spec.dz ≤ c'.spec.dz)
    (htolerance : tolerance ≤ tolerance') {p : Point ℝ} (h : c.InSolid tolerance p) :
  c'.InSolid tolerance' p
  := by
  obtain ⟨hflat, hsolid⟩ := h
  obtain ⟨hx, hy⟩ := c.isFlat_eq_false_iff.mp hflat
  constructor
  · apply c'.isFlat_eq_false_iff.mpr
    exact ⟨hx.trans_le hdx, hy.trans_le hdy⟩
  · rw [hplacement]
    apply solidContains_mono hx hy hdx hdy hdz htolerance hsolid

/-! ### Assembled cylinders -/

variable {name name' : String} {s : CylinderSpec ℝ} {dx dy dz : ℝ}

/-- The size does not matter to the assembly. -/
theorem assemble_resized (name' : String) (dx dy dz : ℝ) (h : (assemble name s).outcome = .ok c) :
  (assemble name' (s.resized dx dy dz)).outcome
    = .ok { c with typeName := name', spec := s.resized dx dy dz }
  := by
  obtain ⟨t, ht, hplanes, rfl⟩ := assemble_eq_ok_iff.mp h
  exact assemble_eq_ok_iff.mpr ⟨t, ht, hplanes, rfl⟩

/-- A description that differs in half widths and a half length that are not smaller can be
assembled, too, and the cylinder contains with no less slack whatever the first one contains. -/
theorem contains_resized (hdx : s.dx ≤ dx) (hdy : s.dy ≤ dy) (hdz : s.dz ≤ dz)
    (htolerance : tolerance ≤ tolerance') (h : (assemble name s).outcome = .ok c) :
  ∃ c', (assemble name' (s.resized dx dy dz)).outcome = .ok c' ∧
    ∀ p, ∃ b b', c.contains tolerance p = .ok b ∧ c'.contains tolerance' p = .ok b' ∧
      (b = true → b' = true)
  := by
  have hspec := spec_assemble h
  have h' := assemble_resized name' dx dy dz h
  refine ⟨_, h', ?_⟩
  intro p
  obtain ⟨b, hb, hiff⟩ := contains_assemble h tolerance p
  obtain ⟨b', hb', hiff'⟩ := contains_assemble h' tolerance' p
  refine ⟨b, b', hb, hb', ?_⟩
  intro htrue
  obtain ⟨hsolid, hplanes⟩ := hiff.mp htrue
  apply hiff'.mpr
  constructor
  · refine InSolid.mono ?_ ?_ ?_ ?_ htolerance hsolid
    · rfl
    · rw [hspec]
      apply hdx
    · rw [hspec]
      apply hdy
    · rw [hspec]
      apply hdz
  · intro plane hplane
    apply (hplanes plane hplane).trans
    apply mul_le_mul_of_nonneg_right htolerance (Vec3.norm_nonneg _)

/-- The leaning cylinder, made wider in one direction and three times as wide in the other. -/
theorem contains_resized_of_leaning :
  ∃ c, (assemble "Cyl" (leaning 4)).outcome = .ok c ∧
    ∃ c', (assemble "Cyl" ((leaning 4).resized 2 3 1)).outcome = .ok c' ∧
      ∀ p, ∃ b b', c.contains 0 p = .ok b ∧ c'.contains 1 p = .ok b' ∧ (b = true → b' = true)
  := by
  obtain ⟨c, h⟩ := exists_assemble_leaning (k := 4) (n := 5) (by norm_num) (by norm_num)
    (by norm_num)
  use c, h
  apply contains_resized _ _ _ zero_le_one h
  · norm_num [leaning]
  · norm_num [leaning]
  · norm_num [leaning]

end Cylinder

end ClippedCylinder
