import ClippedCylinder.Geometry.Table
import ClippedCylinder.Proofs.Exact.Assembly

/-!
# Many points at once

Points are also handed over as the rows of a table, and one step after the other is taken on all of
them: the map to the coordinates of a cylinder as a product with a transposed matrix, and every
half-space as one more mask.  Over the real numbers this comes to what is said of the points one by
one (`Cylinder.mask_pointwise`).
-/

namespace ClippedCylinder

/-! ### Maps and half-spaces -/

/-- The product of a row with the transposed matrix is the image of the row. -/
theorem Matrix3.transpose_applyRow (m : Matrix3 ℝ) (v : Vec3 ℝ) :
  m.transpose.applyRow v = m.apply v
  := by
  simp only [apply_eq, applyRow, transpose, ofColumns, Vec3.scale, Vec3.add_def, Vec3.dot_eq]

theorem AffineMap.applyPoints_eq (t : AffineMap ℝ) (ps : List (Point ℝ)) :
  t.applyPoints ps = ps.map t.applyPoint
  := by
  simp only [applyPoints, Matrix3.transpose_applyRow]
  rfl

theorem Plane.signedDistances_eq (plane : Plane ℝ) (ps : List (Point ℝ)) :
  plane.signedDistances ps = ps.map plane.signedDistance
  := by
  simp only [signedDistances, Vec3.dot_comm]
  rfl

namespace HalfSpace

variable (tolerance : ℝ) (ps : List (Point ℝ))

theorem mask_eq (h : HalfSpace ℝ) :
  h.mask tolerance ps = ps.map (h.keeps tolerance)
  := by
  rw [mask, Plane.signedDistances_eq, List.map_map]
  rfl

/-- The masks of half-spaces, one after the other, leave the points that all of them keep. -/
theorem foldl_mask (hs : List (HalfSpace ℝ)) (inside : Point ℝ → Bool) :
  hs.foldl (fun bs h => bs.zipWith (· && ·) (h.mask tolerance ps)) (ps.map inside)
    = ps.map fun p => inside p && hs.all (·.keeps tolerance p)
  := by
  induction hs generalizing inside with
  | nil => simp only [List.foldl_nil, List.all_nil, Bool.and_true]
  | cons h hs ih =>
    have hstep : (ps.map inside).zipWith (· && ·) (h.mask tolerance ps)
        = ps.map fun p => inside p && h.keeps tolerance p := by
      rw [mask_eq, List.zipWith_map, List.zipWith_self]
    rw [List.foldl_cons, hstep, ih]
    simp only [List.all_cons, Bool.and_assoc]

end HalfSpace

/-! ### Rows of tables -/

namespace Table

variable {K : Type}

/-- A point as a row of a table. -/
def ofPoint (p : Point K) : Table K :=
  list [number p.x, number p.y, number p.z]

/-- Points as the rows of a table. -/
def ofPoints (ps : List (Point K)) : Table K :=
  list (ps.map ofPoint)

theorem shape_ofPoint (p : Point K) :
  (ofPoint p).shape = [3]
  := rfl

theorem shapeOfAll_ofPoint (p : Point K) (ps : List (Point K)) :
  shapeOfAll ((p :: ps).map ofPoint) = [3]
  := by
  induction ps generalizing p with
  | nil => rfl
  | cons q ps ih =>
    rw [List.map_cons, List.map_cons, shapeOfAll, ← List.map_cons, ih, shape_ofPoint]
    · rfl
    · simp

theorem allHaveShape_ofPoint (ps : List (Point K)) :
  allHaveShape (ps.map ofPoint) [3] = true
  := by
  induction ps with
  | nil => rfl
  | cons p ps ih =>
    rw [List.map_cons, allHaveShape, ih]
    rfl

/-- The coordinates of the rows follow one another. -/
theorem pointsOfNumbers_ofPoint (ps : List (Point K)) :
  pointsOfNumbers (numbersOfAll (ps.map ofPoint)) = ps
  := by
  induction ps with
  | nil => rfl
  | cons p ps ih =>
    rw [List.map_cons, numbersOfAll]
    change p :: pointsOfNumbers (numbersOfAll (ps.map ofPoint)) = p :: ps
    rw [ih]

theorem points_ofPoint (p : Point K) :
  (ofPoint p).points = .ok [p]
  := rfl

theorem points_ofPoints {ps : List (Point K)} (h : ps ≠ []) :
  (ofPoints ps).points = .ok ps
  := by
  obtain ⟨p, ps, rfl⟩ := List.exists_cons_of_ne_nil h
  have hshape : (ofPoints (p :: ps)).shape = [ps.length + 1, 3] := by
    rw [ofPoints, shape, shapeOfAll_ofPoint, List.length_map, List.length_cons]
  have hread : (ofPoints (p :: ps)).read
      = .ok ([ps.length + 1, 3], numbersOfAll ((p :: ps).map ofPoint)) := by
    rw [read, hshape, ofPoints, hasShape, allHaveShape_ofPoint]
    simp [maxDepth, numbers]
  rw [points, hread, Outcome.ok_bind]
  change Except.ok (pointsOfNumbers (numbersOfAll ((p :: ps).map ofPoint))) = _
  rw [pointsOfNumbers_ofPoint]

end Table

/-! ### Cylinders -/

namespace Cylinder

/-- The test that a cylinder puts to every point, if it has one. -/
noncomputable def test (c : Cylinder ℝ) (tolerance : ℝ) : Except (Fault ℝ) (Point ℝ → Bool) :=
  if c.isFlat then .ok fun _ => false
  else
    c.placement.inverse.map fun toLocal p =>
      c.solidContains tolerance (toLocal.applyPoint p) &&
        c.bounds.all (·.keeps tolerance (toLocal.applyPoint p))

variable (c : Cylinder ℝ) (tolerance : ℝ)

theorem contains_eq_test (p : Point ℝ) :
  c.contains tolerance p = (c.test tolerance).map fun inside => inside p
  := by
  rw [contains, test]
  split
  · rfl
  · cases c.placement.inverse with
    | error f => rfl
    | ok toLocal => rfl

theorem mask_eq_test (ps : List (Point ℝ)) :
  c.mask tolerance ps = (c.test tolerance).map fun inside => ps.map inside
  := by
  rw [mask, test]
  split
  · rfl
  · cases c.placement.inverse with
    | error f => rfl
    | ok toLocal =>
      have hfold := HalfSpace.foldl_mask tolerance (ps.map toLocal.applyPoint) c.bounds
        (c.solidContains tolerance)
      rw [Outcome.ok_bind, AffineMap.applyPoints_eq]
      apply congrArg Except.ok (hfold.trans List.map_map)

/-- There is a test unless the cylinder has some width and a placement without an inverse. -/
theorem exists_test (h : c.isFlat = true ∨ Scalar.epsilon < |c.placement.determinant|) :
  ∃ inside, c.test tolerance = .ok inside
  := by
  rw [test]
  rcases h with h | h
  · rw [if_pos h]
    exact ⟨_, rfl⟩
  · have hinverse := AffineMap.inverse_eq_ok_iff.mpr ⟨(AffineMap.isInvertible_iff _).mpr h, rfl⟩
    rw [hinverse]
    split
    · exact ⟨_, rfl⟩
    · exact ⟨_, rfl⟩

theorem exists_test_eq_error (hflat : c.isFlat = false)
    (h : |c.placement.determinant| ≤ Scalar.epsilon) :
  ∃ f, c.test tolerance = .error f
  := by
  have hnot : c.placement.isInvertible = false := by
    rw [← Bool.not_eq_true, AffineMap.isInvertible_iff]
    apply not_lt.mpr h
  rw [test, hflat, AffineMap.inverse, AffineMap.inverseLinear, hnot]
  exact ⟨_, rfl⟩

/-- What is said of many points is said of each of them.  A cylinder has a mask for the points unless
it has some width and a placement without an inverse, and the entries of the mask tell which points
it contains; without a mask, it fails alike on each point.  A point that is handed over by itself is
the only row of its table.  The masks of half-spaces and the images under a map are those of the
points.  Points in a list that is no table yet have to be there, for the list to tell that they have
three coordinates. -/
theorem mask_pointwise (tolerance : ℝ) (ps : List (Point ℝ)) :
  (∀ c : Cylinder ℝ,
    (c.isFlat = true ∨ Scalar.epsilon < |c.placement.determinant| →
      ∃ bs, c.mask tolerance ps = .ok bs ∧
        List.Forall₂ (fun p b => c.contains tolerance p = .ok b) ps bs) ∧
    (c.isFlat = false → |c.placement.determinant| ≤ Scalar.epsilon →
      ∃ f, c.mask tolerance ps = .error f ∧ ∀ p, c.contains tolerance p = .error f) ∧
    (∀ name s, (assemble name s).outcome = .ok c →
      Scalar.epsilon < |c.placement.determinant|) ∧
    ∀ p, (Table.ofPoint p).points >>= c.mask tolerance
      = (c.contains tolerance p).map fun b => [b]) ∧
  (∀ h : HalfSpace ℝ, h.mask tolerance ps = ps.map (h.keeps tolerance) ∧
    (ps ≠ [] → h.maskOfList tolerance ps = .ok (ps.map (h.keeps tolerance)))) ∧
  (∀ t : AffineMap ℝ, t.applyPoints ps = ps.map t.applyPoint) ∧
  (ps ≠ [] → (Table.ofPoints ps).points = .ok ps)
  := by
  refine ⟨fun c => ⟨?_, ?_, ?_, ?_⟩, fun h => ⟨h.mask_eq tolerance ps, ?_⟩,
    fun t => t.applyPoints_eq ps, Table.points_ofPoints⟩
  · intro hc
    obtain ⟨inside, hinside⟩ := c.exists_test tolerance hc
    refine ⟨ps.map inside, ?_, ?_⟩
    · rw [mask_eq_test, hinside]
      rfl
    · rw [List.forall₂_map_right_iff, List.forall₂_same]
      intro p hp
      rw [contains_eq_test, hinside]
      rfl
  · intro hflat hdet
    obtain ⟨f, hf⟩ := c.exists_test_eq_error tolerance hflat hdet
    refine ⟨f, ?_, ?_⟩
    · rw [mask_eq_test, hf]
      rfl
    · intro p
      rw [contains_eq_test, hf]
      rfl
  · intro name s hc
    apply (AffineMap.isInvertible_iff _).mp (placement_isInvertible hc)
  · intro p
    rw [Table.points_ofPoint, Outcome.ok_bind, mask_eq_test, contains_eq_test]
    cases c.test tolerance with
    | error f => rfl
    | ok inside => rfl
  · intro hps
    rw [HalfSpace.maskOfList, List.isEmpty_eq_false_iff.mpr hps, h.mask_eq]
    rfl

/-- The centre of an assembled cylinder is the origin of its own coordinates. -/
theorem inv_applyPoint_origin {name : String} {s : CylinderSpec ℝ} {c : Cylinder ℝ}
    (h : (assemble name s).outcome = .ok c) :
  c.placement.inv.applyPoint s.origin = Point.zero
  := by
  have hshift := (CylinderSpec.placement_eq_ok_iff.mp (placement_assemble h)).2.1
  apply Point.toVec_injective
  rw [AffineMap.toVec_inv_applyPoint, hshift, Matrix3.apply_sub]
  ext
  · apply sub_self
  · apply sub_self
  · apply sub_self

/-- A cylinder that is squeezed flat by its placement. -/
noncomputable def squeezed : Cylinder ℝ :=
  ⟨"Cyl", { CylinderSpec.initial with dx := 1, dy := 1 }, ⟨Matrix3.diagonal ⟨1, 1, 0⟩, 0⟩, []⟩

/-- Of two points in a list, the leaning cylinder contains the first one, and the second one is on
the side of its plane that is not kept; the squeezed cylinder fails on both. -/
theorem mask_pointwise_of_leaning :
  (∃ c, (assemble "Cyl" (leaning 4)).outcome = .ok c ∧
      c.mask 0 [⟨0, 0, 0⟩, ⟨0, 2, 0⟩] = .ok [true, false]) ∧
    (∃ f, squeezed.mask 0 [⟨0, 0, 0⟩, ⟨0, 2, 0⟩] = .error f) ∧
    (HalfSpace.mk (⟨⟨0, 0, 0⟩, ⟨0, 1, 0⟩⟩ : Plane ℝ)).maskOfList 0 [⟨0, 0, 0⟩, ⟨0, 2, 0⟩]
      = .ok [true, false]
  := by
  obtain ⟨hmask, hhalf, -⟩ := mask_pointwise 0 [⟨0, 0, 0⟩, ⟨0, 2, 0⟩]
  refine ⟨?_, ?_, ?_⟩
  · obtain ⟨c, hc⟩ := exists_assemble_leaning (k := 4) (n := 5) (by norm_num) (by norm_num)
      (by norm_num)
    obtain ⟨hok, -, hdet, -⟩ := hmask c
    obtain ⟨bs, hbs, hentries⟩ := hok (.inr (hdet _ _ hc))
    have hfirst : c.contains 0 ⟨0, 0, 0⟩ = .ok true := by
      have horigin : c.placement.inv.applyPoint ⟨0, 0, 0⟩ = ⟨0, 0, 0⟩ := inv_applyPoint_origin hc
      rw [contains_eq_true_iff hc, InSolid, isFlat, solidContains, spec_assemble hc, horigin]
      norm_num [leaning, Plane.signedDistance, Point.minus, Vec3.dot_eq]
    have hsecond : c.contains 0 ⟨0, 2, 0⟩ = .ok false := by
      obtain ⟨b, hb, hiff⟩ := contains_assemble hc 0 ⟨0, 2, 0⟩
      cases b with
      | false => apply hb
      | true =>
        have hplane := (hiff.mp rfl).2 ⟨⟨0, 0, 0⟩, ⟨0, 1, 0⟩⟩ (List.mem_singleton.mpr rfl)
        norm_num [Plane.signedDistance, Point.minus, Vec3.dot_eq] at hplane
    simp only [List.forall₂_cons_left_iff, List.forall₂_nil_left_iff, hfirst, hsecond] at hentries
    grind
  · obtain ⟨-, herror, -, -⟩ := hmask squeezed
    have hdet : |squeezed.placement.determinant| ≤ Scalar.epsilon := by
      have hzero : squeezed.placement.determinant = 0 := by
        rw [AffineMap.determinant, Matrix3.det_eq, Matrix3.det_toMatrix]
        norm_num [squeezed, Matrix3.diagonal, Matrix3.transpose, Matrix3.ofColumns, Vec3.cross_eq,
          Vec3.dot_eq]
      rw [hzero, abs_zero]
      apply Scalar.epsilon_pos.le
    obtain ⟨f, hf, -⟩ := herror (by norm_num [isFlat, squeezed]) hdet
    use f, hf
  · rw [(hhalf _).2 (List.cons_ne_nil _ _)]
    norm_num [HalfSpace.keeps, Plane.signedDistance, Point.minus, Vec3.dot_eq]

end Cylinder

end ClippedCylinder
