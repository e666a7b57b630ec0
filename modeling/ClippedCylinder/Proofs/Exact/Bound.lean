import ClippedCylinder.Proofs.Exact.AffineMap
import ClippedCylinder.Proofs.Expression.Evaluation

/-!
# Bounds over the real numbers

A written bound stands for a plane exactly if its numbers have values and its normal is long
enough.  The plane is perpendicular to the normal and lies at the offset of the bound.
-/

namespace ClippedCylinder

theorem Numeral.value_digit (d : Digit) :
  (value ⟨.whole d [], none⟩ : ℝ) = d.val
  := by
  simp [value, Scalar.ofDecimal, coefficient, scale, Mantissa.digits, Mantissa.places, digitsValue]

theorem evalTriple_digits (x y z : Digit) :
  Expr.evalTriple ⟨.numeral ⟨.whole x [], none⟩, .numeral ⟨.whole y [], none⟩,
      .numeral ⟨.whole z [], none⟩⟩
    = .ok (⟨x.val, y.val, z.val⟩ : Vec3 ℝ)
  := by
  simp only [← Numeral.value_digit]
  rfl

theorem boundary_eq_ok_iff {source : String} {normal : Vec3 ℝ} {offset : ℝ} {plane : Plane ℝ} :
  boundary source normal offset = .ok plane ↔
    Scalar.epsilon < normal.norm ∧
      ⟨Point.zero.move ((normal.dividedBy normal.norm).scale offset),
        normal.dividedBy normal.norm⟩ = plane
  := by
  rw [boundary, Vec3.isZero_eq, Outcome.ok_bind]
  by_cases h : Scalar.epsilon < normal.norm
  · rw [if_neg (by simpa using h), Vec3.normalize_of_lt h, Outcome.ok_bind,
      Plane.through_eq_ok_iff, Vec3.norm_direction (Scalar.epsilon_pos.trans h)]
    simp [h, Scalar.epsilon_lt_one]
  · rw [if_pos (by simpa using h)]
    simp [h]

theorem evaluatePlane_eq_ok_iff {text : String} {plane : Plane ℝ} :
  (evaluatePlane text).outcome = .ok plane ↔
    (Text.trim text).isEmpty = false ∧ ∃ p normal comparator value,
      (Token.scanPlane (Text.trim text).toList).bind PlaneExpr.ofTokens? = some p ∧
      p.eval = .ok (normal, comparator, value) ∧ Scalar.epsilon < normal.norm ∧
      ⟨Point.zero.move ((normal.dividedBy normal.norm).scale (comparator.offset value)),
        normal.dividedBy normal.norm⟩ = plane
  := by
  rw [outcome_evaluatePlane, Outcome.bind_eq_ok_iff]
  simp only [evaluateAs_eq_ok_iff, Scalar.isFinite_eq, Vec3.toList, List.all_cons, List.all_nil,
    Bool.and_self, if_true, boundary_eq_ok_iff]
  constructor
  · rintro ⟨⟨normal, comparator, value⟩, ⟨hne, p, hp, heval⟩, hplane⟩
    exact ⟨hne, p, normal, comparator, value, hp, heval, hplane⟩
  · rintro ⟨hne, p, normal, comparator, value, hp, heval, hplane⟩
    exact ⟨(normal, comparator, value), ⟨hne, p, hp, heval⟩, hplane⟩

end ClippedCylinder
