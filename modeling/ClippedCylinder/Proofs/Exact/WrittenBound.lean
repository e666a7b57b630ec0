import ClippedCylinder.Proofs.Exact.Bound
import ClippedCylinder.Proofs.Expression.Writing

/-!
# Written bounds over the real numbers

What a text says about a half-space is the derivation of its tokens: a normal, a comparator and a
value (`WritesBound`).  The plane that the text evaluates to has the direction of the normal, and
keeps the points whose component along this direction is at most the value or, for the comparators
above, at most its opposite (`evaluatePlane_keeps`).  So neither the length of the normal nor
strictness matters, and a bound from above by an opposite is the bound from below.
-/

namespace ClippedCylinder

/-! ### Sides -/

/-- The numbers that a bound keeps.  The normal points away from what is kept for all comparators,
so those above bound by the opposite of the value. -/
def Comparator.Keeps (c : Comparator) (value x : ℝ) : Prop :=
  match c with
  | .lt | .le => x ≤ value
  | .gt | .ge => x ≤ -value

theorem Comparator.keeps_iff (c : Comparator) (value x : ℝ) :
  c.Keeps value x ↔ x ≤ c.offset value
  := by
  cases c <;> rfl

theorem Point.zero_move (v : Vec3 ℝ) :
  Point.zero.move v = Point.ofVec v
  := by
  simp only [zero, move, ofVec, zero_add]

namespace Plane

/-- The plane of a bound. -/
noncomputable def ofBound (normal : Vec3 ℝ) (c : Comparator) (value : ℝ) : Plane ℝ :=
  let unit := normal.dividedBy normal.norm
  ⟨Point.ofVec (unit.scale (c.offset value)), unit⟩

variable {normal : Vec3 ℝ} {c c' : Comparator} {value : ℝ}

/-- The plane keeps the points whose component along the normal is kept by the bound. -/
theorem signedDistance_ofBound_nonpos_iff (h : 0 < normal.norm) (p : Point ℝ) :
  (ofBound normal c value).signedDistance p ≤ 0
    ↔ c.Keeps value ((normal.dividedBy normal.norm).dot p.toVec)
  := by
  have hunit := (Vec3.norm_eq_one_iff _).mp (Vec3.norm_direction h)
  have hdistance : (ofBound normal c value).signedDistance p
      = (normal.dividedBy normal.norm).dot p.toVec
        - c.offset value * (normal.dividedBy normal.norm).dot (normal.dividedBy normal.norm) := by
    simp only [signedDistance, ofBound, Point.minus, Point.ofVec, Point.toVec, Vec3.scale,
      Vec3.dot_eq]
    ring
  rw [hdistance, hunit, mul_one, sub_nonpos, c.keeps_iff]

/-- Neither the length of the normal nor strictness matters. -/
theorem ofBound_scale {k : ℝ} (hk : 0 < k) (hc : c.isAbove = c'.isAbove) :
  ofBound (normal.scale k) c' value = ofBound normal c value
  := by
  simp only [ofBound, Vec3.direction_scale normal hk, Comparator.offset, hc]

/-- A bound from above by the opposite of a value is the bound from below by the value. -/
theorem ofBound_neg (normal : Vec3 ℝ) (value : ℝ) :
  ofBound normal .lt (-value) = ofBound normal .gt value
  := rfl

end Plane

/-! ### Texts -/

/-- The text consists of the tokens of a bound, and the numbers in them have the values. -/
def WritesBound (text : String) (normal : Vec3 ℝ) (c : Comparator) (value : ℝ) : Prop :=
  ∃ d : Derivation .plane, Token.Layout d.tokens (Text.trim text).toList ∧
    d.tree.eval = .ok (normal, c, value)

variable {text : String} {normal : Vec3 ℝ} {c : Comparator} {value : ℝ}

theorem writesBound_of_layout {d : Derivation .plane} (hlayout : Token.Layout d.tokens text.toList)
    (heval : d.tree.eval = .ok (normal, c, value)) :
  WritesBound text normal c value
  := by
  refine ⟨d, ?_, heval⟩
  rw [Text.toList_trim]
  apply hlayout.trimChars

/-- A text writes a bound exactly if it is read as one. -/
theorem writesBound_iff :
  WritesBound text normal c value ↔
    (Text.trim text).isEmpty = false ∧ ∃ p,
      (Token.scanPlane (Text.trim text).toList).bind PlaneExpr.ofTokens? = some p ∧
      p.eval = .ok (normal, c, value)
  := by
  constructor
  · rintro ⟨d, hlayout, heval⟩
    have hread := Category.Reads.whole d
    have hempty := hread.isEmpty_trim hlayout
    have hparse := hread.scanPlane_bind_ofTokens? hlayout
    rw [Text.trim_trim] at hempty hparse
    exact ⟨hempty, d.tree, hparse, heval⟩
  · rintro ⟨-, p, hp, heval⟩
    obtain ⟨d, hlayout, rfl⟩ := exists_derivation_of_parse (c := .plane)
      PlaneExpr.ofTokens?_eq_some_iff Token.layout_of_scanPlane hp
    exact ⟨d, hlayout, heval⟩

/-- A text evaluates to a plane exactly if it writes a bound whose normal is long enough, and then
to the plane of the bound. -/
theorem evaluatePlane_eq_ok_iff_writesBound {plane : Plane ℝ} :
  (evaluatePlane text).outcome = .ok plane ↔
    ∃ normal c value, WritesBound text normal c value ∧ Scalar.epsilon < normal.norm ∧
      Plane.ofBound normal c value = plane
  := by
  simp only [evaluatePlane_eq_ok_iff, writesBound_iff, Plane.ofBound, Point.zero_move]
  constructor
  · rintro ⟨hempty, p, normal, c, value, hp, heval, hplane⟩
    exact ⟨normal, c, value, ⟨hempty, p, hp, heval⟩, hplane⟩
  · rintro ⟨normal, c, value, ⟨hempty, p, hp, heval⟩, hplane⟩
    exact ⟨hempty, p, normal, c, value, hp, heval, hplane⟩

/-- What a text writes is determined by the text. -/
theorem WritesBound.unique {normal' : Vec3 ℝ} {c' : Comparator} {value' : ℝ}
    (h : WritesBound text normal c value) (h' : WritesBound text normal' c' value') :
  normal = normal' ∧ c = c' ∧ value = value'
  := by
  obtain ⟨-, p, hp, heval⟩ := writesBound_iff.mp h
  obtain ⟨-, p', hp', heval'⟩ := writesBound_iff.mp h'
  obtain rfl := Option.some.inj (hp.symm.trans hp')
  simpa using heval.symm.trans heval'

theorem WritesBound.evaluatePlane (h : WritesBound text normal c value)
    (hnormal : Scalar.epsilon < normal.norm) :
  (evaluatePlane text).outcome = .ok (Plane.ofBound normal c value)
  := evaluatePlane_eq_ok_iff_writesBound.mpr ⟨normal, c, value, h, hnormal, rfl⟩

/-! ### Texts of parts -/

/-- A text of the keyword, a vector, a comparator and a value, with blanks between them, writes
their bound. -/
theorem writesBound_of_parts {m : String} {e : Derivation .sum} {es : List Char}
    (hm : Text.trim m = m) (hnormal : evaluateVector m = .ok normal)
    (he : Token.Layout e.tokens es) (hvalue : e.tree.eval = .ok value)
    (htext : text.toList = 'r' :: ' ' :: (m.toList ++ ' ' :: (c.chars ++ ' ' :: es))) :
  WritesBound text normal c value
  := by
  obtain ⟨v, hv, hveval⟩ := exists_derivation_of_evaluateVector hm hnormal
  apply writesBound_of_layout (d := .plane v c e)
  · have hbound := (he.gap_cons (c := ' ') rfl).token_append (t := .comparator c) trivial
    have hrest := hv.append (hbound.gap_cons (c := ' ') rfl)
    rw [htext]
    apply (hrest.gap_cons (c := ' ') rfl).token_append (t := .radial) trivial
  · change PlaneExpr.eval ⟨v.tree, c, e.tree⟩ = _
    rw [PlaneExpr.eval, hveval, Outcome.ok_bind, hvalue, Outcome.ok_bind]
    rfl

/-- The opposite of a sum in parentheses. -/
def Derivation.negParens (e : Derivation .sum) : Derivation .sum :=
  .product (.unary (.neg (.power (.atom (.parens e)))))

theorem Derivation.layout_negParens {e : Derivation .sum} {es : List Char}
    (h : Token.Layout e.tokens es) :
  Token.Layout e.negParens.tokens ('-' :: '(' :: (es ++ [')']))
  := by
  have hnil : Token.Layout [] [] := .nil nofun
  have hclose := h.append (hnil.token_append (t := .rightParen) trivial)
  have hopen := hclose.token_append (t := .leftParen) trivial
  apply hopen.token_append (t := .minus) trivial

theorem Derivation.eval_negParens {e : Derivation .sum} (h : e.tree.eval = .ok value) :
  e.negParens.tree.eval = .ok (-value)
  := by
  change Expr.eval (.neg e.tree) = _
  rw [Expr.eval, h]
  rfl

section

variable {m s : String} (hm : Text.trim m = m) (hs : Text.trim s = s)
  (hnormal : evaluateVector m = .ok normal) (hvalue : evaluateScalar s = .ok value)

include hm hs hnormal hvalue

/-- The text of a bound from below. -/
theorem writesBound_gt :
  WritesBound ("r " ++ m ++ " > " ++ s) normal .gt value
  := by
  obtain ⟨e, he, heval⟩ := exists_derivation_of_evaluateScalar hs hvalue
  apply writesBound_of_parts hm hnormal he heval
  simp only [String.toList_append, List.append_assoc]
  rfl

/-- The text of the bound from above by the opposite. -/
theorem writesBound_lt_neg :
  WritesBound ("r " ++ m ++ " < -(" ++ s ++ ")") normal .lt (-value)
  := by
  obtain ⟨e, he, heval⟩ := exists_derivation_of_evaluateScalar hs hvalue
  apply writesBound_of_parts hm hnormal (e.layout_negParens he) (e.eval_negParens heval)
  simp only [String.toList_append, List.append_assoc]
  rfl

end

/-! ### Kept sides -/

/-- A plane that a text evaluates to has the direction of the written normal, its anchor is a
multiple of the direction, and it keeps the points whose component along the direction is kept by
the bound.  Two texts give one plane if their normals have one direction and they bound by one value
from the same side, whether strictly or not.  A bound from below can be written as the bound from
above by the opposite. -/
theorem evaluatePlane_keeps :
  (∀ (text : String) (plane : Plane ℝ), (evaluatePlane text).outcome = .ok plane →
      (∃ normal c value, WritesBound text normal c value) ∧
      ∀ normal c value, WritesBound text normal c value →
        plane.normal = normal.dividedBy normal.norm ∧ plane.normal.norm = 1 ∧
        (∃ k, plane.anchor = Point.ofVec (plane.normal.scale k)) ∧
        ∀ p, plane.signedDistance p ≤ 0
          ↔ c.Keeps value ((normal.dividedBy normal.norm).dot p.toVec)) ∧
    (∀ (text text' : String) (normal : Vec3 ℝ) (k : ℝ) (c c' : Comparator) (value : ℝ), 0 < k →
      Scalar.epsilon < normal.norm → Scalar.epsilon < (normal.scale k).norm →
      WritesBound text normal c value → WritesBound text' (normal.scale k) c' value →
      c.isAbove = c'.isAbove →
      ∃ plane : Plane ℝ, (evaluatePlane text).outcome = .ok plane ∧
        (evaluatePlane text').outcome = .ok plane) ∧
    ∀ (m s : String) (normal : Vec3 ℝ) (value : ℝ), Text.trim m = m → Text.trim s = s →
      evaluateVector m = .ok normal → evaluateScalar s = .ok value →
      Scalar.epsilon < normal.norm →
      ∃ plane : Plane ℝ, (evaluatePlane ("r " ++ m ++ " > " ++ s)).outcome = .ok plane ∧
        (evaluatePlane ("r " ++ m ++ " < -(" ++ s ++ ")")).outcome = .ok plane
  := by
  refine ⟨?_, ?_, ?_⟩
  · intro text plane h
    obtain ⟨normal, c, value, hwrites, hnormal, rfl⟩ := evaluatePlane_eq_ok_iff_writesBound.mp h
    have hpos := Scalar.epsilon_pos.trans hnormal
    refine ⟨⟨normal, c, value, hwrites⟩, ?_⟩
    intro normal' c' value' hwrites'
    obtain ⟨rfl, rfl, rfl⟩ := hwrites.unique hwrites'
    exact ⟨rfl, Vec3.norm_direction hpos, ⟨_, rfl⟩, Plane.signedDistance_ofBound_nonpos_iff hpos⟩
  · intro text text' normal k c c' value hk hnormal hscaled hwrites hwrites' hc
    have hplane := hwrites'.evaluatePlane hscaled
    rw [Plane.ofBound_scale hk hc] at hplane
    exact ⟨_, hwrites.evaluatePlane hnormal, hplane⟩
  · intro m s normal value hm hs hvector hscalar hnormal
    have hbelow := (writesBound_lt_neg hm hs hvector hscalar).evaluatePlane hnormal
    rw [Plane.ofBound_neg] at hbelow
    exact ⟨_, (writesBound_gt hm hs hvector hscalar).evaluatePlane hnormal, hbelow⟩

/-- Three texts of the plane that is perpendicular to `(3, 0, 4)` and at the distance two from the
origin of space. -/
theorem evaluatePlane_keeps_of_leaning :
  ∃ plane : Plane ℝ, (evaluatePlane "r (3,0,4) > 2").outcome = .ok plane ∧
    (evaluatePlane "r (3,0,4) < -(2)").outcome = .ok plane ∧
    (evaluatePlane "r (6,0,8) >= 2").outcome = .ok plane ∧
    plane.normal = ⟨3 / 5, 0, 4 / 5⟩ ∧
    ∀ p, plane.signedDistance p ≤ 0 ↔ 3 / 5 * p.x + 4 / 5 * p.z ≤ -2
  := by
  have hm : Text.trim "(3,0,4)" = "(3,0,4)" := by cbv
  have hs : Text.trim "2" = "2" := by cbv
  have hvector : evaluateVector "(3,0,4)" = .ok (⟨3, 0, 4⟩ : Vec3 ℝ) :=
    evaluateVector_eq_ok_iff.mpr ⟨by decide, _, by cbv, by simpa using evalTriple_digits 3 0 4, rfl⟩
  have hscalar : evaluateScalar "2" = .ok (2 : ℝ) :=
    evaluateScalar_eq_ok_iff.mpr ⟨by decide, .numeral ⟨.whole 2 [], none⟩, by cbv,
      congrArg Except.ok (Numeral.value_digit 2), rfl⟩
  have hlong : Scalar.epsilon < (⟨3, 0, 4⟩ : Vec3 ℝ).norm := by
    linarith [Scalar.epsilon_lt_half, Vec3.norm_three_zero_four]
  obtain ⟨hkeeps, hscale, hopposite⟩ := evaluatePlane_keeps
  -- The two bounds by the same parts.
  obtain ⟨plane, hgt, hlt⟩ := hopposite "(3,0,4)" "2" _ _ hm hs hvector hscalar hlong
  have hwrites := writesBound_gt hm hs hvector hscalar
  have htext : "r " ++ "(3,0,4)" ++ " > " ++ "2" = "r (3,0,4) > 2" := by cbv
  have htext' : "r " ++ "(3,0,4)" ++ " < -(" ++ "2" ++ ")" = "r (3,0,4) < -(2)" := by cbv
  rw [htext] at hgt hwrites
  rw [htext'] at hlt
  -- The bound with the normal twice as long.
  have hwrites' : WritesBound "r (6,0,8) >= 2" ((⟨3, 0, 4⟩ : Vec3 ℝ).scale 2) .ge 2 := by
    obtain ⟨e, he, heval⟩ := exists_derivation_of_evaluateScalar hs hscalar
    have hvector' : evaluateVector "(6,0,8)" = .ok (⟨6, 0, 8⟩ : Vec3 ℝ) :=
      evaluateVector_eq_ok_iff.mpr
        ⟨by decide, _, by cbv, by simpa using evalTriple_digits 6 0 8, rfl⟩
    have hdouble : (⟨3, 0, 4⟩ : Vec3 ℝ).scale 2 = ⟨6, 0, 8⟩ := by norm_num [Vec3.scale]
    rw [hdouble]
    apply writesBound_of_parts (by cbv) hvector' he heval (by cbv)
  have hlong' : Scalar.epsilon < ((⟨3, 0, 4⟩ : Vec3 ℝ).scale 2).norm := by
    rw [Vec3.lt_norm_iff Scalar.epsilon_pos.le, Scalar.epsilon_eq]
    norm_num [Vec3.scale, Vec3.dot_eq]
  obtain ⟨plane', hgt', hge⟩ := hscale _ _ _ 2 _ _ _ two_pos hlong hlong' hwrites hwrites' rfl
  obtain rfl : plane' = plane := Except.ok.inj (hgt'.symm.trans hgt)
  obtain ⟨hnormal, -, -, hside⟩ := (hkeeps _ _ hgt').2 _ _ _ hwrites
  refine ⟨plane', hgt', hlt, hge, ?_, ?_⟩
  · rw [hnormal, Vec3.norm_three_zero_four, Vec3.dividedBy_eq, zero_div]
  · intro p
    rw [hside, Comparator.Keeps, Vec3.norm_three_zero_four, Vec3.dividedBy_eq, Vec3.dot_eq,
      zero_div, zero_mul, add_zero]
    rfl

end ClippedCylinder
