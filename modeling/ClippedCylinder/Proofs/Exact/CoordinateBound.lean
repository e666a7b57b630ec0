import ClippedCylinder.Proofs.Cylinder.Rejection
import ClippedCylinder.Proofs.Exact.Bound
import ClippedCylinder.Proofs.Expression.Writing
import ClippedCylinder.Scalar.Double

/-!
# Bounds on coordinates

A bound on a coordinate is written as the text of a half-space, with the value as it stands behind
a normal and the comparator.  The tokens of the value are read back behind them
(`parse_boundClause`), since a blank separates the value from the comparator and a vector ends with
its parenthesis.  So the half-space has a plane exactly if the value is a scalar, as long as the
written normals are unit vectors (`HasCoordinateNormals`).  The real numbers and the doubles have
such normals, and over the real numbers the half-space consists of the points whose coordinate is on
the side of the value that the comparator asks for (`boundPlane_iff_evaluateScalar`).
-/

namespace ClippedCylinder

/-! ### Reading -/

/-- A digit as a sum, with a minus sign before it if asked for. -/
def Derivation.digit (isNegative : Bool) (d : Digit) : Derivation .sum :=
  let p : Derivation .power := .atom (.number ⟨.whole d [], none⟩)
  .product (.unary (if isNegative then .neg (.power p) else .power p))

/-- The normal that is written in a bound on a coordinate. -/
def boundNormal (c : Coordinate) (isAbove : Bool) : Derivation .vector :=
  let entry (k : Coordinate) : Derivation .sum :=
    if k = c then .digit isAbove 1 else .digit false 0
  .vector (entry .x) (entry .y) (entry .z)

section

variable {c : Coordinate} {comparator : Comparator} {value : String}

/-- The text of a bound consists of the keyword, the tokens of the normal and the comparator, a
blank and the value. -/
theorem exists_boundClause_eq (c : Coordinate) (comparator : Comparator) (value : String) :
  ∃ head, (boundClause c comparator.text value).toList = 'r' :: (head ++ ' ' :: value.toList) ∧
    Token.scan head = some ((boundNormal c comparator.isAbove).tokens ++ [.comparator comparator]) ∧
    ∃ d ∈ ('r' :: head).getLast?, Text.isBlank d = false
  := by
  refine ⟨(boundClause c comparator.text "").toList.tail.dropLast, ?_, ?_, ?_⟩
  · simp only [boundClause, String.toList_append]
    cases c <;> cases comparator <;> rfl
  · cases c <;> cases comparator <;> cbv
  · cases c <;> cases comparator <;> exact ⟨_, rfl, rfl⟩

/-- A blank before a trimmed value stays, unless the value is empty. -/
theorem scan_trimRight_cons (h : Text.trim value = value) :
  (∀ c ∈ (Text.trimRight (' ' :: value.toList)).head?, Token.isGap c = true) ∧
    Token.scan (Text.trimRight (' ' :: value.toList)) = Token.scan value.toList
  := by
  have hlast := Text.isBlank_getLast_trimChars value.toList
  rw [Text.trimChars_toList h] at hlast
  cases hvalue : value.toList with
  | nil => exact ⟨nofun, rfl⟩
  | cons c cs =>
    rw [hvalue, ← List.getLast?_cons_cons] at hlast
    rw [Text.trimRight_of_getLast hlast]
    constructor
    · rintro _ ⟨⟩
      rfl
    · rw [Token.scan]
      apply if_pos rfl

/-- The tokens of a trimmed value are read back in the text of a bound. -/
theorem scanPlane_boundClause (h : Text.trim value = value) :
  Token.scanPlane (Text.trim (boundClause c comparator.text value)).toList
    = (Token.scan value.toList).map fun ts =>
        .radial :: ((boundNormal c comparator.isAbove).tokens ++ .comparator comparator :: ts)
  := by
  obtain ⟨head, htext, hhead, hlast⟩ := exists_boundClause_eq c comparator value
  obtain ⟨hgap, hvalue⟩ := scan_trimRight_cons h
  have htrim : Text.trimChars ('r' :: (head ++ ' ' :: value.toList))
      = 'r' :: (head ++ Text.trimRight (' ' :: value.toList)) := by
    rw [Text.trimChars, Text.trimLeft_of_head]
    · apply Text.trimRight_append hlast
    · rintro _ ⟨⟩
      rfl
  have hnormal : Token.IsSeparable (boundNormal c comparator.isAbove).tokens :=
    (boundNormal c comparator.isAbove).isSeparable
  have hscan := (Token.layout_of_scan hhead).scan_append (hnormal.append_singleton rfl) hgap
  rw [Text.toList_trim, htext, htrim, Token.scanPlane, hscan, hvalue, Option.map_map]
  simp only [Function.comp_def, List.append_assoc, List.singleton_append]

/-- The text of a bound with a trimmed value is read as the written normal and the value. -/
theorem parse_boundClause (h : Text.trim value = value) :
  (Token.scanPlane (Text.trim (boundClause c comparator.text value)).toList).bind
      PlaneExpr.ofTokens?
    = ((Token.scan value.toList).bind Expr.ofTokens?).map fun e =>
        ⟨(boundNormal c comparator.isAbove).tree, comparator, e⟩
  := by
  have hnormal (ts : List Token) : Expr.takeTriple ((boundNormal c comparator.isAbove).tokens ++ ts)
      = some ((boundNormal c comparator.isAbove).tree, ts) :=
    (boundNormal c comparator.isAbove).isRead ts
  rw [scanPlane_boundClause h]
  cases Token.scan value.toList with
  | none => rfl
  | some ts => simp only [Option.map_some, Option.bind_some, PlaneExpr.ofTokens?, hnormal]

end

/-! ### Evaluating -/

section

variable {K : Type} [Scalar K]

/-- The value of the normal that is written in a bound on a coordinate. -/
def coordinateNormal (K : Type) [Scalar K] (c : Coordinate) (isAbove : Bool) : Vec3 K :=
  let one : K := Numeral.value ⟨.whole 1 [], none⟩
  let entry (k : Coordinate) : K :=
    if k = c then (if isAbove then -one else one) else Numeral.value ⟨.whole 0 [], none⟩
  ⟨entry .x, entry .y, entry .z⟩

/-- The plane of a bound on a coordinate by a number. -/
def coordinatePlane (c : Coordinate) (comparator : Comparator) (x : K) : Plane K :=
  let normal := coordinateNormal K c comparator.isAbove
  ⟨Point.zero.move (normal.scale (comparator.offset x)), normal⟩

/-- The normals that are written in bounds on coordinates are unit vectors: they are finite, and
they are not too short and their own directions. -/
structure HasCoordinateNormals (K : Type) [Scalar K] : Prop where
  isFinite : ∀ c isAbove, (coordinateNormal K c isAbove).toList.all Scalar.isFinite = true
  isZero : ∀ c isAbove, (coordinateNormal K c isAbove).isZero = .ok false
  normalize : ∀ c isAbove,
    (coordinateNormal K c isAbove).normalize = .ok (coordinateNormal K c isAbove)

theorem evalTriple_boundNormal (c : Coordinate) (isAbove : Bool) :
  (Expr.evalTriple (boundNormal c isAbove).tree : Except EvaluationFault (Vec3 K))
    = .ok (coordinateNormal K c isAbove)
  := by
  cases c <;> cases isAbove <;> rfl

theorem HasCoordinateNormals.boundary (h : HasCoordinateNormals K) (source : String)
    (c : Coordinate) (comparator : Comparator) (x : K) :
  boundary source (coordinateNormal K c comparator.isAbove) (comparator.offset x)
    = .ok (coordinatePlane c comparator x)
  := by
  simp only [ClippedCylinder.boundary, h.isZero, h.normalize, Plane.through, Outcome.ok_bind]
  rfl

variable {c : Coordinate} {comparator : Comparator} {value : String}

theorem eval_boundNormal_eq_ok_iff {e : Expr} {r : Vec3 K × Comparator × K} :
  PlaneExpr.eval ⟨(boundNormal c comparator.isAbove).tree, comparator, e⟩ = .ok r ↔
    ∃ x, e.eval = .ok x ∧ (coordinateNormal K c comparator.isAbove, comparator, x) = r
  := by
  rw [PlaneExpr.eval, evalTriple_boundNormal, Outcome.ok_bind, Outcome.bind_eq_ok_iff]
  simp only [pure, Except.pure, Except.ok.injEq]

/-- A trimmed value makes up a bound exactly if it is a scalar. -/
theorem evaluateAs_boundClause_eq_ok_iff (h : Text.trim value = value)
    {r : Vec3 K × Comparator × K} :
  (evaluateAs .plane Token.scanPlane PlaneExpr.ofTokens? PlaneExpr.eval
      (boundClause c comparator.text value) : Except (Fault K) _) = .ok r ↔
    ∃ x, evaluateAs .scalar Token.scan Expr.ofTokens? Expr.eval value = (.ok x : Except (Fault K) K)
      ∧ (coordinateNormal K c comparator.isAbove, comparator, x) = r
  := by
  simp only [evaluateAs_eq_ok_iff, parse_boundClause h, h, Option.map_eq_some_iff]
  constructor
  · rintro ⟨-, _, ⟨e, he, rfl⟩, heval⟩
    obtain ⟨x, hx, hr⟩ := eval_boundNormal_eq_ok_iff.mp heval
    obtain ⟨ts, hts, hparse⟩ := Option.bind_eq_some_iff.mp he
    have hempty := (Expr.ofTokens?_reads hparse).isEmpty_trim (Token.layout_of_scan hts)
    rw [h] at hempty
    exact ⟨x, ⟨hempty, e, he, hx⟩, hr⟩
  · rintro ⟨x, ⟨-, e, he, hx⟩, hr⟩
    have hempty : (Text.trim (boundClause c comparator.text value)).isEmpty = false := by
      obtain ⟨ts, hts, -⟩ := Option.bind_eq_some_iff.mp he
      have hscan : Token.scanPlane (Text.trim (boundClause c comparator.text value)).toList = _ :=
        scanPlane_boundClause h
      rw [← Bool.not_eq_true, String.isEmpty_iff]
      intro hempty
      rw [hempty, hts] at hscan
      cases hscan
    exact ⟨hempty, _, ⟨e, he, rfl⟩, eval_boundNormal_eq_ok_iff.mpr ⟨x, hx, hr⟩⟩

/-- A bound on a coordinate by a trimmed value has a plane exactly if the value is a scalar. -/
theorem outcome_boundPlane_eq_ok_iff (hK : HasCoordinateNormals K) (h : Text.trim value = value)
    {plane : Plane K} :
  (boundPlane c comparator.text value).outcome = .ok plane ↔
    ∃ x, evaluateScalar value = .ok x ∧ coordinatePlane c comparator x = plane
  := by
  rw [boundPlane, Traced.outcome_bind, Traced.outcome_note, Outcome.ok_bind, outcome_evaluatePlane,
    Outcome.bind_eq_ok_iff]
  simp only [evaluateAs_boundClause_eq_ok_iff h, evaluateScalar_eq, Outcome.bind_eq_ok_iff]
  constructor
  · rintro ⟨_, ⟨x, hx, rfl⟩, hplane⟩
    simp only [hK.isFinite, Bool.and_true, hK.boundary] at hplane
    split at hplane
    · rename_i hfinite
      exact ⟨x, ⟨x, hx, if_pos hfinite⟩, Except.ok.inj hplane⟩
    · cases hplane
  · rintro ⟨x, ⟨x', hx', hx⟩, rfl⟩
    split at hx
    · rename_i hfinite
      obtain rfl := Except.ok.inj hx
      refine ⟨_, ⟨x', hx', rfl⟩, ?_⟩
      simp only [hK.isFinite, Bool.and_true, hK.boundary, if_pos hfinite]
    · cases hx

/-- A bound on a coordinate that is refused has a value that is refused. -/
theorem isExpression_of_boundPlane (hK : HasCoordinateNormals K) (h : Text.trim value = value)
    {f : Fault K} (hf : (boundPlane c comparator.text value : Traced K (Plane K)).outcome = .error f) :
  f.IsExpression
  := by
  rw [boundPlane, Traced.outcome_bind, Traced.outcome_note, Outcome.ok_bind, outcome_evaluatePlane,
    Outcome.bind_eq_error_iff] at hf
  rcases hf with hf | ⟨r, hr, hf⟩
  · apply isExpression_of_evaluateAs hf
  · obtain ⟨x, -, rfl⟩ := (evaluateAs_boundClause_eq_ok_iff h).mp hr
    dsimp only at hf
    split at hf
    · rw [hK.boundary] at hf
      cases hf
    · obtain rfl := Except.error.inj hf
      constructor

end

/-! ### Unit vectors -/

/-- The half-space of the points whose coordinate is at least or at most a number. -/
noncomputable def coordinateHalfSpace (c : Coordinate) (isAbove : Bool) (x : ℝ) : HalfSpace ℝ :=
  ⟨⟨Point.ofVec ((Vec3.unit c).scale x), if isAbove then -Vec3.unit c else Vec3.unit c⟩⟩

theorem coordinateNormal_eq (c : Coordinate) (isAbove : Bool) :
  coordinateNormal ℝ c isAbove = if isAbove then -Vec3.unit c else Vec3.unit c
  := by
  cases c <;> cases isAbove <;> simp [coordinateNormal, Numeral.value_digit, Vec3.unit]

theorem norm_coordinateNormal (c : Coordinate) (isAbove : Bool) :
  (coordinateNormal ℝ c isAbove).norm = 1
  := by
  rw [coordinateNormal_eq, Vec3.norm_eq_one_iff, Vec3.dot_eq]
  cases c <;> cases isAbove <;> simp [Vec3.unit]

theorem hasCoordinateNormals_real :
  HasCoordinateNormals ℝ
  := by
  have hlong (c : Coordinate) (isAbove : Bool) :
      Scalar.epsilon < (coordinateNormal ℝ c isAbove).norm := by
    rw [norm_coordinateNormal]
    apply Scalar.epsilon_lt_one
  constructor
  · intro c isAbove
    rfl
  · intro c isAbove
    rw [Vec3.isZero_eq, decide_eq_false (not_le.mpr (hlong c isAbove))]
  · intro c isAbove
    rw [Vec3.normalize_of_lt (hlong c isAbove), norm_coordinateNormal, Vec3.dividedBy_one]

/-- The square of a double is its second power, unless it overflows. -/
theorem Vec3.squareOf_double {x : Float} (h : Scalar.isInfinite (x * x) = false) :
  squareOf x = .ok (Float.pow x 2.0)
  := by
  rw [squareOf, Scalar.square?, h, Bool.and_false, if_neg Bool.false_ne_true]
  rfl

/-- The normals that are written in bounds have length one among the doubles if the squares of zero,
one and minus one are exact. -/
theorem length_coordinateNormal_double (hzero : Float.pow 0.0 2.0 = 0.0)
    (hone : Float.pow 1.0 2.0 = 1.0) (hminus : Float.pow (-1.0) 2.0 = 1.0) (c : Coordinate)
    (isAbove : Bool) :
  (coordinateNormal Float c isAbove).length = .ok 1.0
  := by
  have hvalues : (Numeral.value ⟨.whole 0 [], none⟩ : Float) = 0.0 ∧
      (Numeral.value ⟨.whole 1 [], none⟩ : Float) = 1.0 := by
    decide +kernel
  have hx : Vec3.squareOf (0.0 : Float) = .ok 0.0 := by
    rw [Vec3.squareOf_double (by decide +kernel), hzero]
  have hy : Vec3.squareOf (1.0 : Float) = .ok 1.0 := by
    rw [Vec3.squareOf_double (by decide +kernel), hone]
  have hz : Vec3.squareOf (-1.0 : Float) = .ok 1.0 := by
    rw [Vec3.squareOf_double (by decide +kernel), hminus]
  cases c <;> cases isAbove <;>
    simp only [coordinateNormal, hvalues, Vec3.length, reduceCtorEq, if_true, if_false,
      Bool.false_eq_true, hx, hy, hz, Outcome.ok_bind] <;>
    decide +kernel

/-- The doubles have the normals of bounds if the squares of zero, one and minus one are exact. -/
theorem hasCoordinateNormals_double (hzero : Float.pow 0.0 2.0 = 0.0)
    (hone : Float.pow 1.0 2.0 = 1.0) (hminus : Float.pow (-1.0) 2.0 = 1.0) :
  HasCoordinateNormals Float
  := by
  have hlength := length_coordinateNormal_double hzero hone hminus
  have hlong : Scalar.le 1.0 (Scalar.epsilon : Float) = false := by decide +kernel
  constructor
  · intro c isAbove
    cases c <;> cases isAbove <;> decide +kernel
  · intro c isAbove
    rw [Vec3.isZero, hlength, Outcome.ok_bind, hlong]
    rfl
  · intro c isAbove
    rw [Vec3.normalize, hlength, Outcome.ok_bind, hlong, if_neg Bool.false_ne_true]
    cases c <;> cases isAbove <;> decide +kernel

theorem boundary_coordinateHalfSpace (c : Coordinate) (comparator : Comparator) (x : ℝ) :
  (coordinateHalfSpace c comparator.isAbove x).boundary = coordinatePlane c comparator x
  := by
  rw [coordinatePlane, coordinateNormal_eq]
  cases c <;> cases comparator <;>
    simp [coordinateHalfSpace, Comparator.isAbove, Comparator.offset, Vec3.unit, Vec3.scale,
      Point.ofVec, Point.zero, Point.move]

theorem coordinateHalfSpace_keeps_iff {c : Coordinate} {isAbove : Bool} {x : ℝ} {p : Point ℝ} :
  (coordinateHalfSpace c isAbove x).keeps 0 p = true ↔
    if isAbove then x ≤ p.toVec.get c else p.toVec.get c ≤ x
  := by
  cases c <;> cases isAbove <;>
    simp [coordinateHalfSpace, HalfSpace.keeps, Plane.signedDistance, Vec3.dot_eq, Vec3.unit,
      Vec3.scale, Point.ofVec, Point.minus, Point.toVec, Vec3.get]

/-- A bound on a coordinate by a trimmed value has a plane exactly if the value is a scalar, and else
it is refused as an expression, wherever the written normals are unit vectors, as they are among the
real numbers and the doubles.  Over the real numbers, the plane is the boundary of the half-space of
the points whose coordinate is at most or at least the value, and the two half-spaces of a value
cover space and meet where the coordinate is the value. -/
theorem boundPlane_iff_evaluateScalar (c : Coordinate) {value : String}
    (h : Text.trim value = value) :
  (∀ (K : Type) [Scalar K], HasCoordinateNormals K → ∀ comparator : Comparator,
      ((∃ plane, (boundPlane c comparator.text value : Traced K (Plane K)).outcome = .ok plane)
        ↔ ∃ x : K, evaluateScalar value = .ok x) ∧
      ∀ f, (boundPlane c comparator.text value : Traced K (Plane K)).outcome = .error f →
        f.IsExpression) ∧
    HasCoordinateNormals ℝ ∧
    (Float.pow 0.0 2.0 = 0.0 → Float.pow 1.0 2.0 = 1.0 → Float.pow (-1.0) 2.0 = 1.0 →
      HasCoordinateNormals Float) ∧
    ∀ x : ℝ, evaluateScalar value = .ok x →
      (∀ comparator : Comparator, (boundPlane c comparator.text value).outcome
        = .ok (coordinateHalfSpace c comparator.isAbove x).boundary) ∧
      ∀ p : Point ℝ,
        ((coordinateHalfSpace c false x).keeps 0 p = true ↔ p.toVec.get c ≤ x) ∧
        ((coordinateHalfSpace c true x).keeps 0 p = true ↔ x ≤ p.toVec.get c) ∧
        ((coordinateHalfSpace c false x).keeps 0 p = true ∨
          (coordinateHalfSpace c true x).keeps 0 p = true) ∧
        ((coordinateHalfSpace c false x).keeps 0 p = true ∧
          (coordinateHalfSpace c true x).keeps 0 p = true ↔ p.toVec.get c = x)
  := by
  refine ⟨?_, hasCoordinateNormals_real, hasCoordinateNormals_double, ?_⟩
  · intro K _ hK comparator
    constructor
    · simp only [outcome_boundPlane_eq_ok_iff hK h]
      constructor
      · rintro ⟨plane, x, hx, -⟩
        exact ⟨x, hx⟩
      · rintro ⟨x, hx⟩
        exact ⟨_, x, hx, rfl⟩
    · intro f hf
      apply isExpression_of_boundPlane hK h hf
  · intro x hx
    constructor
    · intro comparator
      rw [boundary_coordinateHalfSpace, outcome_boundPlane_eq_ok_iff hasCoordinateNormals_real h]
      exact ⟨x, hx, rfl⟩
    · intro p
      have hbelow : (coordinateHalfSpace c false x).keeps 0 p = true ↔ p.toVec.get c ≤ x :=
        coordinateHalfSpace_keeps_iff
      have habove : (coordinateHalfSpace c true x).keeps 0 p = true ↔ x ≤ p.toVec.get c :=
        coordinateHalfSpace_keeps_iff
      rw [hbelow, habove]
      exact ⟨Iff.rfl, Iff.rfl, le_total _ _, le_antisymm_iff.symm⟩

/-- The bound `z >= 1 + 2` keeps the points from three on. -/
theorem boundPlane_iff_evaluateScalar_of_sum :
  Text.trim "1 + 2" = "1 + 2" ∧ evaluateScalar "1 + 2" = .ok (3 : ℝ) ∧
    (boundPlane .z ">=" "1 + 2").outcome = .ok (coordinateHalfSpace .z true 3).boundary
  := by
  have htrim : Text.trim "1 + 2" = "1 + 2" := by cbv
  have hvalue : evaluateScalar "1 + 2" = .ok (3 : ℝ) := by
    apply evaluateScalar_eq_ok_iff.mpr
    refine ⟨by decide, .binary .add (.numeral ⟨.whole 1 [], none⟩) (.numeral ⟨.whole 2 [], none⟩),
      by cbv, ?_, rfl⟩
    have hsum : (Numeral.value ⟨.whole 1 [], none⟩ : ℝ) + Numeral.value ⟨.whole 2 [], none⟩ = 3 := by
      rw [Numeral.value_digit, Numeral.value_digit]
      norm_num
    exact congrArg Except.ok hsum
  obtain ⟨-, -, -, hplane⟩ := boundPlane_iff_evaluateScalar .z htrim
  exact ⟨htrim, hvalue, (hplane 3 hvalue).1 .ge⟩

end ClippedCylinder
