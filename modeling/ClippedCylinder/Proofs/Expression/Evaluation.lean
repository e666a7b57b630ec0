import ClippedCylinder.Expression.HalfSpace
import ClippedCylinder.Proofs.Outcome

/-!
# Evaluating texts

What the evaluation of a text comes to once the text is read: the value of the tree, if its
numbers are finite, and for a half-space the plane with the direction of the written normal.
-/

namespace ClippedCylinder

variable {K : Type} [Scalar K]

/-- The plane at an offset from the origin of space in the direction of a normal. -/
def boundary (source : String) (normal : Vec3 K) (offset : K) : Except (Fault K) (Plane K) := do
  if ← normal.isZero then .error (.expression (.zeroNormal source))
  else
    let unit ← normal.normalize
    Plane.through (Point.zero.move (unit.scale offset)) unit

/-- The failure says that a text has no value as an expression. -/
inductive Fault.IsExpression {K : Type} : Fault K → Prop where
  | intro (cause : ExpressionFault) : IsExpression (.expression cause)

omit [Scalar K] in
theorem Fault.IsExpression.isRejection {f : Fault K} (h : f.IsExpression) :
  f.isRejection = true
  := by
  cases h
  rfl

/-! ### Finite numbers -/

theorem requireFinite_eq (text : String) (x : K) :
  requireFinite text x =
    if Scalar.isFinite x = true then .ok () else .error (.expression (.notFinite text))
  := rfl

theorem forM_requireFinite (text : String) (xs : List K) :
  xs.forM (requireFinite text) =
    if xs.all Scalar.isFinite then .ok () else .error (.expression (.notFinite text))
  := by
  induction xs with
  | nil => rfl
  | cons x xs ih =>
    change (requireFinite text x >>= fun _ => xs.forM (requireFinite text)) = _
    rw [requireFinite_eq, ih, List.all_cons]
    cases Scalar.isFinite x
    · rfl
    · rfl

/-! ### Texts that are read -/

section

variable {α β : Type} {kind : ExpressionKind} {scan : List Char → Option (List Token)}
  {parse : List Token → Option α} {eval : α → Except EvaluationFault β} {text : String}

omit [Scalar K] in
theorem evaluateAs_of_parse {tree : α} (hne : (Text.trim text).isEmpty = false)
    (h : (scan (Text.trim text).toList).bind parse = some tree) :
  (evaluateAs kind scan parse eval text : Except (Fault K) β)
    = (eval tree).mapError fun cause => .expression (.failed kind (Text.trim text) cause)
  := by
  simp [evaluateAs, hne, h]

omit [Scalar K] in
/-- A text has a value only if it is read and its tree has the value. -/
theorem evaluateAs_eq_ok_iff {b : β} :
  (evaluateAs kind scan parse eval text : Except (Fault K) β) = .ok b ↔
    (Text.trim text).isEmpty = false ∧
      ∃ tree, (scan (Text.trim text).toList).bind parse = some tree ∧ eval tree = .ok b
  := by
  cases hne : (Text.trim text).isEmpty
  · cases htree : (scan (Text.trim text).toList).bind parse with
    | none => simp [evaluateAs, hne, htree]
    | some tree => simp [evaluateAs_of_parse hne htree, Outcome.mapError_eq_ok_iff]
  · simp [evaluateAs, hne]

omit [Scalar K] in
/-- Whatever text is refused: the failure says so. -/
theorem isExpression_of_evaluateAs {f : Fault K}
    (h : (evaluateAs kind scan parse eval text : Except (Fault K) β) = .error f) :
  f.IsExpression
  := by
  simp only [evaluateAs] at h
  split at h
  · obtain rfl := Except.error.inj h
    constructor
  split at h
  · obtain rfl := Except.error.inj h
    constructor
  · obtain ⟨cause, -, rfl⟩ := Outcome.mapError_eq_error_iff.mp h
    constructor

variable {isAllowed : β → Bool} {failure : Fault K}

omit [Scalar K] in
theorem evaluateAs_guarded_eq_ok_iff {b : β} :
  (evaluateAs kind scan parse eval text >>= fun b =>
      if isAllowed b then .ok b else .error failure) = .ok b ↔
    (Text.trim text).isEmpty = false ∧
      ∃ tree, (scan (Text.trim text).toList).bind parse = some tree ∧
        eval tree = .ok b ∧ isAllowed b = true
  := by
  rw [Outcome.bind_eq_ok_iff]
  constructor
  · rintro ⟨b', h, hb⟩
    split at hb
    · rename_i hallowed
      obtain rfl := Except.ok.inj hb
      obtain ⟨hne, tree, htree, heval⟩ := evaluateAs_eq_ok_iff.mp h
      exact ⟨hne, tree, htree, heval, hallowed⟩
    · cases hb
  · rintro ⟨hne, tree, htree, heval, hallowed⟩
    exact ⟨b, evaluateAs_eq_ok_iff.mpr ⟨hne, tree, htree, heval⟩, if_pos hallowed⟩

omit [Scalar K] in
theorem isExpression_of_evaluateAs_guarded (hfailure : failure.IsExpression) {f : Fault K}
    (h : (evaluateAs kind scan parse eval text >>= fun b =>
      if isAllowed b then .ok b else .error failure) = .error f) :
  f.IsExpression
  := by
  rcases Outcome.bind_eq_error_iff.mp h with h | ⟨b, -, h⟩
  · apply isExpression_of_evaluateAs h
  · split at h
    · cases h
    · obtain rfl := Except.error.inj h
      apply hfailure

end

/-! ### Numbers, vectors and planes -/

theorem evaluateScalar_eq (text : String) :
  (evaluateScalar text : Except (Fault K) K) =
    (evaluateAs .scalar Token.scan Expr.ofTokens? Expr.eval text >>= fun x =>
      if Scalar.isFinite x then .ok x else .error (.expression (.notFinite text)))
  := by
  unfold evaluateScalar
  congr 1
  funext x
  rw [requireFinite_eq]
  cases Scalar.isFinite x
  · rfl
  · rfl

theorem evaluateVector_eq (text : String) :
  (evaluateVector text : Except (Fault K) (Vec3 K)) =
    (evaluateAs .vector Token.scan Expr.tripleOfTokens? Expr.evalTriple text >>= fun v =>
      if v.toList.all Scalar.isFinite then .ok v else .error (.expression (.notFinite text)))
  := by
  unfold evaluateVector
  congr 1
  funext v
  rw [forM_requireFinite]
  cases v.toList.all Scalar.isFinite
  · rfl
  · rfl

theorem evaluateScalar_eq_ok_iff {text : String} {x : K} :
  evaluateScalar text = .ok x ↔
    (Text.trim text).isEmpty = false ∧
      ∃ e, (Token.scan (Text.trim text).toList).bind Expr.ofTokens? = some e ∧
        e.eval = .ok x ∧ Scalar.isFinite x = true
  := by
  rw [evaluateScalar_eq]
  apply evaluateAs_guarded_eq_ok_iff

theorem evaluateVector_eq_ok_iff {text : String} {v : Vec3 K} :
  evaluateVector text = .ok v ↔
    (Text.trim text).isEmpty = false ∧
      ∃ w, (Token.scan (Text.trim text).toList).bind Expr.tripleOfTokens? = some w ∧
        Expr.evalTriple w = .ok v ∧ v.toList.all Scalar.isFinite = true
  := by
  rw [evaluateVector_eq]
  apply evaluateAs_guarded_eq_ok_iff

theorem isExpression_of_evaluateScalar {text : String} {f : Fault K}
    (h : evaluateScalar text = .error f) :
  f.IsExpression
  := by
  rw [evaluateScalar_eq] at h
  apply isExpression_of_evaluateAs_guarded ⟨_⟩ h

theorem isExpression_of_evaluateVector {text : String} {f : Fault K}
    (h : evaluateVector text = .error f) :
  f.IsExpression
  := by
  rw [evaluateVector_eq] at h
  apply isExpression_of_evaluateAs_guarded ⟨_⟩ h

theorem outcome_evaluatePlane (text : String) :
  (evaluatePlane text : Traced K (Plane K)).outcome =
    (evaluateAs .plane Token.scanPlane PlaneExpr.ofTokens? PlaneExpr.eval text >>=
      fun (normal, comparator, value) =>
        if Scalar.isFinite value && normal.toList.all Scalar.isFinite then
          boundary (Text.trim text) normal (comparator.offset value)
        else .error (.expression (.notFinite text)))
  := by
  unfold evaluatePlane
  rw [Traced.outcome_bind, Traced.outcome_lift]
  congr 1
  funext ⟨normal, comparator, value⟩
  simp only [Traced.outcome_bind, Traced.outcome_lift, forM_requireFinite, requireFinite_eq]
  cases Scalar.isFinite value
  · rfl
  cases normal.toList.all Scalar.isFinite
  · rfl
  simp only [if_true, Outcome.ok_bind, Bool.and_self, boundary]
  congr 1
  funext isZero
  cases isZero
  · simp
  · rfl

end ClippedCylinder
