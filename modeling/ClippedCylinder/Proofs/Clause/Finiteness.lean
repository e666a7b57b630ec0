import Mathlib
import ClippedCylinder.Proofs.Clause.Interpretation
import ClippedCylinder.Scalar.Double

/-!
# Finite numbers

The numbers on the way to the value of an expression may be infinite, or no numbers at all, so
only the value itself is tested.  What is not in order with a text is always told by a failure of
its expression: it is not read, it has a part without a value (`Expr.IsPart.exists_eval_eq_ok`), or
its value is not finite.

Since clauses write values only, a description keeps to finite numbers, clause by clause
(`CylinderSpec.IsFinite.applyClause`) and over a whole section
(`CylinderSpec.IsFinite.foldlM_applyClause`).
-/

namespace ClippedCylinder

variable {K : Type} [Scalar K]

/-! ### Parts of expressions -/

namespace Expr

/-- The first expression stands somewhere in the second one, at any depth. -/
inductive IsPart (part : Expr) : Expr → Prop where
  | self : IsPart part part
  | neg {e : Expr} (h : IsPart part e) : IsPart part (.neg e)
  | left {op : Operator} {l r : Expr} (h : IsPart part l) : IsPart part (.binary op l r)
  | right {op : Operator} {l r : Expr} (h : IsPart part r) : IsPart part (.binary op l r)
  | argument {name : String} {first e : Expr} {rest : List Expr} (hmem : e ∈ first :: rest)
      (h : IsPart part e) : IsPart part (.call name first rest)

theorem evalAll_eq_mapM (es : List Expr) :
  (evalAll es : Except EvaluationFault (List K)) = es.mapM eval
  := by
  induction es with
  | nil => rfl
  | cons e es ih => rw [evalAll, List.mapM_cons, ih]

/-- An expression with a value has no part without one. -/
theorem IsPart.exists_eval_eq_ok {part e : Expr} (h : part.IsPart e) {x : K}
    (hx : e.eval = .ok x) :
  ∃ y : K, part.eval = .ok y
  := by
  induction h generalizing x with
  | self => use x
  | neg h ih =>
    rw [eval] at hx
    obtain ⟨y, hy, -⟩ := Outcome.bind_eq_ok_iff.mp hx
    apply ih hy
  | left h ih =>
    rw [eval] at hx
    obtain ⟨y, hy, -⟩ := Outcome.bind_eq_ok_iff.mp hx
    apply ih hy
  | right h ih =>
    rw [eval] at hx
    obtain ⟨_, -, hx⟩ := Outcome.bind_eq_ok_iff.mp hx
    obtain ⟨y, hy, -⟩ := Outcome.bind_eq_ok_iff.mp hx
    apply ih hy
  | argument hmem h ih =>
    rw [eval] at hx
    obtain ⟨y, hy, hx⟩ := Outcome.bind_eq_ok_iff.mp hx
    obtain ⟨ys, hys, -⟩ := Outcome.bind_eq_ok_iff.mp hx
    rcases List.mem_cons.mp hmem with rfl | hmem
    · apply ih hy
    · rw [evalAll_eq_mapM] at hys
      obtain ⟨z, hz⟩ := Outcome.exists_mapM_eq_ok_iff.mp ⟨ys, hys⟩ _ hmem
      apply ih hz

end Expr

/-! ### Values of texts -/

/-- The value of a triple is the triple of the values. -/
theorem Expr.evalTriple_eq_ok_iff {v : Vec3 Expr} {w : Vec3 K} :
  evalTriple v = .ok w ↔ ∀ c, (v.get c).eval = .ok (w.get c)
  := by
  simp only [evalTriple, Outcome.bind_eq_ok_iff]
  constructor
  · rintro ⟨x, hx, y, hy, z, hz, hw⟩
    obtain rfl := Except.ok.inj hw
    rintro (_ | _ | _)
    · apply hx
    · apply hy
    · apply hz
  · intro h
    exact ⟨w.x, h .x, w.y, h .y, w.z, h .z, rfl⟩

section

variable {α β : Type} {kind : ExpressionKind} {parse : List Token → Option α}
  {eval : α → Except EvaluationFault β} {text : String}

omit [Scalar K] in
/-- A tree without a value makes its text fail as an expression without a value. -/
theorem evaluateAs_of_eval_eq_error (hnil : parse [] = none) {tree : α} {cause : EvaluationFault}
    (h : (Token.scan (Text.trim text).toList).bind parse = some tree)
    (heval : eval tree = .error cause) :
  (evaluateAs kind Token.scan parse eval text : Except (Fault K) β)
    = .error (.expression (.failed kind (Text.trim text) cause))
  := by
  have hscan : Token.scan "".toList = some [] := by cbv
  have hne : (Text.trim text).isEmpty = false := by
    rw [← Bool.not_eq_true, String.isEmpty_iff]
    intro hempty
    rw [hempty, hscan, Option.bind_some, hnil] at h
    cases h
  rw [evaluateAs_of_parse hne h, heval]
  rfl

end

section

variable {text : String} {part : Expr} {cause : EvaluationFault}

/-- A part without a value makes a text fail as an expression without a value. -/
theorem evaluateScalar_of_isPart {e : Expr}
    (h : (Token.scan (Text.trim text).toList).bind Expr.ofTokens? = some e)
    (hpart : part.IsPart e) (hcause : (part.eval : Except EvaluationFault K) = .error cause) :
  ∃ cause', (evaluateScalar text : Except (Fault K) K)
    = .error (.expression (.failed .scalar (Text.trim text) cause'))
  := by
  cases he : (e.eval : Except EvaluationFault K) with
  | ok x =>
    obtain ⟨y, hy⟩ := hpart.exists_eval_eq_ok he
    cases hcause.symm.trans hy
  | error cause' =>
    use cause'
    rw [evaluateScalar_eq, evaluateAs_of_eval_eq_error (by cbv) h he]
    rfl

theorem evaluateVector_of_isPart {v : Vec3 Expr}
    (h : (Token.scan (Text.trim text).toList).bind Expr.tripleOfTokens? = some v)
    {c : Coordinate} (hpart : part.IsPart (v.get c))
    (hcause : (part.eval : Except EvaluationFault K) = .error cause) :
  ∃ cause', (evaluateVector text : Except (Fault K) (Vec3 K))
    = .error (.expression (.failed .vector (Text.trim text) cause'))
  := by
  cases hv : (Expr.evalTriple v : Except EvaluationFault (Vec3 K)) with
  | ok w =>
    obtain ⟨y, hy⟩ := hpart.exists_eval_eq_ok (Expr.evalTriple_eq_ok_iff.mp hv c)
    cases hcause.symm.trans hy
  | error cause' =>
    use cause'
    rw [evaluateVector_eq, evaluateAs_of_eval_eq_error (by cbv) h hv]
    rfl

end

theorem isFinite_of_evaluateScalar {text : String} {x : K} (h : evaluateScalar text = .ok x) :
  Scalar.isFinite x = true
  := by
  obtain ⟨-, -, -, -, hfinite⟩ := evaluateScalar_eq_ok_iff.mp h
  apply hfinite

theorem isFinite_of_evaluateVector {text : String} {v : Vec3 K} (h : evaluateVector text = .ok v) :
  ∀ x ∈ v.toList, Scalar.isFinite x = true
  := by
  obtain ⟨-, -, -, -, hfinite⟩ := evaluateVector_eq_ok_iff.mp h
  apply List.all_eq_true.mp hfinite

/-! ### Slots -/

/-- The numbers in the content of a slot. -/
def Slot.numbers : (i : Slot) → i.Content K → List K
  | .origin _, x | .halfExtent _, x | .halfLength, x => [x]
  | .axis, v => v.toList
  | .frame _, v => (v.map Vec3.toList).getD []

/-- The numbers that a change writes to slots. -/
def Change.numbers : Change K → List K
  | origin _ x | halfExtent _ x | radius x | length x => [x]
  | axis v | frame _ v => v.toList
  | bound _ => []

omit [Scalar K] in
theorem Change.mem_numbers_of_content {change : Change K} {i : Slot} {content : i.Content K}
    (h : change.content i = some content) {x : K} (hx : x ∈ i.numbers content) :
  x ∈ change.numbers
  := by
  cases change <;> cases i <;> simp only [Change.content, reduceCtorEq] at h
  all_goals grind [Slot.numbers, Change.numbers]

/-- Clauses write the values of their texts, which are finite. -/
theorem ClauseForm.isFinite_of_change {form : ClauseForm} {change : Change K}
    (h : form.change = .ok change) :
  ∀ x ∈ change.numbers, Scalar.isFinite x = true
  := by
  cases form
  all_goals
    rw [ClauseForm.change, Outcome.bind_eq_ok_iff] at h
    obtain ⟨value, hvalue, ⟨⟩⟩ := h
  case axis | frame => apply isFinite_of_evaluateVector hvalue
  case radialBound | axisBound => apply List.forall_mem_nil
  all_goals simpa [Change.numbers] using isFinite_of_evaluateScalar hvalue

namespace CylinderSpec

/-- The numbers in all slots are finite. -/
def IsFinite (s : CylinderSpec K) : Prop :=
  ∀ i : Slot, ∀ x ∈ i.numbers (s.get i), Scalar.isFinite x = true

variable {s s' : CylinderSpec K} {strict : Bool}

theorem IsFinite.changed (hs : s.IsFinite) {change : Change K}
    (h : ∀ x ∈ change.numbers, Scalar.isFinite x = true) :
  (s.changed change).IsFinite
  := by
  intro i x hx
  rw [get_changed] at hx
  cases hcontent : change.content i with
  | none =>
    rw [hcontent] at hx
    apply hs i x hx
  | some content =>
    rw [hcontent] at hx
    apply h x (Change.mem_numbers_of_content hcontent hx)

/-- One clause, recognised or not, leaves the numbers finite. -/
theorem IsFinite.applyClause (hs : s.IsFinite) {clause : Clause}
    (h : (s.applyClause strict clause).outcome = .ok s') :
  s'.IsFinite
  := by
  unfold CylinderSpec.applyClause at h
  split at h
  · rw [outcome_apply] at h
    obtain ⟨change, hchange, ⟨⟩⟩ := Outcome.bind_eq_ok_iff.mp h
    apply hs.changed (ClauseForm.isFinite_of_change hchange)
  · split at h
    · cases h
    · obtain rfl := Except.ok.inj h
      apply hs

/-- Any number of clauses leaves the numbers finite. -/
theorem IsFinite.foldlM_applyClause (hs : s.IsFinite) {clauses : List Clause}
    (h : (clauses.foldlM (CylinderSpec.applyClause strict) s).outcome = .ok s') :
  s'.IsFinite
  := by
  induction clauses generalizing s with
  | nil =>
    obtain rfl := Except.ok.inj h
    apply hs
  | cons clause clauses ih =>
    rw [List.foldlM_cons, Traced.outcome_bind] at h
    obtain ⟨t, ht, h⟩ := Outcome.bind_eq_ok_iff.mp h
    apply ih (hs.applyClause ht) h

end CylinderSpec

/-- Every text stands for a finite number or vector, or it fails as an expression.  A part of the
expression without a value, at any depth, makes the whole text fail.  So all numbers in the slots of
a description stay finite, whatever clauses change it. -/
theorem evaluate_finite :
  (∀ text, (∃ x : K, evaluateScalar text = .ok x ∧ Scalar.isFinite x = true) ∨
      ∃ cause, (evaluateScalar text : Except (Fault K) K) = .error (.expression cause)) ∧
    (∀ text, (∃ v : Vec3 K, evaluateVector text = .ok v ∧
        ∀ x ∈ v.toList, Scalar.isFinite x = true) ∨
      ∃ cause, (evaluateVector text : Except (Fault K) (Vec3 K)) = .error (.expression cause)) ∧
    (∀ text (e part : Expr) cause,
      (Token.scan (Text.trim text).toList).bind Expr.ofTokens? = some e →
      part.IsPart e → (part.eval : Except EvaluationFault K) = .error cause →
      ∃ cause', (evaluateScalar text : Except (Fault K) K)
        = .error (.expression (.failed .scalar (Text.trim text) cause'))) ∧
    (∀ text v c (part : Expr) cause,
      (Token.scan (Text.trim text).toList).bind Expr.tripleOfTokens? = some v →
      part.IsPart (v.get c) → (part.eval : Except EvaluationFault K) = .error cause →
      ∃ cause', (evaluateVector text : Except (Fault K) (Vec3 K))
        = .error (.expression (.failed .vector (Text.trim text) cause'))) ∧
    ∀ strict (s s' : CylinderSpec K) properties, s.IsFinite →
      (s.interpret strict properties).outcome = .ok s' → s'.IsFinite
  := by
  refine ⟨?_, ?_, ?_, ?_, ?_⟩
  · intro text
    cases h : (evaluateScalar text : Except (Fault K) K) with
    | ok x => exact .inl ⟨x, rfl, isFinite_of_evaluateScalar h⟩
    | error f =>
      obtain ⟨cause⟩ := isExpression_of_evaluateScalar h
      exact .inr ⟨cause, rfl⟩
  · intro text
    cases h : (evaluateVector text : Except (Fault K) (Vec3 K)) with
    | ok v => exact .inl ⟨v, rfl, isFinite_of_evaluateVector h⟩
    | error f =>
      obtain ⟨cause⟩ := isExpression_of_evaluateVector h
      exact .inr ⟨cause, rfl⟩
  · intro text e part cause h hpart hcause
    apply evaluateScalar_of_isPart h hpart hcause
  · intro text v c part cause h hpart hcause
    apply evaluateVector_of_isPart h hpart hcause
  · intro strict s s' properties hs h
    apply hs.foldlM_applyClause h

/-- The quotient by an infinite number is finite, and an argument without a logarithm makes a
text fail wherever it stands. -/
theorem evaluate_finite_of_texts :
  (CylinderSpec.initial : CylinderSpec Float).IsFinite ∧
    (∃ s' : CylinderSpec Float,
      (CylinderSpec.initial.interpret false "x=7/1e400; axis(0,3,-4)").outcome = .ok s' ∧
      s'.IsFinite) ∧
    (∃ cause, (evaluateScalar "2*(1+log(1-1))" : Except (Fault Float) Float)
      = .error (.expression (.failed .scalar "2*(1+log(1-1))" cause))) ∧
    ∃ cause, (evaluateVector "(0,-log(0),1)" : Except (Fault Float) (Vec3 Float))
      = .error (.expression (.failed .vector "(0,-log(0),1)" cause))
  := by
  obtain ⟨-, -, hscalar, hvector, hinterpret⟩ := evaluate_finite (K := Float)
  have hinitial : (CylinderSpec.initial : CylinderSpec Float).IsFinite := by
    rintro (⟨⟨⟩⟩ | ⟨⟨⟩⟩ | _ | _ | ⟨⟨⟩⟩) <;> decide +kernel
  have hforms : Clause.formsOf "x=7/1e400; axis(0,3,-4)"
      = [.origin .x "7/1e400", .axis "(0,3,-4)"] := by
    decide +kernel
  have hquotient : (evaluateScalar "7/1e400" : Except (Fault Float) Float) = .ok 0 :=
    evaluateScalar_eq_ok_iff.mpr ⟨by decide, .binary .div (.numeral ⟨.whole 7 [], none⟩)
      (.numeral ⟨.whole 1 [], some ⟨false, none, 4, [0, 0]⟩⟩), by cbv, by decide +kernel,
      by decide +kernel⟩
  have haxis : (evaluateVector "(0,3,-4)" : Except (Fault Float) (Vec3 Float))
      = .ok ⟨0, 3, -4⟩ :=
    evaluateVector_eq_ok_iff.mpr ⟨by decide, ⟨.numeral ⟨.whole 0 [], none⟩,
      .numeral ⟨.whole 3 [], none⟩, .neg (.numeral ⟨.whole 4 [], none⟩)⟩, by cbv,
      by decide +kernel, by decide +kernel⟩
  have hinterpreted : ∃ s' : CylinderSpec Float,
      (CylinderSpec.initial.interpret false "x=7/1e400; axis(0,3,-4)").outcome = .ok s' := by
    rw [CylinderSpec.outcome_interpret, hforms]
    simp [ClauseForm.change, hquotient, haxis]
  obtain ⟨s', hs'⟩ := hinterpreted
  refine ⟨hinitial, ⟨s', hs', hinterpret false _ s' _ hinitial hs'⟩, ?_, ?_⟩
  · have hparse : (Token.scan (Text.trim "2*(1+log(1-1))").toList).bind Expr.ofTokens?
        = some (.binary .mul (.numeral ⟨.whole 2 [], none⟩)
          (.binary .add (.numeral ⟨.whole 1 [], none⟩)
            (.call "log" (.binary .sub (.numeral ⟨.whole 1 [], none⟩)
              (.numeral ⟨.whole 1 [], none⟩)) []))) := by
      cbv
    apply hscalar _ _ _ (.arithmetic .domain) hparse (.right (.right .self)) (by decide +kernel)
  · have hparse : (Token.scan (Text.trim "(0,-log(0),1)").toList).bind Expr.tripleOfTokens?
        = some ⟨.numeral ⟨.whole 0 [], none⟩,
          .neg (.call "log" (.numeral ⟨.whole 0 [], none⟩) []),
          .numeral ⟨.whole 1 [], none⟩⟩ := by
      cbv
    apply hvector _ _ .y _ (.arithmetic .domain) hparse (.neg .self) (by decide +kernel)

end ClippedCylinder
