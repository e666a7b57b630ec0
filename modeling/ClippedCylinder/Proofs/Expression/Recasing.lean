import Mathlib
import ClippedCylinder.Proofs.Cylinder.Rejection
import ClippedCylinder.Proofs.Exact.Bound
import ClippedCylinder.Proofs.Expression.LoweredTree

/-!
# Texts in another letter case

The value of a text does not change if letters of it are written in another case, and a text without
a value fails for the same cause (`evaluate_recased`).  The only letter whose case counts is that of
the keyword at the beginning of a plane.
-/

namespace ClippedCylinder

open Text

/-! ### Recased texts -/

namespace Text

/-- The second text is the first one with some of its letters in another case. -/
def IsRecased (s t : String) : Prop :=
  List.Forall₂ (fun c d => d = c ∨ d = c.toLower ∨ d = c.toUpper) s.toList t.toList

/-- A text in lower case does not tell what the case of its letters was. -/
theorem IsRecased.toLower_eq {s t : String} (h : IsRecased s t) :
  s.toLower = t.toLower
  := by
  rw [← String.toList_inj, toList_toLower, toList_toLower, lowerChars, lowerChars,
    ← List.forall₂_eq_eq_eq, List.forall₂_map_left_iff, List.forall₂_map_right_iff]
  apply List.Forall₂.imp _ h
  rintro c d (rfl | rfl | rfl)
  · rfl
  · apply (Char.toLower_toLower_eq_toLower c).symm
  · apply (Char.toLower_toUpper_eq_toLower c).symm

theorem isEmpty_toLower (s : String) :
  s.toLower.isEmpty = s.isEmpty
  := by
  rw [Bool.eq_iff_iff, String.isEmpty_iff, String.isEmpty_iff, ← String.toList_inj,
    toList_toLower, ← String.toList_inj]
  apply List.map_eq_nil_iff

/-- The text starts with the keyword of planes. -/
def HasKeyword (text : String) : Prop :=
  (trim text).toList.head? = some 'r'

end Text

/-! ### Failures -/

/-- The failure with the text that it quotes in lower case. -/
def ExpressionFault.lowered : ExpressionFault → ExpressionFault
  | empty kind => empty kind
  | malformed kind source => malformed kind source.toLower
  | failed kind source cause => failed kind source.toLower cause.lowered
  | notFinite text => notFinite text.toLower
  | zeroNormal source => zeroNormal source.toLower

section

variable {K : Type}

/-- The failure with the text of an expression that it quotes in lower case. -/
def Fault.lowered : Fault K → Fault K
  | .expression cause => .expression cause.lowered
  | f => f

theorem Fault.lowered_of_isRejection {f : Fault K} (h : f.isRejection = false) :
  f.lowered = f
  := by
  cases f with
  | expression => cases h
  | _ => rfl

theorem Fault.mapError_lowered {α : Type} {x : Except (Fault K) α}
    (h : ∀ f, x = .error f → f.isRejection = false) :
  x.mapError Fault.lowered = x
  := by
  cases x with
  | error f => rw [Outcome.mapError_error, lowered_of_isRejection (h f rfl)]
  | ok a => rfl

/-- The outcomes are the same value, or failures for the same cause, which may quote texts in
another letter case. -/
structure AgreeUpToCase {α : Type} (x y : Except (Fault K) α) : Prop where
  ok_iff : ∀ a, x = .ok a ↔ y = .ok a
  error : ∀ f, x = .error f → ∃ f', y = .error f' ∧ f'.lowered = f.lowered

theorem agreeUpToCase_of_mapError {α : Type} {x y : Except (Fault K) α}
    (h : x.mapError Fault.lowered = y.mapError Fault.lowered) :
  AgreeUpToCase x y
  := by
  constructor
  · intro a
    rw [← Outcome.mapError_eq_ok_iff, h, Outcome.mapError_eq_ok_iff]
  · rintro f rfl
    apply Outcome.mapError_eq_error_iff.mp h.symm

end

/-! ### Texts in lower case -/

section

variable {K α β : Type} {kind : ExpressionKind} {scan : List Char → Option (List Token)}
  {parse : List Token → Option α} {eval : α → Except EvaluationFault β} {lower : α → α}
  {text : String}

/-- A text in lower case is evaluated as the text, if the tokens of the text, their tree and its
value are natural in the case of letters. -/
theorem evaluateAs_toLower
    (hscan : scan (lowerChars (trim text).toList)
      = (scan (trim text).toList).map (List.map Token.lowered))
    (hparse : ∀ ts, parse (ts.map Token.lowered) = (parse ts).map lower)
    (heval : ∀ tree, eval (lower tree) = (eval tree).mapError EvaluationFault.lowered) :
  (evaluateAs kind scan parse eval text.toLower : Except (Fault K) β)
    = (evaluateAs kind scan parse eval text).mapError Fault.lowered
  := by
  have htree : (scan (lowerChars (trim text).toList)).bind parse
      = ((scan (trim text).toList).bind parse).map lower := by
    rw [hscan, Option.bind_map, Option.map_bind]
    congr 1
    funext ts
    apply hparse
  simp only [evaluateAs, trim_toLower, isEmpty_toLower, toList_toLower, htree]
  split
  · rfl
  · cases (scan (trim text).toList).bind parse with
    | none => rfl
    | some tree =>
      simp only [Option.map_some, heval]
      cases eval tree with
      | error cause => rfl
      | ok b => rfl

end

variable {K : Type} [Scalar K]

theorem evaluateScalar_toLower (text : String) :
  (evaluateScalar text.toLower : Except (Fault K) K)
    = (evaluateScalar text).mapError Fault.lowered
  := by
  have hparse := parse_map_lowered (c := .scalar) Expr.ofTokens?_eq_some_iff
  rw [evaluateScalar_eq, evaluateScalar_eq,
    evaluateAs_toLower (Token.scan_lowerChars _) hparse Expr.eval_lowered, Outcome.mapError_bind]
  congr 1
  funext x
  split
  · rfl
  · rfl

theorem evaluateVector_toLower (text : String) :
  (evaluateVector text.toLower : Except (Fault K) (Vec3 K))
    = (evaluateVector text).mapError Fault.lowered
  := by
  have hparse := parse_map_lowered (c := .vector) Expr.tripleOfTokens?_eq_some_iff
  rw [evaluateVector_eq, evaluateVector_eq,
    evaluateAs_toLower (Token.scan_lowerChars _) hparse Expr.evalTriple_lowered,
    Outcome.mapError_bind]
  congr 1
  funext v
  split
  · rfl
  · rfl

/-! ### Planes in lower case -/

theorem Token.scanPlane_lowerChars {cs : List Char} (h : cs.head? = some 'r') :
  scanPlane (lowerChars cs) = (scanPlane cs).map (List.map lowered)
  := by
  obtain ⟨cs, rfl⟩ := List.head?_eq_some_iff.mp h
  change (scan (lowerChars cs)).map _ = ((scan cs).map _).map _
  rw [scan_lowerChars, Option.map_map, Option.map_map]
  rfl

theorem Token.scanPlane_eq_none {cs : List Char} (h : cs.head? ≠ some 'r') :
  scanPlane cs = none
  := by
  unfold scanPlane
  split
  · cases h rfl
  · rfl

/-- Only the failure for a short normal quotes the text of a bound. -/
theorem boundary_toLower (source : String) (normal : Vec3 K) (offset : K) :
  boundary source.toLower normal offset = (boundary source normal offset).mapError Fault.lowered
  := by
  -- Lengths and unit normals fail without quoting a text.
  have hzero : normal.isZero.mapError Fault.lowered = normal.isZero :=
    Fault.mapError_lowered fun f hf => Vec3.length_eq_error (Vec3.isZero_eq_error_iff.mp hf)
  have hunit : normal.unitNormal.mapError Fault.lowered = normal.unitNormal :=
    Fault.mapError_lowered fun f hf => Vec3.isRejection_of_unitNormal hf
  rw [boundary, boundary, Outcome.mapError_bind, hzero]
  congr 1
  funext isZero
  cases isZero
  · rw [if_neg Bool.false_ne_true, if_neg Bool.false_ne_true,
      Vec3.normalize_bind_through normal fun u => Point.zero.move (u.scale offset),
      Outcome.mapError_bind, hunit]
    rfl
  · rfl

theorem evaluatePlane_toLower {text : String} (h : HasKeyword text) :
  (evaluatePlane text.toLower : Traced K (Plane K)).outcome
    = (evaluatePlane text).outcome.mapError Fault.lowered
  := by
  have hparse := parse_map_lowered (c := .plane) PlaneExpr.ofTokens?_eq_some_iff
  rw [outcome_evaluatePlane, outcome_evaluatePlane,
    evaluateAs_toLower (Token.scanPlane_lowerChars h) hparse PlaneExpr.eval_lowered,
    Outcome.mapError_bind]
  congr 1
  funext ⟨normal, comparator, value⟩
  dsimp only
  split
  · rw [trim_toLower, boundary_toLower]
  · rfl

/-- No text without the keyword of planes is one. -/
theorem evaluatePlane_of_not_hasKeyword {text : String} (h : ¬ HasKeyword text) :
  (evaluatePlane text : Traced K (Plane K)).outcome
    = .error (.expression (if (trim text).isEmpty then .empty .plane
        else .malformed .plane (trim text)))
  := by
  rw [outcome_evaluatePlane, evaluateAs, Token.scanPlane_eq_none h]
  split
  · rfl
  · rfl

/-! ### Texts in another letter case -/

theorem evaluatePlane_recased {text text' : String} (h : IsRecased text text')
    (hkeyword : HasKeyword text ↔ HasKeyword text') :
  (evaluatePlane text : Traced K (Plane K)).outcome.mapError Fault.lowered
    = (evaluatePlane text').outcome.mapError Fault.lowered
  := by
  by_cases htext : HasKeyword text
  · rw [← evaluatePlane_toLower htext, h.toLower_eq, evaluatePlane_toLower (hkeyword.mp htext)]
  · have htrim : (trim text).toLower = (trim text').toLower := by
      rw [← trim_toLower, h.toLower_eq, trim_toLower]
    have hempty := congrArg String.isEmpty htrim
    rw [isEmpty_toLower, isEmpty_toLower] at hempty
    rw [evaluatePlane_of_not_hasKeyword htext,
      evaluatePlane_of_not_hasKeyword (mt hkeyword.mpr htext), hempty]
    simp only [Outcome.mapError_error, Fault.lowered]
    split
    · rfl
    · simp only [ExpressionFault.lowered, htrim]

/-- The value of a text does not depend on the case of its letters, be they those of constants,
functions or exponents, except for the keyword of planes.  A text without a value has none in any
letter case, for the same cause: names that are not known are known in no letter case. -/
theorem evaluate_recased :
  (∀ text text' : String, IsRecased text text' →
      AgreeUpToCase (evaluateScalar text : Except (Fault K) K) (evaluateScalar text') ∧
      AgreeUpToCase (evaluateVector text : Except (Fault K) (Vec3 K)) (evaluateVector text') ∧
      ((HasKeyword text ↔ HasKeyword text') →
        AgreeUpToCase (evaluatePlane text : Traced K (Plane K)).outcome
          (evaluatePlane text').outcome)) ∧
    ∀ name name' : String, IsRecased name name' →
      (constant? name : Option K) = constant? name' ∧
        Function.ofName? name = Function.ofName? name'
  := by
  constructor
  · intro text text' h
    refine ⟨?_, ?_, ?_⟩
    · apply agreeUpToCase_of_mapError
      rw [← evaluateScalar_toLower, h.toLower_eq, evaluateScalar_toLower]
    · apply agreeUpToCase_of_mapError
      rw [← evaluateVector_toLower, h.toLower_eq, evaluateVector_toLower]
    · intro hkeyword
      apply agreeUpToCase_of_mapError
      apply evaluatePlane_recased h hkeyword
  · intro name name' h
    constructor
    · rw [← constant?_toLower, h.toLower_eq, constant?_toLower]
    · rw [← Function.ofName?_toLower, h.toLower_eq, Function.ofName?_toLower]

/-- A number, a vector and a plane in other letter cases, and a name that is not known. -/
theorem evaluate_recased_of_texts :
  evaluateScalar "2E1*Pi" = .ok (20 * Real.pi) ∧
    evaluateVector "(pI,PI,Pi)" = .ok (⟨Real.pi, Real.pi, Real.pi⟩ : Vec3 ℝ) ∧
    (evaluatePlane "r(0,0,1)<=2e1*PI").outcome
      = .ok (⟨⟨0, 0, 20 * Real.pi⟩, ⟨0, 0, 1⟩⟩ : Plane ℝ) ∧
    (∃ f : Fault ℝ, evaluateScalar "2*fOO" = .error f ∧
      f.lowered = .expression (.failed .scalar "2*foo" (.unknownSymbol "foo"))) ∧
    Function.ofName? "aTan2" = some .atan2
  := by
  obtain ⟨htexts, hnames⟩ := evaluate_recased (K := ℝ)
  have hpi : (constant? "pi" : Option ℝ) = some Real.pi := by cbv
  have htwenty : (Numeral.value ⟨.whole 2 [], some ⟨false, none, 1, []⟩⟩ : ℝ) = 20 := by
    simp [Numeral.value, Scalar.ofDecimal, Numeral.coefficient, Numeral.scale, Mantissa.digits,
      Mantissa.places, digitsValue, Exponent.value]
    norm_num
  have hproduct : (Expr.binary .mul (.numeral ⟨.whole 2 [], some ⟨false, none, 1, []⟩⟩)
      (.symbol "pi")).eval = .ok (20 * Real.pi) := by
    rw [Expr.eval, Expr.eval, Expr.eval, hpi, htwenty]
    rfl
  have hscalar : evaluateScalar "2e1*pi" = .ok (20 * Real.pi) :=
    evaluateScalar_eq_ok_iff.mpr ⟨by decide, _, by cbv, hproduct, rfl⟩
  have htriple : Expr.evalTriple ⟨.symbol "pi", .symbol "pi", .symbol "pi"⟩
      = .ok (⟨Real.pi, Real.pi, Real.pi⟩ : Vec3 ℝ) := by
    rw [Expr.evalTriple, Expr.eval, hpi]
    rfl
  have hvector : evaluateVector "(pi,pi,pi)" = .ok (⟨Real.pi, Real.pi, Real.pi⟩ : Vec3 ℝ) :=
    evaluateVector_eq_ok_iff.mpr ⟨by decide, _, by cbv, htriple, rfl⟩
  have hbound : PlaneExpr.eval ⟨⟨.numeral ⟨.whole 0 [], none⟩, .numeral ⟨.whole 0 [], none⟩,
        .numeral ⟨.whole 1 [], none⟩⟩, .le, .binary .mul
        (.numeral ⟨.whole 2 [], some ⟨false, none, 1, []⟩⟩) (.symbol "pi")⟩
      = .ok (Vec3.unit .z, .le, 20 * Real.pi) := by
    rw [PlaneExpr.eval, evalTriple_digits, hproduct]
    simp [Vec3.unit]
  have hplane : (evaluatePlane "r(0,0,1)<=2e1*pi").outcome
      = .ok (⟨⟨0, 0, 20 * Real.pi⟩, ⟨0, 0, 1⟩⟩ : Plane ℝ) := by
    apply evaluatePlane_eq_ok_iff.mpr
    refine ⟨by cbv, _, _, _, _, by cbv, hbound, ?_, ?_⟩
    · rw [Vec3.norm_unit_z]
      apply Scalar.epsilon_lt_one
    · rw [Vec3.norm_unit_z, Vec3.dividedBy_one]
      simp [Vec3.unit, Vec3.scale, Point.move, Point.zero, Comparator.offset, Comparator.isAbove]
  have htree : (Token.scan (trim "2*foo").toList).bind Expr.ofTokens?
      = some (.binary .mul (.numeral ⟨.whole 2 [], none⟩) (.symbol "foo")) := by cbv
  have hunknown : evaluateScalar "2*foo"
      = .error (.expression (.failed .scalar "2*foo" (.unknownSymbol "foo")) : Fault ℝ) := by
    have hfoo : (constant? "foo" : Option ℝ) = none := by cbv
    have htrim : trim "2*foo" = "2*foo" := by cbv
    rw [evaluateScalar_eq, evaluateAs_of_parse (by decide) htree, Expr.eval, Expr.eval, Expr.eval,
      hfoo, htrim]
    rfl
  refine ⟨?_, ?_, ?_, ?_, ?_⟩
  · have h : IsRecased "2e1*pi" "2E1*Pi" := by simp [IsRecased]
    apply ((htexts _ _ h).1.ok_iff _).mp hscalar
  · have h : IsRecased "(pi,pi,pi)" "(pI,PI,Pi)" := by simp [IsRecased]
    apply ((htexts _ _ h).2.1.ok_iff _).mp hvector
  · have h : IsRecased "r(0,0,1)<=2e1*pi" "r(0,0,1)<=2e1*PI" := by simp [IsRecased]
    have hkeyword : HasKeyword "r(0,0,1)<=2e1*pi" ↔ HasKeyword "r(0,0,1)<=2e1*PI" := by
      unfold HasKeyword
      decide
    apply (((htexts _ _ h).2.2 hkeyword).ok_iff _).mp hplane
  · have h : IsRecased "2*foo" "2*fOO" := by simp [IsRecased]
    obtain ⟨f, hf, hlower⟩ := (htexts _ _ h).1.error _ hunknown
    refine ⟨f, hf, hlower.trans ?_⟩
    cbv
  · have h : IsRecased "atan2" "aTan2" := by simp [IsRecased]
    rw [← (hnames _ _ h).2]
    decide +kernel

end ClippedCylinder
