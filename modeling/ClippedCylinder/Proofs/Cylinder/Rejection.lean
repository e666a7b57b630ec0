import Mathlib
import ClippedCylinder.CommandLine.Session
import ClippedCylinder.Proofs.Clause.Interpretation
import ClippedCylinder.Proofs.Exact.Placement

/-!
# Rejected descriptors

A descriptor that is not compiled is rejected, unless the unit normal of a plane cannot be
computed: that of a written bound, or that of a plane carried to the coordinates of the cylinder
(`compile_eq_error`).  The lengths of normals are computed after a text is evaluated, and they can
be too large, or zero after rounding, where the text itself is in order.  The command line reports
rejected descriptors and ends with status 1; a failure that is no rejection gets past it
(`compileAll_cases`).
-/

namespace ClippedCylinder

variable {K : Type} [Scalar K]

/-! ### Unit normals -/

/-- The unit vector in the direction of a vector, tested once more for its length, as the planes
of bounds and the images of planes need it. -/
def Vec3.unitNormal (v : Vec3 K) : Except (Fault K) (Vec3 K) := do
  let u ← v.normalize
  if ← u.isZero then .error (.geometry .zeroNormal) else return u

theorem Vec3.length_eq_error {v : Vec3 K} {f : Fault K} (h : v.length = .error f) :
  f.isRejection = false
  := by
  have hsquare {x : K} (hx : squareOf x = .error f) : f.isRejection = false := by
    obtain ⟨cause, -, rfl⟩ := Outcome.mapError_eq_error_iff.mp hx
    rfl
  simp only [length, Outcome.bind_eq_error_iff] at h
  rcases h with hx | ⟨_, -, hy | ⟨_, -, hz | ⟨_, -, h⟩⟩⟩
  · apply hsquare hx
  · apply hsquare hy
  · apply hsquare hz
  · cases h

theorem Vec3.isZero_eq_error_iff {v : Vec3 K} {f : Fault K} :
  v.isZero = .error f ↔ v.length = .error f
  := by
  cases h : v.length with
  | error f' => simp [isZero, h]
  | ok x => simp [isZero, h, pure, Except.pure]

/-- A vector without a unit normal is no reason to reject a text. -/
theorem Vec3.isRejection_of_unitNormal {v : Vec3 K} {f : Fault K} (h : v.unitNormal = .error f) :
  f.isRejection = false
  := by
  simp only [unitNormal, normalize, Outcome.bind_eq_error_iff] at h
  rcases h with (h | ⟨x, -, h⟩) | ⟨u, -, h | ⟨isZero, -, h⟩⟩
  · apply length_eq_error h
  · split at h
    · cases h
    · unfold divide at h
      split at h
      · obtain rfl := Except.error.inj h
        rfl
      · cases h
  · apply length_eq_error (isZero_eq_error_iff.mp h)
  · split at h
    · obtain rfl := Except.error.inj h
      rfl
    · cases h

theorem Vec3.normalize_bind_through (v : Vec3 K) (anchor : Vec3 K → Point K) :
  (v.normalize >>= fun u => Plane.through (anchor u) u)
    = v.unitNormal >>= fun u => .ok ⟨anchor u, u⟩
  := by
  simp only [unitNormal, Plane.through, bind_assoc]
  congr 1
  funext u
  congr 1
  funext isZero
  cases isZero
  · rfl
  · rfl

/-- A bound is refused for a short normal, and else it fails only if the normal has no unit
normal. -/
theorem boundary_eq_error {source : String} {normal : Vec3 K} {offset : K} {f : Fault K}
    (h : boundary source normal offset = .error f) :
  f.IsExpression ∨ normal.unitNormal = .error f
  := by
  rw [boundary, Outcome.bind_eq_error_iff] at h
  rcases h with h | ⟨isZero, -, h⟩
  · have hlength := Vec3.isZero_eq_error_iff.mp h
    simp [Vec3.unitNormal, Vec3.normalize, hlength]
  · cases isZero
    · rw [if_neg Bool.false_ne_true, Vec3.normalize_bind_through normal
        (fun u => Point.zero.move (u.scale offset)), Outcome.bind_eq_error_iff] at h
      rcases h with h | ⟨u, -, h⟩
      · apply Or.inr h
      · cases h
    · obtain rfl := Except.error.inj h
      apply Or.inl ⟨_⟩

/-- The normal of a plane carried along a map whose linear part has the given inverse. -/
theorem Plane.mapped_eq (plane : Plane K) (t : AffineMap K) :
  plane.mapped t = t.inverseLinear >>= fun m =>
    (m.transpose.apply plane.normal).unitNormal >>= fun u => .ok ⟨t.applyPoint plane.anchor, u⟩
  := by
  apply congrArg (t.inverseLinear >>= ·)
  funext m
  apply Vec3.normalize_bind_through _ fun _ => t.applyPoint plane.anchor

/-! ### Written bounds -/

/-- The vector is the value of the normal in the text of a bound. -/
def IsWrittenNormal (text : String) (v : Vec3 K) : Prop :=
  ∃ p comparator value,
    (Token.scanPlane (Text.trim text).toList).bind PlaneExpr.ofTokens? = some p ∧
      p.eval = .ok (v, comparator, value)

/-- A bound is rejected unless its normal has no unit normal. -/
theorem evaluatePlane_eq_error {text : String} {f : Fault K}
    (h : (evaluatePlane text).outcome = .error f) :
  f.IsExpression ∨ ∃ v, IsWrittenNormal text v ∧ v.unitNormal = .error f
  := by
  rw [outcome_evaluatePlane, Outcome.bind_eq_error_iff] at h
  rcases h with h | ⟨⟨normal, comparator, value⟩, heval, h⟩
  · apply Or.inl (isExpression_of_evaluateAs h)
  · obtain ⟨-, p, hp, heval⟩ := evaluateAs_eq_ok_iff.mp heval
    dsimp only at h
    split at h
    · rcases boundary_eq_error h with h | h
      · apply Or.inl h
      · exact .inr ⟨normal, ⟨p, comparator, value, hp, heval⟩, h⟩
    · obtain rfl := Except.error.inj h
      apply Or.inl ⟨_⟩

/-- The text of the bound that a clause stands for. -/
def ClauseForm.boundText? : ClauseForm → Option String
  | radialBound _ text => some text
  | axisBound c comparator value => some (boundClause c comparator.text value)
  | _ => none

theorem ClauseForm.change_eq_error {form : ClauseForm} {f : Fault K}
    (h : form.change = .error f) :
  f.IsExpression ∨
    ∃ text v, form.boundText? = some text ∧ IsWrittenNormal text v ∧ v.unitNormal = .error f
  := by
  cases form
  all_goals
    rw [change, Outcome.bind_eq_error_iff] at h
    rcases h with h | ⟨x, -, h⟩
    rotate_left
    · cases h
  case radialBound comparator text =>
    rcases evaluatePlane_eq_error h with h | ⟨v, hv, h⟩
    · apply Or.inl h
    · exact .inr ⟨text, v, rfl, hv, h⟩
  case axisBound c comparator value =>
    rw [boundPlane, Traced.outcome_bind, Traced.outcome_note, Outcome.ok_bind] at h
    rcases evaluatePlane_eq_error h with h | ⟨v, hv, h⟩
    · apply Or.inl h
    · exact .inr ⟨_, v, rfl, hv, h⟩
  case axis => apply Or.inl (isExpression_of_evaluateVector h)
  case frame => apply Or.inl (isExpression_of_evaluateVector h)
  all_goals apply Or.inl (isExpression_of_evaluateScalar h)

namespace CylinderSpec

variable {s : CylinderSpec K} {f : Fault K}

/-- Unless an unknown clause is refused, the interpretation of a section fails as a clause does. -/
theorem interpret_eq_error {strict : Bool} {properties : String}
    (h : (s.interpret strict properties).outcome = .error f) :
  (∃ text, f = .unknownClause text) ∨ ∃ form ∈ Clause.formsOf properties, form.change = .error f
  := by
  unfold interpret Clause.formsOf at *
  generalize Clause.ofProperties properties = clauses at h
  induction clauses generalizing s with
  | nil => cases h
  | cons clause clauses ih =>
    rw [List.foldlM_cons, Traced.outcome_bind, Outcome.bind_eq_error_iff] at h
    rcases h with h | ⟨s', -, h⟩
    · unfold applyClause at h
      split at h
      · rename_i form hform
        rw [outcome_apply, Outcome.bind_eq_error_iff] at h
        rcases h with h | ⟨change, -, h⟩
        · exact .inr ⟨form, by simp [hform], h⟩
        · cases h
      · split at h
        · exact .inl ⟨clause.text, (Except.error.inj h).symm⟩
        · cases h
    · rcases ih h with hunknown | ⟨form, hform, h⟩
      · apply Or.inl hunknown
      · refine .inr ⟨form, ?_, h⟩
        obtain ⟨c, hc, hcform⟩ := List.mem_filterMap.mp hform
        exact List.mem_filterMap.mpr ⟨c, List.mem_cons_of_mem _ hc, hcform⟩

end CylinderSpec

/-! ### Placements -/

/-- The failure says that a description has no placement. -/
inductive Fault.IsPlacement {K : Type} : Fault K → Prop where
  /-- A frame cannot be completed. -/
  | frame (cause : FrameFault) : IsPlacement (.frame cause)
  /-- Vectors give no invertible transformation. -/
  | degenerate (cause : DegenerateFault K) : IsPlacement (.degenerate cause)

omit [Scalar K] in
theorem Fault.IsPlacement.isRejection {f : Fault K} (h : f.IsPlacement) :
  f.isRejection = true
  := by
  cases h
  · rfl
  · rfl

/-- A description without a placement is rejected. -/
theorem CylinderSpec.isPlacement_of_placement {s : CylinderSpec K} {f : Fault K}
    (h : s.placement.outcome = .error f) :
  f.IsPlacement
  := by
  rw [placement, Traced.outcome_bind, Outcome.bind_eq_error_iff] at h
  rcases h with h | ⟨m, -, h⟩
  · obtain ⟨rfl, -⟩ | ⟨cause, rfl⟩ := orientation_eq_error h
    · constructor
    · constructor
  · dsimp only at h
    split at h
    · cases h
    · obtain rfl := Except.error.inj h
      constructor

theorem AffineMap.isPlacement_of_inverseLinear {t : AffineMap K} {f : Fault K}
    (h : t.inverseLinear = .error f) :
  f.IsPlacement
  := by
  unfold inverseLinear at h
  split at h
  · cases h
  · obtain rfl := Except.error.inj h
    constructor

/-! ### Carried planes -/

/-- The vector is the normal of a plane of the description, carried to the coordinates of the
cylinder. -/
def CylinderSpec.IsCarriedNormal (s : CylinderSpec K) (v : Vec3 K) : Prop :=
  ∃ placement toLocal m, s.placement.outcome = .ok placement ∧ placement.inverse = .ok toLocal ∧
    toLocal.inverseLinear = .ok m ∧ ∃ plane ∈ s.planes, m.transpose.apply plane.normal = v

namespace Cylinder

/-- A description is rejected unless a carried normal has no unit normal. -/
theorem assemble_eq_error {typeName : String} {s : CylinderSpec K} {f : Fault K}
    (h : (assemble typeName s).outcome = .error f) :
  f.IsPlacement ∨ ∃ v, s.IsCarriedNormal v ∧ v.unitNormal = .error f
  := by
  rw [assemble, Traced.outcome_bind, Outcome.bind_eq_error_iff] at h
  rcases h with h | ⟨placement, hplacement, h⟩
  · apply Or.inl (CylinderSpec.isPlacement_of_placement h)
  rw [Traced.outcome_bind, Traced.outcome_lift, Outcome.bind_eq_error_iff] at h
  rcases h with h | ⟨bounds, -, h⟩
  rotate_left
  · cases h
  rcases Outcome.bind_eq_error_iff.mp h with h | ⟨toLocal, htoLocal, h⟩
  · rcases Outcome.bind_eq_error_iff.mp h with h | ⟨m, -, h⟩
    · apply Or.inl (AffineMap.isPlacement_of_inverseLinear h)
    · cases h
  obtain ⟨front, plane, back, hplanes, -, h⟩ := Outcome.mapM_eq_error_iff.mp h
  rcases Outcome.bind_eq_error_iff.mp h with h | ⟨image, -, h⟩
  rotate_left
  · cases h
  rw [Plane.mapped_eq] at h
  rcases Outcome.bind_eq_error_iff.mp h with h | ⟨m, hm, h⟩
  · apply Or.inl (AffineMap.isPlacement_of_inverseLinear h)
  · rcases Outcome.bind_eq_error_iff.mp h with h | ⟨u, -, h⟩
    · have hmem : plane ∈ s.planes := by simp [hplanes]
      exact .inr ⟨_, ⟨placement, toLocal, m, hplacement, htoLocal, hm, plane, hmem, rfl⟩, h⟩
    · cases h

/-- An assembled cylinder has a half-space for every plane. -/
theorem length_bounds_of_assemble {typeName : String} {s : CylinderSpec K} {c : Cylinder K}
    (h : (assemble typeName s).outcome = .ok c) :
  c.bounds.length = c.spec.planes.length
  := by
  simp only [assemble, Traced.outcome_bind, Traced.outcome_lift, Outcome.bind_eq_ok_iff] at h
  obtain ⟨placement, -, bounds, hbounds, h⟩ := h
  obtain rfl := Except.ok.inj h
  obtain ⟨toLocal, -, hbounds⟩ := Outcome.bind_eq_ok_iff.mp hbounds
  apply (Outcome.mapM_eq_ok_iff_forall₂.mp hbounds).length_eq.symm

/-! ### Descriptors -/

/-- The description that the clauses of a descriptor change. -/
def described (typeName : String) : CylinderSpec K :=
  { CylinderSpec.initial with axis := TypeName.axis typeName }

theorem outcome_compile (strict : Bool) (descriptor : String) :
  (compile strict descriptor : Traced K (Cylinder K)).outcome =
    Descriptor.parse descriptor >>= fun d =>
      ((described d.typeName).interpret strict d.properties).outcome >>= fun s =>
        (assemble d.typeName s).outcome
  := by
  simp only [compile, Traced.outcome_bind, Traced.outcome_lift]
  congr 1
  funext d
  congr 1
  funext s
  cases (assemble d.typeName s).outcome with
  | error f => rfl
  | ok c => rfl

/-- The vector is the normal of a bound in the descriptor, or of a plane that the descriptor gives,
carried to the coordinates of the cylinder. -/
def IsNormalOf (strict : Bool) (descriptor : String) (v : Vec3 K) : Prop :=
  ∃ d, Descriptor.parse (K := K) descriptor = .ok d ∧
    ((∃ form ∈ Clause.formsOf d.properties, ∃ text, form.boundText? = some text ∧
        IsWrittenNormal text v) ∨
      ∃ s, ((described d.typeName).interpret strict d.properties).outcome = .ok s ∧
        s.IsCarriedNormal v)

/-- A descriptor that is not compiled is rejected unless one of its normals has no unit normal. -/
theorem compile_eq_error {strict : Bool} {descriptor : String} {f : Fault K}
    (h : (compile strict descriptor).outcome = .error f) :
  f.isRejection = true ∨ ∃ v, IsNormalOf strict descriptor v ∧ v.unitNormal = .error f
  := by
  rw [outcome_compile, Outcome.bind_eq_error_iff] at h
  rcases h with h | ⟨d, hd, h⟩
  · obtain ⟨cause, -, rfl⟩ := Outcome.mapError_eq_error_iff.mp h
    apply Or.inl rfl
  rcases Outcome.bind_eq_error_iff.mp h with h | ⟨s, hs, h⟩
  · rcases CylinderSpec.interpret_eq_error h with ⟨text, rfl⟩ | ⟨form, hform, h⟩
    · apply Or.inl rfl
    · rcases ClauseForm.change_eq_error h with h | ⟨text, v, htext, hv, h⟩
      · apply Or.inl h.isRejection
      · exact .inr ⟨v, ⟨d, hd, .inl ⟨form, hform, text, htext, hv⟩⟩, h⟩
  · rcases assemble_eq_error h with h | ⟨v, hv, h⟩
    · apply Or.inl h.isRejection
    · exact .inr ⟨v, ⟨d, hd, .inr ⟨s, hs, hv⟩⟩, h⟩

end Cylinder

/-! ### The command line -/

namespace CommandLine.Shell

variable {strict : Bool} {s : Shell} {ds : List String}

/-- What is logged of a rejected descriptor. -/
def rejection (d : String) (f : Fault Float) : Record :=
  ⟨"forbildshapes.cli", .error, s!"Cannot compile '{d}': {f.message}"⟩

/-- The command line goes through all descriptors, or stops at one that is not compiled.  If that
one is rejected it says so and ends with status 1, and otherwise the failure escapes. -/
theorem compileAll_cases (strict : Bool) (s : Shell) (ds : List String) :
  (s.compileAll strict ds).2 = .exit 0 ∨
    ∃ d ∈ ds, ∃ f, (Cylinder.compile strict d).outcome = .error f ∧
      ((f.isRejection = true ∧
          ∃ s' : Shell, s.compileAll strict ds = (s'.log (rejection d f), .exit 1)) ∨
        (f.isRejection = false ∧ (s.compileAll strict ds).2 = .escaped f))
  := by
  induction ds generalizing s with
  | nil => apply Or.inl rfl
  | cons d ds ih =>
    unfold compileAll
    cases h : (Cylinder.compile strict d : Traced Float (Cylinder Float)).outcome with
    | ok c =>
      simp only [h]
      rcases ih _ with hexit | ⟨d', hd', hf⟩
      · apply Or.inl hexit
      · exact .inr ⟨d', List.mem_cons_of_mem d hd', hf⟩
    | error f =>
      refine .inr ⟨d, List.mem_cons_self, f, h, ?_⟩
      simp only [h]
      cases hf : f.isRejection with
      | true => exact .inl ⟨rfl, _, rfl⟩
      | false => exact .inr ⟨rfl, rfl⟩

end CommandLine.Shell

namespace Cylinder

open CommandLine

/-- Every descriptor is compiled, with a half-space for every plane, or rejected, unless one of its
normals has no unit normal.  The command line accordingly compiles all descriptors, reports a
rejected one and ends with status 1, or lets the failure of a normal escape. -/
theorem compile_or_reject (strict : Bool) :
  (∀ descriptor,
    (∃ c : Cylinder Float, (compile strict descriptor).outcome = .ok c ∧
      c.bounds.length = c.spec.planes.length) ∨
    ∃ f : Fault Float, (compile strict descriptor).outcome = .error f ∧
      (f.isRejection = true ∨
        f.isRejection = false ∧ ∃ v, IsNormalOf strict descriptor v ∧ v.unitNormal = .error f)) ∧
  ∀ (s : Shell) (ds : List String),
    (s.compileAll strict ds).2 = .exit 0 ∨
    ∃ d ∈ ds, ∃ f : Fault Float, (compile strict d).outcome = .error f ∧
      ((∃ s' : Shell, s.compileAll strict ds = (s'.log (Shell.rejection d f), .exit 1)) ∨
        ∃ v, IsNormalOf strict d v ∧ v.unitNormal = .error f ∧
          (s.compileAll strict ds).2 = .escaped f)
  := by
  constructor
  · intro descriptor
    cases h : (compile strict descriptor : Traced Float (Cylinder Float)).outcome with
    | ok c =>
      rw [outcome_compile] at h
      obtain ⟨d, -, h⟩ := Outcome.bind_eq_ok_iff.mp h
      obtain ⟨s, -, h⟩ := Outcome.bind_eq_ok_iff.mp h
      exact .inl ⟨c, rfl, length_bounds_of_assemble h⟩
    | error f =>
      refine .inr ⟨f, rfl, ?_⟩
      rcases compile_eq_error h with hf | ⟨v, hv, hf⟩
      · apply Or.inl hf
      · exact .inr ⟨Vec3.isRejection_of_unitNormal hf, v, hv, hf⟩
  · intro s ds
    rcases Shell.compileAll_cases strict s ds with h | ⟨d, hd, f, h, hreject | ⟨hf, hescaped⟩⟩
    · apply Or.inl h
    · exact .inr ⟨d, hd, f, h, .inl hreject.2⟩
    · refine .inr ⟨d, hd, f, h, .inr ?_⟩
      rcases compile_eq_error h with hf' | ⟨v, hv, hf'⟩
      · rw [hf] at hf'
        cases hf'
      · exact ⟨v, hv, hf', hescaped⟩

/-- The square of a coordinate of a normal that is written in a descriptor can be too large. -/
theorem compile_escapes :
  (compile false "Cylinder: r(1e200,0,0)<1" : Traced Float (Cylinder Float)).outcome
      = .error (.geometry .overflow) ∧
    Fault.isRejection (K := Float) (.geometry .overflow) = false
  := by
  have hforms : Clause.formsOf "r(1e200,0,0)<1" = [.radialBound .lt "r(1e200,0,0)<1"] := by
    decide +kernel
  obtain ⟨p, hp, heval⟩ : ∃ p, (Token.scanPlane (Text.trim "r(1e200,0,0)<1").toList).bind
      PlaneExpr.ofTokens? = some p ∧ p.eval = .ok ((⟨1e200, 0, 0⟩ : Vec3 Float), .lt, 1) :=
    ⟨⟨⟨.numeral ⟨.whole 1 [], some ⟨false, none, 2, [0, 0]⟩⟩, .numeral ⟨.whole 0 [], none⟩,
      .numeral ⟨.whole 0 [], none⟩⟩, .lt, .numeral ⟨.whole 1 [], none⟩⟩, by cbv, by decide +kernel⟩
  have hzero : (⟨1e200, 0, 0⟩ : Vec3 Float).isZero = .error (.geometry .overflow) := by
    decide +kernel
  have hfinite : (Scalar.isFinite (1 : Float) &&
      (⟨1e200, 0, 0⟩ : Vec3 Float).toList.all Scalar.isFinite) = true := by
    decide +kernel
  have hplane : (evaluatePlane "r(1e200,0,0)<1" : Traced Float (Plane Float)).outcome
      = .error (.geometry .overflow) := by
    rw [outcome_evaluatePlane, evaluateAs_of_parse (by cbv) hp, heval]
    simp only [Outcome.mapError_ok, Outcome.ok_bind, hfinite, if_true, boundary, hzero,
      Outcome.error_bind]
  have hparse : Descriptor.parse (K := Float) "Cylinder: r(1e200,0,0)<1"
      = .ok ⟨"Cylinder", "r(1e200,0,0)<1"⟩ := by
    cbv
  refine ⟨?_, rfl⟩
  rw [outcome_compile, hparse, Outcome.ok_bind, CylinderSpec.outcome_interpret, hforms]
  simp [ClauseForm.change, hplane]

end Cylinder

end ClippedCylinder
