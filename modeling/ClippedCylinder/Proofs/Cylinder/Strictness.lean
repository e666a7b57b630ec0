import Mathlib
import ClippedCylinder.Proofs.Cylinder.Rejection
import ClippedCylinder.Proofs.Text.Fields

/-!
# Unknown clauses

Unknown clauses are skipped or, in a strict interpretation, refused.  The strict interpretation
demands a change of every clause (`Clause.demand`), the lenient one only of the known clauses.  So
the two differ only if there are unknown clauses, and the first of them is refused exactly if all
clauses before it have values (`Clause.IsRefused`).  The steps that follow the interpretation refuse
no clause, so the same relation holds between compiled descriptors (`IsStrictVersion.bind`).  The
known clauses of a section, joined again, make up a section that is read as the whole one is when
its unknown clauses are skipped (`Clause.ofProperties_knownPart`).
-/

namespace ClippedCylinder

variable {K : Type} [Scalar K]

/-! ### Known clauses -/

namespace Clause

omit [Scalar K] in
theorem kind_eq_unknown_iff (clause : Clause) :
  clause.kind = .unknown ↔ clause.form = none
  := by
  obtain ⟨text, form⟩ := clause
  cases form with
  | none => simp [kind]
  | some form => cases form <;> simp [kind, ClauseForm.kind]

/-- The clauses of a section that are known, joined by semicolons. -/
def knownPart (properties : String) : String :=
  ";".intercalate (((ofProperties properties).filter fun clause => clause.kind != .unknown).map text)

/-- The known clauses of a section are read back when they are joined. -/
theorem ofProperties_knownPart (properties : String) :
  ofProperties (knownPart properties)
    = (ofProperties properties).filter fun clause => clause.kind != .unknown
  := by
  have htexts : ((ofProperties properties).filter fun clause => clause.kind != .unknown).map text
      = (Text.fields ';' properties).filter fun field => (classify field).kind != .unknown := by
    rw [ofProperties, List.filter_map, List.map_map]
    apply List.map_id
  have hfields : Text.fields ';' (knownPart properties)
      = (Text.fields ';' properties).filter fun field => (classify field).kind != .unknown := by
    rw [knownPart, htexts]
    apply Text.fields_intercalate
    intro field hfield
    apply Text.isField_of_mem_fields (List.mem_of_mem_filter hfield)
  rw [ofProperties, hfields, ofProperties, List.filter_map]
  rfl

/-- The known clauses of a section have the same forms as all of its clauses. -/
theorem formsOf_knownPart (properties : String) :
  formsOf (knownPart properties) = formsOf properties
  := by
  rw [formsOf, ofProperties_knownPart, List.filterMap_filter, formsOf]
  congr 1
  funext clause
  cases hform : clause.form with
  | none => simp
  | some form =>
    have hkind := mt (kind_eq_unknown_iff clause).mp (by simp [hform])
    simp [hkind]

/-- All clauses of a section are known. -/
def AllKnown (properties : String) : Prop :=
  ∀ clause ∈ ofProperties properties, clause.kind ≠ .unknown

theorem allKnown_knownPart (properties : String) :
  AllKnown (knownPart properties)
  := by
  intro clause hclause
  rw [ofProperties_knownPart, List.mem_filter] at hclause
  simpa using hclause.2

/-! ### Demanded changes -/

/-- The change that a clause makes, which has to be known. -/
def demand (clause : Clause) : Except (Fault K) (Change K) :=
  match clause.form with
  | some form => form.change
  | none => .error (.unknownClause clause.text)

/-- The text is that of the first unknown clause of a section, and all clauses before it have
values. -/
def IsRefused (K : Type) [Scalar K] (properties text : String) : Prop :=
  ∃ front back, ofProperties properties = front ++ ⟨text, none⟩ :: back ∧
    ∀ clause ∈ front, ∃ form, clause.form = some form ∧ ∃ change : Change K, form.change = .ok change

/-- No known clause is refused as unknown, whatever its value. -/
theorem change_ne_unknownClause (form : ClauseForm) (text : String) :
  (form.change : Except (Fault K) (Change K)) ≠ .error (.unknownClause text)
  := by
  intro h
  rcases form.change_eq_error h with h | ⟨_, v, -, -, h⟩
  · cases h
  · cases Vec3.isRejection_of_unitNormal h

theorem demand_eq_ok_iff {clause : Clause} {change : Change K} :
  clause.demand = .ok change ↔ ∃ form, clause.form = some form ∧ form.change = .ok change
  := by
  unfold demand
  cases clause.form with
  | none => simp
  | some form => simp

theorem demand_eq_unknownClause_iff {clause : Clause} {text : String} :
  (clause.demand : Except (Fault K) (Change K)) = .error (.unknownClause text)
    ↔ clause = ⟨text, none⟩
  := by
  obtain ⟨text', form⟩ := clause
  cases form with
  | none => simp [demand]
  | some form => simp [demand, change_ne_unknownClause]

/-- The demand on a section fails on an unknown clause exactly if that one is refused. -/
theorem mapM_demand_eq_unknownClause_iff {properties text : String} :
  ((ofProperties properties).mapM demand : Except (Fault K) (List (Change K)))
      = .error (.unknownClause text) ↔ IsRefused K properties text
  := by
  rw [Outcome.mapM_eq_error_iff]
  simp only [demand_eq_unknownClause_iff, demand_eq_ok_iff]
  constructor
  · rintro ⟨front, clause, back, hclauses, hfront, rfl⟩
    refine ⟨front, back, hclauses, ?_⟩
    intro clause hclause
    obtain ⟨change, form, hform, hchange⟩ := hfront clause hclause
    exact ⟨form, hform, change, hchange⟩
  · rintro ⟨front, back, hclauses, hfront⟩
    refine ⟨front, _, back, hclauses, ?_, rfl⟩
    intro clause hclause
    obtain ⟨form, hform, change, hchange⟩ := hfront clause hclause
    exact ⟨change, form, hform, hchange⟩

/-- Known clauses make the changes of their forms. -/
theorem mapM_demand_of_known {clauses : List Clause}
    (h : ∀ clause ∈ clauses, clause.kind ≠ .unknown) :
  (clauses.mapM demand : Except (Fault K) (List (Change K)))
    = (clauses.filterMap form).mapM ClauseForm.change
  := by
  induction clauses with
  | nil => rfl
  | cons clause clauses ih =>
    rw [List.forall_mem_cons] at h
    obtain ⟨form, hform⟩ := Option.ne_none_iff_exists'.mp
      (mt (kind_eq_unknown_iff clause).mpr h.1)
    rw [List.filterMap_cons_some hform, List.mapM_cons, List.mapM_cons, ih h.2, demand, hform]

theorem allKnown_of_mapM_demand {properties : String} {changes : List (Change K)}
    (h : (ofProperties properties).mapM demand = .ok changes) :
  AllKnown properties
  := by
  intro clause hclause hunknown
  obtain ⟨change, hchange⟩ := Outcome.exists_mapM_eq_ok_iff.mp ⟨changes, h⟩ clause hclause
  obtain ⟨form, hform, -⟩ := demand_eq_ok_iff.mp hchange
  rw [(kind_eq_unknown_iff clause).mp hunknown] at hform
  cases hform

/-- If no unknown clause is refused, either there is none, or a known clause before it fails. -/
theorem mapM_demand_of_not_isRefused {properties : String}
    (h : ∀ text, ¬ IsRefused K properties text) :
  ((ofProperties properties).mapM demand : Except (Fault K) (List (Change K)))
    = (formsOf properties).mapM ClauseForm.change
  := by
  cases hfind : (ofProperties properties).find? fun clause => clause.kind == .unknown with
  | none =>
    apply mapM_demand_of_known
    simpa using hfind
  | some clause =>
    obtain ⟨hunknown, front, back, hclauses, hfront⟩ := List.find?_eq_some_iff_append.mp hfind
    obtain ⟨text, hclause⟩ : ∃ text, clause = ⟨text, none⟩ := by
      use clause.text
      rw [← (kind_eq_unknown_iff clause).mp (by simpa using hunknown)]
    have hknown : ∀ clause ∈ front, clause.kind ≠ .unknown := by simpa using hfront
    have hdemand := mapM_demand_of_known (K := K) hknown
    rw [formsOf, hclauses, List.filterMap_append, List.mapM_append, List.mapM_append, ← hdemand]
    cases hfails : (front.mapM demand : Except (Fault K) (List (Change K))) with
    | error f => rfl
    | ok changes =>
      refine absurd (mapM_demand_eq_unknownClause_iff.mp ?_) (h text)
      rw [hclauses, List.mapM_append, hfails, Outcome.ok_bind, List.mapM_cons,
        demand_eq_unknownClause_iff.mpr hclause]
      rfl

end Clause

/-! ### Strict outcomes -/

/-- The first outcome is the second one, except that the unknown clauses of a section are refused:
it is a value only if there are none, and it is the refusal of the first one exactly if all clauses
before it have values. -/
structure IsStrictVersion {α : Type} (properties : String) (strict lenient : Except (Fault K) α) :
    Prop where
  eq_ok_iff : ∀ a, strict = .ok a ↔ Clause.AllKnown properties ∧ lenient = .ok a
  eq_unknownClause_iff : ∀ text,
    strict = .error (.unknownClause text) ↔ Clause.IsRefused K properties text
  eq_of_not_isRefused : (∀ text, ¬ Clause.IsRefused K properties text) → strict = lenient

/-- Steps that refuse no clause do not change how outcomes differ. -/
theorem IsStrictVersion.bind {α β : Type} {properties : String} {strict lenient : Except (Fault K) α}
    (h : IsStrictVersion properties strict lenient) {f : α → Except (Fault K) β}
    (hf : ∀ a text, f a ≠ .error (.unknownClause text)) :
  IsStrictVersion properties (strict >>= f) (lenient >>= f)
  := by
  constructor
  · intro b
    simp only [Outcome.bind_eq_ok_iff, h.eq_ok_iff, and_assoc, exists_and_left]
  · intro text
    simp only [Outcome.bind_eq_error_iff, h.eq_unknownClause_iff, hf, and_false, exists_false,
      or_false]
  · intro hrefused
    rw [h.eq_of_not_isRefused hrefused]

namespace CylinderSpec

/-- A strict interpretation makes the changes of all clauses, one after the other, if it can demand
them. -/
theorem outcome_interpret_strict (s : CylinderSpec K) (properties : String) :
  (s.interpret true properties).outcome
    = (Clause.ofProperties properties).mapM Clause.demand >>= fun changes =>
        .ok (changes.foldl changed s)
  := by
  unfold interpret
  induction Clause.ofProperties properties generalizing s with
  | nil => rfl
  | cons clause clauses ih =>
    rw [List.foldlM_cons, Traced.outcome_bind, applyClause, List.mapM_cons, Clause.demand]
    cases clause.form with
    | none => rfl
    | some form => simp [ih, outcome_apply, bind_assoc]

/-- Without unknown clauses it does not matter whether they are refused. -/
theorem interpret_of_allKnown (s : CylinderSpec K) {properties : String}
    (h : Clause.AllKnown properties) :
  (s.interpret true properties).outcome = (s.interpret false properties).outcome
  := by
  rw [outcome_interpret_strict, outcome_interpret, Clause.mapM_demand_of_known h]
  rfl

theorem interpret_isStrictVersion (s : CylinderSpec K) (properties : String) :
  IsStrictVersion properties (s.interpret true properties).outcome
    (s.interpret false properties).outcome
  := by
  rw [outcome_interpret_strict, outcome_interpret]
  constructor
  · intro s'
    simp only [Outcome.bind_eq_ok_iff]
    constructor
    · rintro ⟨changes, hchanges, hs'⟩
      have hknown := Clause.allKnown_of_mapM_demand hchanges
      rw [Clause.mapM_demand_of_known hknown] at hchanges
      exact ⟨hknown, changes, hchanges, hs'⟩
    · rintro ⟨hknown, h⟩
      rw [Clause.mapM_demand_of_known hknown]
      apply h
  · intro text
    rw [Outcome.bind_eq_error_iff, Clause.mapM_demand_eq_unknownClause_iff]
    simp
  · intro hrefused
    rw [Clause.mapM_demand_of_not_isRefused hrefused]

end CylinderSpec

namespace Cylinder

/-- No clause is refused once the clauses are interpreted. -/
theorem assemble_ne_unknownClause (typeName : String) (s : CylinderSpec K) (text : String) :
  (assemble typeName s).outcome ≠ .error (.unknownClause text)
  := by
  intro h
  rcases assemble_eq_error h with h | ⟨v, -, h⟩
  · cases h
  · cases Vec3.isRejection_of_unitNormal h

theorem compile_isStrictVersion {descriptor : String} {d : Descriptor}
    (h : Descriptor.parse (K := K) descriptor = .ok d) :
  IsStrictVersion d.properties (compile true descriptor : Traced K (Cylinder K)).outcome
    (compile false descriptor : Traced K (Cylinder K)).outcome
  := by
  simp only [outcome_compile, h, Outcome.ok_bind]
  apply (CylinderSpec.interpret_isStrictVersion _ _).bind
  intro s text
  apply assemble_ne_unknownClause

/-- The known clauses of a section say the same as the section does when its unknown clauses are
skipped, whether or not unknown clauses are refused.  A strict interpretation of the section itself
differs only in that it refuses an unknown clause that comes before all clauses without a value, and
so does a strict compilation of a descriptor with the section. -/
theorem strict_differs_by_unknown (K : Type) [Scalar K] :
  (∀ (s : CylinderSpec K) (properties : String),
      (s.interpret false (Clause.knownPart properties)).outcome
        = (s.interpret false properties).outcome ∧
      (s.interpret true (Clause.knownPart properties)).outcome
        = (s.interpret false properties).outcome ∧
      IsStrictVersion properties (s.interpret true properties).outcome
        (s.interpret false properties).outcome) ∧
    ∀ descriptor : String,
      (∀ f, Descriptor.parse descriptor = .error f → ∀ strict,
        (compile strict descriptor : Traced K (Cylinder K)).outcome = .error f) ∧
      ∀ d, Descriptor.parse (K := K) descriptor = .ok d →
        IsStrictVersion d.properties (compile true descriptor : Traced K (Cylinder K)).outcome
          (compile false descriptor : Traced K (Cylinder K)).outcome
  := by
  constructor
  · intro s properties
    have hlenient : (s.interpret false (Clause.knownPart properties)).outcome
        = (s.interpret false properties).outcome := by
      rw [CylinderSpec.outcome_interpret, Clause.formsOf_knownPart, CylinderSpec.outcome_interpret]
    refine ⟨hlenient, ?_, CylinderSpec.interpret_isStrictVersion s properties⟩
    rw [CylinderSpec.interpret_of_allKnown s (Clause.allKnown_knownPart properties), hlenient]
  · intro descriptor
    constructor
    · intro f hf strict
      rw [outcome_compile, hf, Outcome.error_bind]
    · intro d hd
      apply compile_isStrictVersion hd

/-- An unknown clause is refused before a clause without a value, and a descriptor without a header
is rejected in the same way whether or not unknown clauses are refused. -/
theorem strict_differs_by_unknown_of_descriptors :
  (compile true "Cylinder: r=1; shade; l=q" : Traced Float (Cylinder Float)).outcome
      = .error (.unknownClause "shade") ∧
    ∀ strict, (compile strict "Cylinder r=1" : Traced Float (Cylinder Float)).outcome
      = .error (.header .noHeader "Cylinder r=1")
  := by
  have hparse : Descriptor.parse (K := Float) "Cylinder: r=1; shade; l=q"
      = .ok ⟨"Cylinder", "r=1; shade; l=q"⟩ := by
    cbv
  have hclauses : Clause.ofProperties "r=1; shade; l=q"
      = [⟨"r=1", some (.radius "1")⟩] ++ ⟨"shade", none⟩ :: [⟨"l=q", some (.length "q")⟩] := by
    cbv
  have hone : (evaluateScalar "1" : Except (Fault Float) Float) = .ok 1 :=
    evaluateScalar_eq_ok_iff.mpr
      ⟨by decide, .numeral ⟨.whole 1 [], none⟩, by cbv, by decide +kernel, by decide +kernel⟩
  obtain ⟨-, h⟩ := strict_differs_by_unknown Float
  constructor
  · apply (((h _).2 _ hparse).eq_unknownClause_iff "shade").mpr
    refine ⟨_, _, hclauses, ?_⟩
    rintro clause hclause
    obtain rfl := List.mem_singleton.mp hclause
    exact ⟨_, rfl, .radius 1, by rw [ClauseForm.change, hone]; rfl⟩
  · apply (h "Cylinder r=1").1
    cbv

end Cylinder

end ClippedCylinder
