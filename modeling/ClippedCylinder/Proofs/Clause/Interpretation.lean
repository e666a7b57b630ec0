import Mathlib
import ClippedCylinder.Clause.Interpret
import ClippedCylinder.Proofs.Exact.Bound

/-!
# Property sections slot by slot

A clause whose value is known changes the cylinder described so far: it writes some slots and
leaves the others as they are, or adds a plane (`Change`).  One change sets each slot to what it
writes there (`get_changed`), so after all changes each slot holds what was written last
(`isLastWritten_foldl_changed`).  The slots are thus decided one by one, and clauses that do not
write a common slot may change places (`interpret_slotwise`).
-/

namespace ClippedCylinder

variable {K : Type}

/-! ### Slots -/

/-- The slots of a described cylinder, apart from its planes. -/
inductive Slot where
  | origin (c : Coordinate)
  | halfExtent (c : Lateral)
  | halfLength
  | axis
  | frame (c : Lateral)
deriving DecidableEq, Repr

/-- What a slot holds. -/
abbrev Slot.Content (K : Type) : Slot → Type
  | origin _ | halfExtent _ | halfLength => K
  | axis => Vec3 K
  | frame _ => Option (Vec3 K)

namespace CylinderSpec

/-- The content of a slot. -/
def get (s : CylinderSpec K) : (i : Slot) → i.Content K
  | .origin c => s.origin.toVec.get c
  | .halfExtent .x => s.dx
  | .halfExtent .y => s.dy
  | .halfLength => s.dz
  | .axis => s.axis
  | .frame .x => s.frameX
  | .frame .y => s.frameY

/-- The slots and the planes are all there is of a description. -/
theorem ext_get {s t : CylinderSpec K} (h : ∀ i, s.get i = t.get i) (hplanes : s.planes = t.planes) :
  s = t
  := by
  obtain ⟨⟨x, y, z⟩, dx, dy, dz, axis, frameX, frameY, planes⟩ := s
  obtain ⟨⟨x', y', z'⟩, dx', dy', dz', axis', frameX', frameY', planes'⟩ := t
  obtain rfl : x = x' := h (.origin .x)
  obtain rfl : y = y' := h (.origin .y)
  obtain rfl : z = z' := h (.origin .z)
  obtain rfl : dx = dx' := h (.halfExtent .x)
  obtain rfl : dy = dy' := h (.halfExtent .y)
  obtain rfl : dz = dz' := h .halfLength
  obtain rfl : axis = axis' := h .axis
  obtain rfl : frameX = frameX' := h (.frame .x)
  obtain rfl : frameY = frameY' := h (.frame .y)
  obtain rfl : planes = planes' := hplanes
  rfl

end CylinderSpec

/-! ### Changes -/

/-- What a clause does once its value is known. -/
inductive Change (K : Type) where
  /-- Sets a coordinate of the centre. -/
  | origin (c : Coordinate) (x : K)
  /-- Sets a half width. -/
  | halfExtent (c : Lateral) (x : K)
  /-- Sets both half widths. -/
  | radius (x : K)
  /-- Sets the half length. -/
  | length (x : K)
  /-- Sets the direction of the length. -/
  | axis (v : Vec3 K)
  /-- Sets a frame vector. -/
  | frame (c : Lateral) (v : Vec3 K)
  /-- Adds a plane. -/
  | bound (plane : Plane K)

namespace Change

/-- What a change writes to a slot, if it writes there. -/
def content : Change K → (i : Slot) → Option (i.Content K)
  | origin c x, .origin c' => if c' = c then some x else none
  | halfExtent c x, .halfExtent c' => if c' = c then some x else none
  | radius x, .halfExtent _ => some x
  | length x, .halfLength => some x
  | axis v, .axis => some v
  | frame c v, .frame c' => if c' = c then some (some v) else none
  | _, _ => none

end Change

namespace CylinderSpec

/-- The description after a change. -/
def changed (s : CylinderSpec K) : Change K → CylinderSpec K
  | .origin c x => { s with origin := s.origin.set c x }
  | .halfExtent c x => s.setHalfExtent c x
  | .radius x => { s with dx := x, dy := x }
  | .length x => { s with dz := x }
  | .axis v => { s with axis := v }
  | .frame c v => s.setFrame c v
  | .bound plane => s.clip plane

/-- A change sets the slots that it writes and no others. -/
theorem get_changed (s : CylinderSpec K) (change : Change K) (i : Slot) :
  (s.changed change).get i = (change.content i).getD (s.get i)
  := by
  cases change with
  | origin c x => cases c <;> rcases i with ⟨⟨⟩⟩ | ⟨⟨⟩⟩ | _ | _ | ⟨⟨⟩⟩ <;> rfl
  | halfExtent c x => cases c <;> rcases i with ⟨⟨⟩⟩ | ⟨⟨⟩⟩ | _ | _ | ⟨⟨⟩⟩ <;> rfl
  | radius x => rcases i with ⟨⟨⟩⟩ | ⟨⟨⟩⟩ | _ | _ | ⟨⟨⟩⟩ <;> rfl
  | length x => rcases i with ⟨⟨⟩⟩ | ⟨⟨⟩⟩ | _ | _ | ⟨⟨⟩⟩ <;> rfl
  | axis v => rcases i with ⟨⟨⟩⟩ | ⟨⟨⟩⟩ | _ | _ | ⟨⟨⟩⟩ <;> rfl
  | frame c v => cases c <;> rcases i with ⟨⟨⟩⟩ | ⟨⟨⟩⟩ | _ | _ | ⟨⟨⟩⟩ <;> rfl
  | bound plane => rcases i with ⟨⟨⟩⟩ | ⟨⟨⟩⟩ | _ | _ | ⟨⟨⟩⟩ <;> rfl

end CylinderSpec

/-! ### Clauses -/

namespace ClauseForm

/-- The slots that clauses of the form write. -/
def slots : ClauseForm → List Slot
  | origin c _ => [.origin c]
  | halfExtent c _ => [.halfExtent c]
  | radius _ => [.halfExtent .x, .halfExtent .y]
  | length _ => [.halfLength]
  | axis _ => [.axis]
  | frame c _ => [.frame c]
  | radialBound _ _ | axisBound _ _ _ => []

/-- Whether clauses of the form add planes. -/
def isBound : ClauseForm → Bool
  | radialBound _ _ | axisBound _ _ _ => true
  | _ => false

/-- Every clause that is recognised does something. -/
theorem exists_mem_slots_or_isBound (form : ClauseForm) :
  (∃ i, i ∈ form.slots) ∨ form.isBound = true
  := by
  cases form with
  | radialBound _ _ => exact .inr rfl
  | axisBound _ _ _ => exact .inr rfl
  | _ => exact .inl ⟨_, List.mem_cons_self⟩

variable [Scalar K]

/-- The change that a clause of the form makes: the value of its text, with its slot. -/
def change : ClauseForm → Except (Fault K) (Change K)
  | origin c value => return .origin c (← evaluateScalar value)
  | halfExtent c value => return .halfExtent c (← evaluateScalar value)
  | radius value => return .radius (← evaluateScalar value)
  | length value => return .length (← evaluateScalar value)
  | axis value => return .axis (← evaluateVector value)
  | frame c value => return .frame c (← evaluateVector value)
  | radialBound _ text => return .bound (← (evaluatePlane text).outcome)
  | axisBound c comparator value => return .bound (← (boundPlane c comparator.text value).outcome)

theorem isSome_content {form : ClauseForm} {change : Change K} (h : form.change = .ok change)
    (i : Slot) :
  (change.content i).isSome = true ↔ i ∈ form.slots
  := by
  cases form
  all_goals
    obtain ⟨x, -, ⟨⟩⟩ := Outcome.bind_eq_ok_iff.mp h
    rcases i with ⟨⟨⟩⟩ | ⟨⟨⟩⟩ | _ | _ | ⟨⟨⟩⟩
  all_goals simp [Change.content, slots]

/-- A change adds a plane or none, as the form of its clause says. -/
theorem planes_changed {form : ClauseForm} {change : Change K} (h : form.change = .ok change)
    (s : CylinderSpec K) :
  (form.isBound = true ∧ ∃ plane, change = .bound plane) ∨
    (form.isBound = false ∧ (s.changed change).planes = s.planes)
  := by
  cases form with
  | radialBound comparator text =>
    obtain ⟨plane, -, ⟨⟩⟩ := Outcome.bind_eq_ok_iff.mp h
    exact .inl ⟨rfl, plane, rfl⟩
  | axisBound c comparator value =>
    obtain ⟨plane, -, ⟨⟩⟩ := Outcome.bind_eq_ok_iff.mp h
    exact .inl ⟨rfl, plane, rfl⟩
  | halfExtent c value =>
    obtain ⟨x, -, ⟨⟩⟩ := Outcome.bind_eq_ok_iff.mp h
    cases c <;> exact .inr ⟨rfl, rfl⟩
  | frame c value =>
    obtain ⟨x, -, ⟨⟩⟩ := Outcome.bind_eq_ok_iff.mp h
    cases c <;> exact .inr ⟨rfl, rfl⟩
  | _ =>
    obtain ⟨x, -, ⟨⟩⟩ := Outcome.bind_eq_ok_iff.mp h
    exact .inr ⟨rfl, rfl⟩

end ClauseForm

/-- The forms of the clauses of a property section that are recognised. -/
def Clause.formsOf (properties : String) : List ClauseForm :=
  (ofProperties properties).filterMap form

namespace CylinderSpec

variable [Scalar K]

theorem outcome_apply (s : CylinderSpec K) (form : ClauseForm) :
  (s.apply form).outcome = form.change >>= fun change => .ok (s.changed change)
  := by
  cases form <;> simp [apply, ClauseForm.change, changed]

/-- The clauses of a section change a description one after the other if all of them that are
recognised have values. -/
theorem outcome_foldlM_applyClause (s : CylinderSpec K) (clauses : List Clause) :
  (clauses.foldlM (applyClause false) s).outcome
    = (clauses.filterMap Clause.form).mapM ClauseForm.change >>= fun changes =>
        .ok (changes.foldl changed s)
  := by
  induction clauses generalizing s with
  | nil => rfl
  | cons clause clauses ih =>
    rw [List.foldlM_cons, Traced.outcome_bind, applyClause]
    cases h : clause.form with
    | none =>
      rw [List.filterMap_cons_none h]
      simp [ih]
    | some form =>
      rw [List.filterMap_cons_some h, List.mapM_cons]
      simp [ih, outcome_apply, bind_assoc]

theorem outcome_interpret (s : CylinderSpec K) (properties : String) :
  (s.interpret false properties).outcome
    = (Clause.formsOf properties).mapM ClauseForm.change >>= fun changes =>
        .ok (changes.foldl changed s)
  := outcome_foldlM_applyClause s (Clause.ofProperties properties)

/-! ### Sections -/

/-- The content `x` of the slot `i` is what the last of the clauses that write the slot says, or
what the description holds there if no clause writes it. -/
def IsLastWritten (s : CylinderSpec K) (forms : List ClauseForm) (i : Slot) (x : i.Content K) :
    Prop :=
  match (forms.filter (i ∈ ·.slots)).getLast? with
  | none => x = s.get i
  | some form => ∃ change, form.change = .ok change ∧ change.content i = some x

/-- The planes are those of the bounds among the clauses, in the order of the clauses. -/
def ArePlanesOf (forms : List ClauseForm) (planes : List (Plane K)) : Prop :=
  (forms.filter ClauseForm.isBound).mapM ClauseForm.change = .ok (planes.map .bound)

theorem IsLastWritten.eq {s : CylinderSpec K} {forms : List ClauseForm} {i : Slot}
    {x y : i.Content K} (hx : IsLastWritten s forms i x) (hy : IsLastWritten s forms i y) :
  x = y
  := by
  unfold IsLastWritten at hx hy
  cases hlast : (forms.filter (i ∈ ·.slots)).getLast? with
  | none =>
    rw [hlast] at hx hy
    apply hx.trans hy.symm
  | some form =>
    rw [hlast] at hx hy
    obtain ⟨c, hc, hcontent⟩ := hx
    obtain ⟨c', hc', hcontent'⟩ := hy
    obtain rfl := Except.ok.inj (hc.symm.trans hc')
    apply Option.some.inj (hcontent.symm.trans hcontent')

theorem ArePlanesOf.eq {forms : List ClauseForm} {planes planes' : List (Plane K)}
    (h : ArePlanesOf forms planes) (h' : ArePlanesOf forms planes') :
  planes = planes'
  := by
  have hinjective : Function.Injective (Change.bound (K := K)) := fun _ _ => Change.bound.inj
  apply List.map_injective_iff.mpr hinjective
  apply Except.ok.inj (h.symm.trans h')

/-- After the changes of all clauses each slot holds what was written there last. -/
theorem isLastWritten_foldl_changed {forms : List ClauseForm} {changes : List (Change K)}
    (h : forms.mapM ClauseForm.change = .ok changes) (s : CylinderSpec K) (i : Slot) :
  IsLastWritten s forms i ((changes.foldl changed s).get i)
  := by
  rw [Outcome.mapM_eq_ok_iff_forall₂] at h
  induction h generalizing s with
  | nil => rfl
  | @cons form change forms changes hchange h ih =>
    have hlast := ih (s.changed change)
    have hwrites := ClauseForm.isSome_content hchange i
    rw [List.foldl_cons]
    unfold IsLastWritten at hlast ⊢
    by_cases hform : i ∈ form.slots
    · rw [List.filter_cons_of_pos (by simpa using hform), List.getLast?_cons]
      split at hlast
      · rename_i hnone
        obtain ⟨x, hx⟩ := Option.isSome_iff_exists.mp (hwrites.mpr hform)
        rw [get_changed, hx, Option.getD_some] at hlast
        rw [hnone, Option.getD_none]
        exact ⟨change, hchange, hx.trans (congrArg some hlast.symm)⟩
      · rename_i hsome
        rw [hsome, Option.getD_some]
        apply hlast
    · rw [List.filter_cons_of_neg (by simpa using hform)]
      have hnone := Option.not_isSome_iff_eq_none.mp (mt hwrites.mp hform)
      rw [get_changed, hnone] at hlast
      apply hlast

/-- After the changes of all clauses the planes of the bounds have been added. -/
theorem planes_foldl_changed {forms : List ClauseForm} {changes : List (Change K)}
    (h : forms.mapM ClauseForm.change = .ok changes) (s : CylinderSpec K) :
  ∃ planes, ArePlanesOf forms planes ∧ (changes.foldl changed s).planes = s.planes ++ planes
  := by
  rw [Outcome.mapM_eq_ok_iff_forall₂] at h
  induction h generalizing s with
  | nil => exact ⟨[], rfl, (List.append_nil _).symm⟩
  | @cons form change forms changes hchange h ih =>
    obtain ⟨planes, hplanes, heq⟩ := ih (s.changed change)
    rw [List.foldl_cons]
    unfold ArePlanesOf at hplanes ⊢
    rcases ClauseForm.planes_changed hchange s with ⟨hform, plane, rfl⟩ | ⟨hform, hsame⟩
    · refine ⟨plane :: planes, ?_, ?_⟩
      · rw [List.filter_cons_of_pos hform, List.mapM_cons, hchange, Outcome.ok_bind, hplanes]
        rfl
      · rw [heq]
        apply List.append_assoc
    · refine ⟨planes, ?_, ?_⟩
      · rw [List.filter_cons_of_neg (by simp [hform]), hplanes]
      · rw [heq, hsame]

/-- What a section says about a cylinder, slot by slot. -/
theorem interpret_eq_ok_iff {s s' : CylinderSpec K} {properties : String} :
  (s.interpret false properties).outcome = .ok s' ↔
    (∀ form ∈ Clause.formsOf properties, ∃ change : Change K, form.change = .ok change) ∧
      (∀ i, IsLastWritten s (Clause.formsOf properties) i (s'.get i)) ∧
      ∃ planes, ArePlanesOf (Clause.formsOf properties) planes ∧ s'.planes = s.planes ++ planes
  := by
  rw [outcome_interpret, Outcome.bind_eq_ok_iff, ← Outcome.exists_mapM_eq_ok_iff]
  constructor
  · rintro ⟨changes, hchanges, ⟨⟩⟩
    exact ⟨⟨changes, hchanges⟩, isLastWritten_foldl_changed hchanges s,
      planes_foldl_changed hchanges s⟩
  · rintro ⟨⟨changes, hchanges⟩, hslots, planes, hplanes, heq⟩
    obtain ⟨planes', hplanes', heq'⟩ := planes_foldl_changed hchanges s
    refine ⟨changes, hchanges, congrArg Except.ok ?_⟩
    apply ext_get
    · intro i
      apply (isLastWritten_foldl_changed hchanges s i).eq (hslots i)
    · rw [heq, heq', hplanes.eq hplanes']

/-- A section has the same meaning as any other in which the clauses for each slot are the same, in
the same order, and so are the bounds. -/
theorem interpret_eq_ok_of_filter_eq {s s' : CylinderSpec K} {properties properties' : String}
    (h : (s.interpret false properties).outcome = .ok s')
    (hslots : ∀ i : Slot, (Clause.formsOf properties').filter (i ∈ ·.slots)
      = (Clause.formsOf properties).filter (i ∈ ·.slots))
    (hbounds : (Clause.formsOf properties').filter ClauseForm.isBound
      = (Clause.formsOf properties).filter ClauseForm.isBound) :
  (s.interpret false properties').outcome = .ok s'
  := by
  obtain ⟨hchange, hget, planes, hplanes, heq⟩ := interpret_eq_ok_iff.mp h
  apply interpret_eq_ok_iff.mpr
  refine ⟨?_, ?_, planes, ?_, heq⟩
  · intro form hform
    apply hchange
    rcases form.exists_mem_slots_or_isBound with ⟨i, hi⟩ | hbound
    · have hmem : form ∈ (Clause.formsOf properties').filter (i ∈ ·.slots) :=
        List.mem_filter.mpr ⟨hform, by simpa using hi⟩
      rw [hslots] at hmem
      apply List.mem_of_mem_filter hmem
    · have hmem := List.mem_filter.mpr ⟨hform, hbound⟩
      rw [hbounds] at hmem
      apply List.mem_of_mem_filter hmem
  · intro i
    have hlast := hget i
    unfold IsLastWritten at hlast ⊢
    rw [hslots]
    apply hlast
  · rw [ArePlanesOf, hbounds, hplanes]

/-- The interpretation of a section fails as the first clause does that has no value. -/
theorem interpret_eq_error_iff {s : CylinderSpec K} {properties : String} {fault : Fault K} :
  (s.interpret false properties).outcome = .error fault ↔
    ∃ front form back, Clause.formsOf properties = front ++ form :: back ∧
      (∀ earlier ∈ front, ∃ change : Change K, earlier.change = .ok change) ∧
      form.change = .error fault
  := by
  rw [outcome_interpret, ← Outcome.mapM_eq_error_iff]
  cases (Clause.formsOf properties).mapM (ClauseForm.change (K := K)) with
  | error e => simp
  | ok changes => simp

/-- A section has a meaning exactly if all of its clauses that are recognised have values.  Then
each slot is decided by the last clause that writes it, the planes of the bounds are added in
order, and the order of the clauses does not matter otherwise.  Without a meaning the section fails
as the first clause without a value does. -/
theorem interpret_slotwise (s : CylinderSpec K) (properties : String) :
  ((∃ s', (s.interpret false properties).outcome = .ok s') ↔
      ∀ form ∈ Clause.formsOf properties, ∃ change : Change K, form.change = .ok change) ∧
    (∀ s', (s.interpret false properties).outcome = .ok s' →
      (∀ i, IsLastWritten s (Clause.formsOf properties) i (s'.get i)) ∧
      (∃ planes, ArePlanesOf (Clause.formsOf properties) planes ∧
        s'.planes = s.planes ++ planes) ∧
      ∀ properties', (∀ i : Slot, (Clause.formsOf properties').filter (i ∈ ·.slots)
            = (Clause.formsOf properties).filter (i ∈ ·.slots)) →
        (Clause.formsOf properties').filter ClauseForm.isBound
            = (Clause.formsOf properties).filter ClauseForm.isBound →
        (s.interpret false properties').outcome = .ok s') ∧
    ∀ fault, (s.interpret false properties).outcome = .error fault ↔
      ∃ front form back, Clause.formsOf properties = front ++ form :: back ∧
        (∀ earlier ∈ front, ∃ change : Change K, earlier.change = .ok change) ∧
        form.change = .error fault
  := by
  refine ⟨?_, ?_, ?_⟩
  · rw [outcome_interpret, ← Outcome.exists_mapM_eq_ok_iff]
    simp [Outcome.bind_eq_ok_iff]
  · intro s' h
    obtain ⟨-, hslots, hplanes⟩ := interpret_eq_ok_iff.mp h
    refine ⟨hslots, hplanes, ?_⟩
    intro properties'
    apply interpret_eq_ok_of_filter_eq h
  · intro fault
    apply interpret_eq_error_iff

/-- Clauses for different slots change places, over the real numbers. -/
theorem interpret_slotwise_of_reordered :
  ∃ s' : CylinderSpec ℝ, (initial.interpret false "r=2; z<3;dx=1").outcome = .ok s' ∧
    (initial.interpret false " z<3;;r=2;dx=1").outcome = .ok s'
  := by
  have hforms : Clause.formsOf "r=2; z<3;dx=1"
      = [.radius "2", .axisBound .z .lt "3", .halfExtent .x "1"] := by
    cbv
  have hreordered : Clause.formsOf " z<3;;r=2;dx=1"
      = [.axisBound .z .lt "3", .radius "2", .halfExtent .x "1"] := by
    cbv
  have hone : (evaluateScalar "1" : Except (Fault ℝ) ℝ)
      = .ok (Numeral.value ⟨.whole 1 [], none⟩) :=
    evaluateScalar_eq_ok_iff.mpr ⟨by decide, .numeral _, by cbv, rfl, rfl⟩
  have htwo : (evaluateScalar "2" : Except (Fault ℝ) ℝ)
      = .ok (Numeral.value ⟨.whole 2 [], none⟩) :=
    evaluateScalar_eq_ok_iff.mpr ⟨by decide, .numeral _, by cbv, rfl, rfl⟩
  have hnormal : Scalar.epsilon < (⟨Numeral.value ⟨.whole 0 [], none⟩,
      Numeral.value ⟨.whole 0 [], none⟩, Numeral.value ⟨.whole 1 [], none⟩⟩ : Vec3 ℝ).norm := by
    rw [(Vec3.norm_eq_one_iff _).mpr]
    · apply Scalar.epsilon_lt_one
    · simp [Numeral.value_digit, Vec3.dot_eq]
  have hplane : ∃ plane : Plane ℝ, (boundPlane .z Comparator.lt.text "3").outcome = .ok plane := by
    have hclause : boundClause .z Comparator.lt.text "3" = "r(0, 0, 1) < 3" := by decide
    simp only [boundPlane, Traced.outcome_bind, Traced.outcome_note, Outcome.ok_bind, hclause]
    exact ⟨_, evaluatePlane_eq_ok_iff.mpr
      ⟨by cbv, _, _, _, Numeral.value ⟨.whole 3 [], none⟩, by cbv, rfl, hnormal, rfl⟩⟩
  obtain ⟨plane, hplane⟩ := hplane
  obtain ⟨hsucceeds, hvalue, -⟩ := interpret_slotwise (K := ℝ) initial "r=2; z<3;dx=1"
  have hchanges : ∀ form ∈ Clause.formsOf "r=2; z<3;dx=1",
      ∃ change : Change ℝ, form.change = .ok change := by
    rw [hforms]
    simp [ClauseForm.change, hone, htwo, hplane]
  obtain ⟨s', h⟩ := hsucceeds.mpr hchanges
  refine ⟨s', h, (hvalue s' h).2.2 _ ?_ ?_⟩
  · rw [hforms, hreordered]
    rintro (⟨⟨⟩⟩ | ⟨⟨⟩⟩ | _ | _ | ⟨⟨⟩⟩) <;> rfl
  · rw [hforms, hreordered]
    rfl

end CylinderSpec

end ClippedCylinder
