import Mathlib
import ClippedCylinder.Proofs.Clause.Classification
import ClippedCylinder.Proofs.Clause.Patterns
import ClippedCylinder.Proofs.Expression.Writing
import ClippedCylinder.Proofs.Exact.Bound

/-!
# The parts of recognised clauses

A recognised clause has a kind, a keyword, an operator and a value.  A text that is made of these
parts is recognised as a clause with the same parts (`Clause.classify_code`), so they say all that
the clause says.  The operator of a half-space, which is found by looking for the first comparator,
is the comparator that the grammar reads and that orients the plane
(`Clause.operator_of_evaluatePlane`).
-/

namespace ClippedCylinder

open Text

/-! ### Texts made of parts -/

/-- A keyword, an operator and a value as a clause of the kind, with a blank between an operator and
a value. -/
def ClauseKind.write (kind : ClauseKind) (key operator value : String) : String :=
  match kind with
  | .axis | .frame => key ++ value
  | .radialBound => value
  | _ => key ++ operator ++ " " ++ value

/-- The text made of the parts of a clause. -/
def Clause.code (c : Clause) : String :=
  c.kind.write c.key c.operator c.value

namespace ClauseForm

variable {form : ClauseForm} {cs content : List Char}

/-- The text made of the parts of a form. -/
def code (form : ClauseForm) : String :=
  form.kind.write form.key form.operator form.value

/-! ### Values that have been read -/

theorem toList_valueText (cs : List Char) :
  (valueText cs).toList = trimChars cs
  := String.toList_ofList

theorem trim_valueText (cs : List Char) :
  trim (valueText cs) = valueText cs
  := by
  rw [trim, toList_valueText, trimChars_trimChars]
  rfl

theorem line_valueText (h : '\n' ∉ content) :
  Pattern.line (valueText content).toList = some (valueText content).toList
  := by
  have hbreak : '\n' ∉ (valueText content).toList := by
    rw [toList_valueText]
    intro hmem
    apply h (mem_of_mem_trimChars hmem)
  rw [Pattern.line_eq (isBlank_getLast_toList (trim_valueText content)), if_neg hbreak]

theorem without_valueText (h : ∀ c ∈ content, c ≠ '<' ∧ c ≠ '>') :
  Pattern.without ['<', '>'] (valueText content).toList = some (valueText content).toList
  := by
  have hnone : (valueText content).toList.any ['<', '>'].contains = false := by
    rw [List.any_eq_false, toList_valueText]
    intro c hc
    simpa using h c (mem_of_mem_trimChars hc)
  rw [Pattern.without, hnone, if_neg Bool.false_ne_true]

theorem enclosed_valueText (hbreak : '\n' ∉ content)
    (hparens : ∃ ds, content = '(' :: (ds ++ [')'])) :
  enclosed (valueText content).toList = some (valueText content)
  := by
  have htrim : (valueText content).toList = content := by
    obtain ⟨ds, rfl⟩ := hparens
    rw [toList_valueText]
    apply trimChars_of_ends
    · rintro c ⟨⟩
      rfl
    · rw [List.getLast?_cons, List.getLast?_concat]
      rintro c ⟨⟩
      rfl
  have hgap : ∀ c ∈ ([] : List Char), isBlank c = true := nofun
  have henclosed := enclosed_append (trim_valueText content) hgap (by rwa [htrim])
  rwa [List.nil_append, if_neg (by rwa [htrim])] at henclosed

/-! ### Reading the parts again -/

section

variable {s : String} (hs : trim s = s)

include hs

theorem blanks_blank {α : Type} {next : Pattern α} {a : α} (h : next s.toList = some a) :
  Pattern.blanks next (' ' :: s.toList) = some a
  := by
  have hblank : ∀ c ∈ [' '], isBlank c = true := by
    intro c hc
    rw [List.mem_singleton.mp hc]
    rfl
  rw [← List.singleton_append, Pattern.blanks_append_eq_some hblank (isBlank_head_toList hs) h]

theorem assigned_blank {value : Pattern (List Char)} (h : value s.toList = some s.toList) :
  assigned value ('=' :: ' ' :: s.toList) = some s
  := by
  rw [assigned, Pattern.blanks_of_head (isBlank_head_equals _), Pattern.char, if_pos rfl,
    blanks_blank hs h, Option.map_some, valueText_toList hs]

/-- After a blank a bound may even have an empty value: the blank is its line then. -/
theorem boundValue_blank (k : Coordinate) (comparator : Comparator)
    (h : Pattern.line s.toList = some s.toList) :
  boundValue k comparator (' ' :: s.toList) = some (axisBound k comparator s)
  := by
  by_cases hne : s.toList = []
  · obtain rfl : s = "" := String.toList_eq_nil_iff.mp hne
    rfl
  · have hline : Pattern.nonemptyLine s.toList = some s.toList := by
      simp [Pattern.nonemptyLine, h, hne]
    rw [boundValue]
    apply blanks_blank hs
    rw [hline, Option.map_some, valueText_toList hs]

end

/-- The parts of a form are read from the text that is made of them. -/
theorem ofChars?_code (h : ofChars? cs = some form) :
  ofChars? form.code.toList = some form
  := by
  cases isReadFrom_of_ofChars? h with
  | @origin k gap rest content _ hcontent =>
    have hcode : (code (origin k (valueText content))).toList
        = k.name.toList ++ '=' :: ' ' :: (valueText content).toList := by
      simp [code, kind, ClauseKind.write, key, operator, value]
    rw [hcode, ofChars?_coordinate,
      assigned_blank (trim_valueText content) (line_valueText hcontent)]
    rfl
  | @halfExtent k rest content hcontent =>
    have hcode : (code (halfExtent k (valueText content))).toList
        = 'd' :: (k.name.toList ++ '=' :: ' ' :: (valueText content).toList) := by
      simp [code, kind, ClauseKind.write, key, operator, value]
    rw [hcode, ofChars?_halfExtent,
      assigned_blank (trim_valueText content) (line_valueText hcontent)]
    rfl
  | @radius rest content _ hcontent =>
    have hcode : (code (radius (valueText content))).toList
        = 'r' :: '=' :: ' ' :: (valueText content).toList := by
      simp [code, kind, ClauseKind.write, key, operator, value]
    rw [hcode, ofChars?_r, assigned_blank (trim_valueText content) (without_valueText hcontent)]
    rfl
  | @length rest content hcontent =>
    have hcode : (code (length (valueText content))).toList
        = 'l' :: '=' :: ' ' :: (valueText content).toList := by
      simp [code, kind, ClauseKind.write, key, operator, value]
    rw [hcode, ofChars?_length, assigned_blank (trim_valueText content) (line_valueText hcontent)]
    rfl
  | @axis rest content hcontent hparens =>
    have hcode : (code (axis (valueText content))).toList
        = 'a' :: 'x' :: 'i' :: 's' :: (valueText content).toList := by
      simp [code, kind, ClauseKind.write, key, value]
    rw [hcode, ofChars?_axis, enclosed_valueText hcontent hparens]
    rfl
  | @radialBound comparator rest _ =>
    have hcode : (code (radialBound comparator (String.ofList ('r' :: rest)))).toList
        = 'r' :: rest := String.toList_ofList
    -- The value is the whole text.
    rw [hcode, h]
  | @frame k rest content hcontent hparens =>
    have hcode : (code (frame k (valueText content))).toList
        = 'a' :: '_' :: (k.name.toList ++ (valueText content).toList) := by
      simp [code, kind, ClauseKind.write, key, value]
    rw [hcode, ofChars?_frame, enclosed_valueText hcontent hparens]
    rfl
  | @axisBound k comparator gap rest content _ hcontent =>
    have hcode : (code (axisBound k comparator (valueText content))).toList
        = k.name.toList ++ (comparator.chars ++ ' ' :: (valueText content).toList) := by
      simp [code, kind, ClauseKind.write, key, operator, value, Comparator.text]
    have hvalue (c : Comparator) :=
      boundValue_blank (trim_valueText content) k c (line_valueText hcontent)
    -- After the blank a bound is read in any case, so the comparator takes none of the value.
    rw [hcode, ofChars?_comparator k comparator, hvalue]
    · rintro c ⟨⟩
      decide
    · intro c c' hnone
      rw [hvalue] at hnone
      cases hnone

end ClauseForm

theorem Clause.code_eq {c : Clause} {form : ClauseForm} (h : c.form = some form) :
  c.code = form.code
  := by
  simp [code, kind, key, operator, value, h, ClauseForm.code]

/-- The text that is made of the parts of a recognised clause is recognised as a clause with the
same parts. -/
theorem Clause.classify_code (text : String) (h : (classify text).kind ≠ .unknown) :
  (classify (classify text).code).kind = (classify text).kind ∧
    (classify (classify text).code).key = (classify text).key ∧
    (classify (classify text).code).operator = (classify text).operator ∧
    (classify (classify text).code).value = (classify text).value
  := by
  have hform : (classify (classify text).code).form = (classify text).form := by
    cases hform : (classify text).form with
    | none => exact absurd (by simp [kind, hform]) h
    | some form =>
      rw [code_eq hform]
      apply ClauseForm.ofChars?_code hform
  simp [kind, key, operator, value, hform]

/-- An equals sign that is the value of a bound is no part of its comparator when read again. -/
theorem Clause.classify_code_of_equals :
  (classify "x<=\n").kind ≠ .unknown ∧ (classify "x<=\n").code = "x< =" ∧
    (classify "x< =").operator = "<" ∧ (classify "x< =").value = "="
  := by
  have hkind : (classify "x<=\n").kind ≠ .unknown := by decide
  have hcode : (classify "x<=\n").code = "x< =" := by decide
  obtain ⟨-, -, hoperator, hvalue⟩ := classify_code "x<=\n" hkind
  rw [hcode] at hoperator hvalue
  exact ⟨hkind, hcode, hoperator.trans (by decide), hvalue.trans (by decide)⟩

/-! ### The comparator of a half-space -/

/-- The only comparator in the text of a half-space stands between the texts of the vector and of
the value. -/
theorem PlaneExpr.exists_split_of_text {s : String} (hs : trim s = s) {p : PlaneExpr}
    (h : (Token.scanPlane s.toList).bind ofTokens? = some p) :
  ∃ before after, s.toList = 'r' :: (before ++ (p.comparator.chars ++ after)) ∧
    (∀ c ∈ before ++ after, c ≠ '<' ∧ c ≠ '>') ∧
    (Token.scan before).bind Expr.tripleOfTokens? = some p.normal ∧
    (Token.scan after).bind Expr.ofTokens? = some p.value
  := by
  obtain ⟨d, hd, rfl⟩ := exists_derivation_of_parse (c := .plane)
    PlaneExpr.ofTokens?_eq_some_iff Token.layout_of_scanPlane h
  cases d with
  | plane normal comparator value =>
  obtain ⟨cs, hcs, hlayout⟩ := hd.exists_eq_append (isBlank_head_toList hs)
  obtain ⟨before, after, rfl, hbefore, hafter⟩ := hlayout.exists_append_cons
  refine ⟨before, after, hcs, ?_, ?_, ?_⟩
  · intro c hc
    rcases List.mem_append.mp hc with hc | hc
    · apply hbefore.ne_of_mem (normal.isComparator_of_mem nofun) hc
    · apply hafter.ne_of_mem (value.isComparator_of_mem nofun) hc
  · rw [hbefore.scan normal.isSeparable, Option.bind_some]
    apply Expr.tripleOfTokens?_eq_some_iff.mpr ⟨normal, rfl, rfl⟩
  · rw [hafter.scan value.isSeparable, Option.bind_some]
    apply Expr.ofTokens?_eq_some_iff.mpr ⟨.scalar value, rfl, rfl⟩

/-- Evaluation keeps the comparator. -/
theorem PlaneExpr.comparator_eq_of_eval {K : Type} [Scalar K] {p : PlaneExpr} {normal : Vec3 K}
    {comparator : Comparator} {value : K} (h : p.eval = .ok (normal, comparator, value)) :
  p.comparator = comparator
  := by
  obtain ⟨v, -, h⟩ := Outcome.bind_eq_ok_iff.mp h
  obtain ⟨x, -, h⟩ := Outcome.bind_eq_ok_iff.mp h
  have hvalues := Except.ok.inj h
  rw [Prod.mk.injEq, Prod.mk.injEq] at hvalues
  apply hvalues.2.1

/-- The boundary has the direction of the normal, and its anchor lies in this direction. -/
theorem exists_unit_of_boundary {K : Type} [Scalar K] {source : String} {normal : Vec3 K}
    {offset : K} {plane : Plane K} (h : boundary source normal offset = .ok plane) :
  ∃ unit, normal.normalize = .ok unit ∧ plane = ⟨Point.zero.move (unit.scale offset), unit⟩
  := by
  obtain ⟨isZero, -, h⟩ := Outcome.bind_eq_ok_iff.mp h
  split at h
  · cases h
  · obtain ⟨unit, hunit, h⟩ := Outcome.bind_eq_ok_iff.mp h
    obtain ⟨isZero', -, h⟩ := Outcome.bind_eq_ok_iff.mp h
    split at h
    · cases h
    · exact ⟨unit, hunit, (Except.ok.inj h).symm⟩

/-- A bound above is anchored at the opposite of its value. -/
theorem Comparator.offset_of_text {K : Type} [Scalar K] (c : Comparator) (value : K) :
  ((c.text = "<" ∨ c.text = "<=") → c.offset value = value) ∧
    ((c.text = ">" ∨ c.text = ">=") → c.offset value = -value)
  := by
  cases c with
  | lt => exact ⟨fun _ => rfl, fun h => absurd h (by decide)⟩
  | le => exact ⟨fun _ => rfl, fun h => absurd h (by decide)⟩
  | gt => exact ⟨fun h => absurd h (by decide), fun _ => rfl⟩
  | ge => exact ⟨fun h => absurd h (by decide), fun _ => rfl⟩

/-- The operator of a half-space whose plane is evaluated is the comparator that the grammar reads
after the vector, and the plane lies on the side of the origin that this operator tells: its anchor
is the multiple of the unit normal by the value for the operators below, and by the opposite of the
value for the operators above. -/
theorem Clause.operator_of_evaluatePlane {K : Type} [Scalar K] {text : String} {plane : Plane K}
    (htrim : trim text = text) (hkind : (classify text).kind = .radialBound)
    (h : (evaluatePlane text).outcome = .ok plane) :
  ∃ (p : PlaneExpr) (before after : List Char) (normal : Vec3 K) (value : K),
    text.toList = 'r' :: (before ++ (p.comparator.chars ++ after)) ∧
    (∀ c ∈ before ++ after, c ≠ '<' ∧ c ≠ '>') ∧
    (Token.scan before).bind Expr.tripleOfTokens? = some p.normal ∧
    (Token.scan after).bind Expr.ofTokens? = some p.value ∧
    (Token.scanPlane text.toList).bind PlaneExpr.ofTokens? = some p ∧
    p.eval = .ok (normal, p.comparator, value) ∧
    boundary text normal (p.comparator.offset value) = .ok plane ∧
    (classify text).operator = p.comparator.text ∧
    ∃ unit, normal.normalize = .ok unit ∧ plane.normal = unit ∧
      ((classify text).operator = "<" ∨ (classify text).operator = "<=" →
        plane.anchor = Point.zero.move (unit.scale value)) ∧
      ((classify text).operator = ">" ∨ (classify text).operator = ">=" →
        plane.anchor = Point.zero.move (unit.scale (-value)))
  := by
  rw [outcome_evaluatePlane, Outcome.bind_eq_ok_iff] at h
  obtain ⟨⟨normal, comparator, value⟩, hvalues, hplane⟩ := h
  obtain ⟨-, p, hp, heval⟩ := evaluateAs_eq_ok_iff.mp hvalues
  rw [htrim] at hp
  obtain rfl := PlaneExpr.comparator_eq_of_eval heval
  have hboundary : boundary text normal (p.comparator.offset value) = .ok plane := by
    dsimp only at hplane
    split at hplane
    · rwa [htrim] at hplane
    · cases hplane
  have hoperator : (classify text).operator = p.comparator.text := by
    have hform := ClauseForm.ofChars?_radialBound htrim (by rwa [htrim])
    -- A text with a line break is unknown.
    split at hform
    · rw [kind, classify, hform] at hkind
      cases hkind
    · rw [operator, classify, hform]
      rfl
  obtain ⟨before, after, htext, hsigns, hnormal, hvalue⟩ :=
    PlaneExpr.exists_split_of_text htrim hp
  obtain ⟨unit, hunit, rfl⟩ := exists_unit_of_boundary hboundary
  obtain ⟨hbelow, habove⟩ := p.comparator.offset_of_text value
  refine ⟨p, before, after, normal, value, htext, hsigns, hnormal, hvalue, hp, heval, hboundary,
    hoperator, unit, hunit, rfl, ?_, ?_⟩
  · intro h
    rw [hbelow (hoperator ▸ h)]
  · intro h
    rw [habove (hoperator ▸ h)]

/-- The comparator of a bound above, after a blank. -/
theorem Clause.operator_of_evaluatePlane_above :
  trim "r(1,0,0) >=2" = "r(1,0,0) >=2" ∧ (classify "r(1,0,0) >=2").kind = .radialBound ∧
    ∃ plane : Plane ℝ, (evaluatePlane "r(1,0,0) >=2").outcome = .ok plane ∧
      ∃ (p : PlaneExpr) (normal : Vec3 ℝ) (value : ℝ),
        p.eval = .ok (normal, p.comparator, value) ∧
        boundary "r(1,0,0) >=2" normal (p.comparator.offset value) = .ok plane ∧
        p.comparator.text = ">=" ∧
        plane.anchor = Point.zero.move (plane.normal.scale (-value))
  := by
  have htrim : trim "r(1,0,0) >=2" = "r(1,0,0) >=2" := by cbv
  have hkind : (classify "r(1,0,0) >=2").kind = .radialBound := by decide +kernel
  have hoperator : (classify "r(1,0,0) >=2").operator = ">=" := by decide +kernel
  have hnormal : Scalar.epsilon < (⟨Numeral.value ⟨.whole 1 [], none⟩,
      Numeral.value ⟨.whole 0 [], none⟩, Numeral.value ⟨.whole 0 [], none⟩⟩ : Vec3 ℝ).norm := by
    rw [(Vec3.norm_eq_one_iff _).mpr]
    · apply Scalar.epsilon_lt_one
    · simp [Numeral.value_digit, Vec3.dot_eq]
  obtain ⟨plane, hplane⟩ : ∃ plane : Plane ℝ, (evaluatePlane "r(1,0,0) >=2").outcome = .ok plane :=
    ⟨_, evaluatePlane_eq_ok_iff.mpr
      ⟨by cbv, _, _, _, Numeral.value ⟨.whole 2 [], none⟩, by cbv, rfl, hnormal, rfl⟩⟩
  obtain ⟨p, -, -, normal, value, -, -, -, -, -, heval, hboundary, hcomparator, unit, -, rfl, -,
    hanchor⟩ := operator_of_evaluatePlane htrim hkind hplane
  refine ⟨htrim, hkind, plane, hplane, p, normal, value, heval, hboundary, ?_,
    hanchor (.inr hoperator)⟩
  rw [← hcomparator, hoperator]

end ClippedCylinder
