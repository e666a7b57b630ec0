import Mathlib
import ClippedCylinder.Clause.Classify
import ClippedCylinder.Proofs.Clause.Interpretation
import ClippedCylinder.Proofs.Expression.Writing
import ClippedCylinder.Proofs.Text.Pattern
import ClippedCylinder.Scalar.Double

/-!
# Clauses with accepted values

Clauses are recognised by patterns and values are read by the grammar.  The two agree on all values
on a single line, whatever blanks they have: a clause that is spelled with a value that the grammar
accepts is recognised as what it is (`classify_spelling`).  On values with line breaks, which are
gaps for the grammar, they differ.  Only a radius may have such a value; any other clause is unknown
then.
-/

namespace ClippedCylinder

open Text

/-! ### Texts that have values -/

/-- Comparators are derived in planes only. -/
theorem Derivation.isComparator_of_mem {c : Category} (d : Derivation c) (hc : c ≠ .plane) :
  ∀ t ∈ d.tokens, t.isComparator = false
  := by
  induction d with
  | plane => exact absurd rfl hc
  | _ => simp_all [tokens, Token.isComparator, or_imp]

theorem isBlank_head_toList {s : String} (hs : trim s = s) :
  ∀ c ∈ s.toList.head?, isBlank c = false
  := by
  rw [← trimChars_toList hs]
  apply isBlank_head_trimChars

theorem isBlank_getLast_toList {s : String} (hs : trim s = s) :
  ∀ c ∈ s.toList.getLast?, isBlank c = false
  := by
  rw [← trimChars_toList hs]
  apply isBlank_getLast_trimChars

section

variable {K : Type} [Scalar K]

/-- The text of a number is a text of tokens without comparators. -/
theorem exists_layout_of_evaluateScalar {s : String} (hs : trim s = s) {x : K}
    (h : evaluateScalar s = .ok x) :
  s.toList ≠ [] ∧ ∃ ts, Token.Layout ts s.toList ∧ ∀ t ∈ ts, t.isComparator = false
  := by
  obtain ⟨hne, -⟩ := evaluateScalar_eq_ok_iff.mp h
  rw [hs] at hne
  obtain ⟨d, hlayout, -⟩ := exists_derivation_of_evaluateScalar hs h
  exact ⟨by simpa using hne, d.tokens, hlayout, d.isComparator_of_mem (by simp)⟩

/-- The text of a vector starts and ends with parentheses. -/
theorem exists_eq_of_evaluateVector {s : String} (hs : trim s = s) {v : Vec3 K}
    (h : evaluateVector s = .ok v) :
  ∃ cs, s.toList = '(' :: (cs ++ [')'])
  := by
  obtain ⟨d, hd, -⟩ := exists_derivation_of_evaluateVector hs h
  cases d with
  | vector x y z =>
  have htokens : (Derivation.vector x y z).tokens = .leftParen ::
      (x.tokens ++ .comma :: (y.tokens ++ .comma :: z.tokens) ++ [.rightParen]) := by
    simp [Derivation.tokens]
  rw [htokens] at hd
  obtain ⟨cs, hcs, hlayout⟩ := hd.exists_eq_append (isBlank_head_toList hs)
  obtain ⟨ds, rfl⟩ := hlayout.exists_eq_append_chars fun c hc => by
    apply isBlank_getLast_toList hs
    rw [hcs, List.getLast?_append, hc]
    rfl
  exact ⟨ds, hcs⟩

end

/-- The first comparator of a text is the one before which there is no sign of comparison. -/
theorem ClauseForm.firstComparator?_append {before after : List Char} (comparator : Comparator)
    (hbefore : ∀ c ∈ before, c ≠ '<' ∧ c ≠ '>') (hafter : ∀ c ∈ after.head?, c ≠ '=') :
  firstComparator? (before ++ (comparator.chars ++ after)) = some comparator
  := by
  have hdrop : (before ++ (comparator.chars ++ after)).dropWhile (fun c => c != '<' && c != '>')
      = comparator.chars ++ after := by
    rw [List.dropWhile_append_of_pos]
    · cases comparator <;> rfl
    · intro c hc
      simpa using hbefore c hc
  have hequals : ∀ cs, after ≠ '=' :: cs := by
    rintro cs rfl
    apply hafter '=' rfl rfl
  rw [firstComparator?, hdrop]
  cases comparator <;> simp [Comparator.chars]

/-- The first comparator of a text is that of its tokens. -/
theorem ClauseForm.firstComparator?_of_layout {ts us : List Token} {comparator : Comparator}
    {cs : List Char} (hts : ∀ t ∈ ts, t.isComparator = false)
    (h : Token.Layout (ts ++ .comparator comparator :: us) cs) :
  firstComparator? cs = some comparator
  := by
  obtain ⟨before, after, rfl, hbefore, hafter⟩ := h.exists_append_cons
  apply firstComparator?_append comparator
  · intro c hc
    apply hbefore.ne_of_mem hts hc
  · apply hafter.head_ne_equals

theorem isWordChar_of_isGap {c : Char} (h : Token.isGap c = true) :
  isWordChar c = false
  := by
  simp only [Token.isGap, Bool.or_eq_true, beq_iff_eq] at h
  rcases h with (((rfl | rfl) | rfl) | rfl) | rfl <;> decide

/-- The text of a plane goes on with a parenthesis after its keyword, and its first comparator is
the one that is read. -/
theorem PlaneExpr.exists_eq_of_text {s : String} (hs : trim s = s) {p : PlaneExpr}
    (h : (Token.scanPlane (trim s).toList).bind ofTokens? = some p) :
  ∃ gap cs, s.toList = 'r' :: (gap ++ '(' :: cs) ∧ (∀ c ∈ gap, Token.isGap c = true) ∧
    ClauseForm.firstComparator? (gap ++ '(' :: cs) = some p.comparator
  := by
  rw [hs] at h
  obtain ⟨d, hd, rfl⟩ := exists_derivation_of_parse (c := .plane)
    PlaneExpr.ofTokens?_eq_some_iff Token.layout_of_scanPlane h
  cases d with
  | plane normal comparator value =>
  obtain ⟨ds, hds, hlayout⟩ := hd.exists_eq_append (isBlank_head_toList hs)
  have hcomparator :=
    ClauseForm.firstComparator?_of_layout (normal.isComparator_of_mem (by simp)) hlayout
  cases normal with
  | vector x y z =>
  cases hlayout with
  | @cons gap cs _ _ hgap _ _ => exact ⟨gap, cs, hds, hgap, hcomparator⟩

namespace ClauseForm

/-! ### Parts of patterns -/

/-- The value after the comparator of a bound on a coordinate. -/
def boundValue (k : Coordinate) (comparator : Comparator) : Pattern ClauseForm :=
  Pattern.blanks fun rest =>
    (Pattern.nonemptyLine rest).map fun v => axisBound k comparator (valueText v)

/-- A comparator is read with its equals sign, and without it only if that way fails. -/
theorem compared_append {α : Type} {next : Comparator → Pattern α} {cs : List Char}
    (hequals : ∀ c ∈ cs.head?, c ≠ '=')
    (hnext : ∀ k k', next k cs = none → next k' ('=' :: cs) = none) (comparator : Comparator) :
  compared next (comparator.chars ++ cs) = next comparator cs
  := by
  have hor (k k' : Comparator) : (next k cs).or (next k' ('=' :: cs)) = next k cs := by
    cases h : next k cs with
    | none => rw [Option.none_or, hnext k k' h]
    | some a => rfl
  cases comparator with
  | lt =>
    change Pattern.optional '=' (fun orEqual => next (if orEqual then .le else .lt)) cs = _
    rw [Pattern.optional_of_head hequals]
    rfl
  | le => apply hor
  | gt =>
    change Pattern.optional '=' (fun orEqual => next (if orEqual then .ge else .gt)) cs = _
    rw [Pattern.optional_of_head hequals]
    rfl
  | ge => apply hor

theorem isBlank_head_equals (cs : List Char) :
  ∀ c ∈ ('=' :: cs).head?, isBlank c = false
  := by
  rintro c ⟨⟩
  rfl

theorem valueText_toList {s : String} (hs : trim s = s) :
  valueText s.toList = s
  := by
  rw [valueText, trimChars_toList hs, String.ofList_toList]

section

variable {s : String} (hs : trim s = s)

include hs

theorem assigned_equals (value : Pattern (List Char)) :
  assigned value ('=' :: s.toList) = (value s.toList).map valueText
  := by
  rw [assigned, Pattern.blanks_of_head (isBlank_head_equals _), Pattern.char, if_pos rfl,
    Pattern.blanks_of_head (isBlank_head_toList hs)]

theorem assigned_line :
  assigned Pattern.line ('=' :: s.toList) = if '\n' ∈ s.toList then none else some s
  := by
  rw [assigned_equals hs, Pattern.line_eq (isBlank_getLast_toList hs)]
  split
  · rfl
  · rw [Option.map_some, valueText_toList hs]

theorem assigned_without (hne : ∀ c ∈ s.toList, c ≠ '<' ∧ c ≠ '>') :
  assigned (Pattern.without ['<', '>']) ('=' :: s.toList) = some s
  := by
  have hnone : s.toList.any ['<', '>'].contains = false := by
    rw [List.any_eq_false]
    intro c hc
    simpa using hne c hc
  rw [assigned_equals hs, Pattern.without, hnone, if_neg Bool.false_ne_true, Option.map_some,
    valueText_toList hs]

/-- A vector may stand after blanks. -/
theorem enclosed_append {gap : List Char} (hgap : ∀ c ∈ gap, isBlank c = true)
    (hparens : ∃ cs, s.toList = '(' :: (cs ++ [')'])) :
  enclosed (gap ++ s.toList) = if '\n' ∈ s.toList then none else some s
  := by
  have hhead := isBlank_head_toList hs
  have hlast := isBlank_getLast_toList hs
  have hnext (front : List Char) (hfront : ∀ c ∈ front, isBlank c = true) :
      Pattern.optional '=' (fun _ => Pattern.blanks Pattern.parenthesized) (front ++ s.toList)
        = Pattern.blanks Pattern.parenthesized (front ++ s.toList) := by
    apply Pattern.optional_of_head
    rintro c hc rfl
    cases front with
    | nil =>
      obtain ⟨cs, hcs⟩ := hparens
      rw [hcs] at hc
      cases hc
    | cons c front =>
      obtain rfl := Option.some.inj hc
      cases hfront _ List.mem_cons_self
  rw [enclosed]
  split
  · rename_i hbreak
    rw [Pattern.blanks_append_eq_none hhead]
    · rfl
    intro front hfront
    rw [hnext front fun c hc => hgap c (hfront.mem hc)]
    apply Pattern.blanks_append_eq_none hhead
    intro front' hfront'
    apply Pattern.parenthesized_eq_none
    · intro c hc
      obtain ⟨cs, hcs⟩ := hparens
      apply hlast
      rw [hcs] at hc ⊢
      simpa [List.getLast?_append, List.getLast?_cons] using hc
    · apply List.mem_append_right _ hbreak
  · rename_i hbreak
    have hline : Pattern.parenthesized s.toList = some s.toList := by
      rw [Pattern.parenthesized_eq hparens, if_neg hbreak]
    have hsome := hnext [] nofun
    rw [List.nil_append, Pattern.blanks_of_head hhead, hline] at hsome
    rw [Pattern.blanks_append_eq_some hgap hhead hsome, Option.map_some, valueText_toList hs]

/-- The value of a bound on a coordinate is a single line. -/
theorem boundValue_eq {k : Coordinate} (comparator : Comparator) (hne : s.toList ≠ []) :
  boundValue k comparator s.toList
    = if '\n' ∈ s.toList then none else some (.axisBound k comparator s)
  := by
  rw [boundValue, Pattern.blanks_of_head (isBlank_head_toList hs),
    Pattern.nonemptyLine_eq hne (isBlank_getLast_toList hs)]
  split
  · rfl
  · rw [Option.map_some, valueText_toList hs]

/-- A value with line breaks is no bound with an equals sign before it either. -/
theorem boundValue_equals {k : Coordinate} (comparator : Comparator) (hbreak : '\n' ∈ s.toList) :
  boundValue k comparator ('=' :: s.toList) = none
  := by
  have hlast : ∀ c ∈ ('=' :: s.toList).getLast?, isBlank c = false := by
    intro c hc
    apply isBlank_getLast_toList hs
    cases h : s.toList with
    | nil => simp [h] at hbreak
    | cons d ds => simpa [h, List.getLast?_cons] using hc
  rw [boundValue, Pattern.blanks_of_head (isBlank_head_equals _), Pattern.nonemptyLine_eq (by simp) hlast,
    if_pos (List.mem_cons_of_mem _ hbreak)]
  rfl

end

/-! ### Patterns by their first characters -/

theorem ofChars?_eq (cs : List Char) :
  ofChars? cs =
    (origin? cs).or ((halfExtent? cs).or ((radius? cs).or ((length? cs).or ((axis? cs).or
      ((radialBound? cs).or ((frame? cs).or (axisBound? cs)))))))
  := by
  change ([origin?] ++ ([halfExtent?] ++ ([radius?] ++ ([length?] ++ ([axis?] ++ ([radialBound?] ++
    ([frame?] ++ [axisBound?]))))))).findSome? (· cs) = _
  simp only [List.findSome?_append, List.findSome?_singleton]

/-- A coordinate name begins an assignment or a bound. -/
theorem ofChars?_coordinate (k : Coordinate) (cs : List Char) :
  ofChars? (k.name.toList ++ cs) =
    ((assigned Pattern.line cs).map (origin k)).or (Pattern.blanks (compared (boundValue k)) cs)
  := by
  have horigin : origin? (k.name.toList ++ cs) = (assigned Pattern.line cs).map (origin k) := by
    rw [Option.map_eq_bind]
    cases k <;> rfl
  rw [ofChars?_eq, horigin]
  cases k <;> rfl

/-- A coordinate name and a comparator begin a bound. -/
theorem ofChars?_comparator (k : Coordinate) (comparator : Comparator) {cs : List Char}
    (hequals : ∀ c ∈ cs.head?, c ≠ '=')
    (hnext : ∀ c c', boundValue k c cs = none → boundValue k c' ('=' :: cs) = none) :
  ofChars? (k.name.toList ++ (comparator.chars ++ cs)) = boundValue k comparator cs
  := by
  have hhead : ∀ c ∈ (comparator.chars ++ cs).head?, isBlank c = false ∧ c ≠ '=' := by
    cases comparator <;> (rintro c ⟨⟩; decide)
  have horigin : assigned Pattern.line (comparator.chars ++ cs) = none := by
    have hnone : Pattern.blanks (Pattern.char '=' (Pattern.blanks Pattern.line))
        ([] ++ (comparator.chars ++ cs)) = none :=
      Pattern.blanks_char_append_eq_none rfl nofun hhead
    rw [List.nil_append] at hnone
    rw [assigned, hnone]
    rfl
  rw [ofChars?_coordinate, horigin, Option.map_none, Option.none_or,
    Pattern.blanks_of_head fun c hc => (hhead c hc).1, compared_append hequals hnext]

theorem ofChars?_halfExtent (k : Lateral) (cs : List Char) :
  ofChars? ('d' :: (k.name.toList ++ cs)) = (assigned Pattern.line cs).map (halfExtent k)
  := by
  rw [ofChars?_eq, Option.map_eq_bind]
  cases k <;> apply Option.or_none

theorem ofChars?_r (cs : List Char) :
  ofChars? ('r' :: cs) =
    ((assigned (Pattern.without ['<', '>']) cs).map radius).or (radialBound? ('r' :: cs))
  := by
  rw [ofChars?_eq]
  change (radius? ('r' :: cs)).or ((radialBound? ('r' :: cs)).or none) = _
  rw [Option.or_none]
  rfl

theorem ofChars?_length (cs : List Char) :
  ofChars? ('l' :: cs) = (assigned Pattern.line cs).map length
  := by
  rw [ofChars?_eq]
  apply Option.or_none

theorem ofChars?_axis (cs : List Char) :
  ofChars? ('a' :: 'x' :: 'i' :: 's' :: cs) = (enclosed cs).map axis
  := by
  rw [ofChars?_eq]
  apply Option.or_none

theorem ofChars?_frame (k : Lateral) (cs : List Char) :
  ofChars? ('a' :: '_' :: (k.name.toList ++ cs)) = (enclosed cs).map (frame k)
  := by
  rw [ofChars?_eq, Option.map_eq_bind]
  cases k <;> apply Option.or_none

/-! ### Assignments and bounds -/

section

variable {s : String} (hs : trim s = s)

include hs

theorem ofChars?_origin (k : Coordinate) :
  ofChars? (k.name.toList ++ '=' :: s.toList)
    = if '\n' ∈ s.toList then none else some (origin k s)
  := by
  rw [ofChars?_coordinate, assigned_line hs, Pattern.blanks_of_head (isBlank_head_equals _)]
  split
  · rfl
  · rfl

theorem ofChars?_axisBound (k : Coordinate) (comparator : Comparator) (hne : s.toList ≠ [])
    (hequals : ∀ c ∈ s.toList.head?, c ≠ '=') :
  ofChars? (k.name.toList ++ (comparator.chars ++ s.toList))
    = if '\n' ∈ s.toList then none else some (axisBound k comparator s)
  := by
  have hnext (c c' : Comparator) (h : boundValue k c s.toList = none) :
      boundValue k c' ('=' :: s.toList) = none := by
    rw [boundValue_eq hs c hne] at h
    apply boundValue_equals hs
    by_contra hbreak
    rw [if_neg hbreak] at h
    cases h
  rw [ofChars?_comparator k comparator hequals hnext, boundValue_eq hs comparator hne]

end

/-- A plane on a single line is recognised, with its comparator. -/
theorem ofChars?_radialBound {text : String} (htrim : trim text = text) {p : PlaneExpr}
    (h : (Token.scanPlane (trim text).toList).bind PlaneExpr.ofTokens? = some p) :
  ofChars? text.toList =
    if '\n' ∈ text.toList then none else some (radialBound p.comparator text)
  := by
  obtain ⟨gap, cs, htext, hgap, hcomparator⟩ := PlaneExpr.exists_eq_of_text htrim h
  have hradius : assigned (Pattern.without ['<', '>']) (gap ++ '(' :: cs) = none := by
    have hparen : ∀ c ∈ ('(' :: cs).head?, isBlank c = false ∧ c ≠ '=' := by
      rintro c ⟨⟩
      decide
    rw [assigned, Pattern.blanks_char_append_eq_none rfl
      (fun c hc => Token.isBlank_of_isGap (hgap c hc)) hparen]
    rfl
  have hends : endsWord (gap ++ '(' :: cs) = true := by
    cases gap with
    | nil =>
      have hword : isWordChar '(' = false := by decide
      simp [endsWord, hword]
    | cons c gap =>
      have hword := isWordChar_of_isGap (hgap c List.mem_cons_self)
      simp [endsWord, hword]
  have hline : Pattern.line (gap ++ '(' :: cs)
      = if '\n' ∈ text.toList then none else some (gap ++ '(' :: cs) := by
    rw [Pattern.line_eq, htext]
    · simp
    · intro c hc
      apply isBlank_getLast_toList htrim
      rw [htext]
      simpa [List.getLast?_cons] using hc
  rw [htext, ofChars?_r, hradius, Option.map_none, Option.none_or, radialBound?, hends, hline,
    ← htext]
  split
  · rfl
  · simp [hcomparator]

/-! ### Spelled clauses -/

/-- The text of a clause of the form, with a gap before a vector. -/
def spelling (gap : String) (form : ClauseForm) : String :=
  match form with
  | axis value | frame _ value => form.key ++ gap ++ value
  | radialBound _ text => text
  | _ => form.key ++ form.operator ++ form.value

/-- The grammar accepts the value of the form, and the comparator of a plane is the one that is
read. -/
def HasValue (K : Type) [Scalar K] : ClauseForm → Prop
  | axis value | frame _ value => ∃ v : Vec3 K, evaluateVector value = .ok v
  | radialBound comparator text => (∃ plane : Plane K, (evaluatePlane text).outcome = .ok plane) ∧
      ∃ p, (Token.scanPlane (trim text).toList).bind PlaneExpr.ofTokens? = some p ∧
        p.comparator = comparator
  | form => ∃ x : K, evaluateScalar form.value = .ok x

/-- A value with line breaks is no part of a clause, unless it is a radius. -/
def IsBroken (form : ClauseForm) : Prop :=
  '\n' ∈ form.value.toList ∧ form.kind ≠ .radius

instance (form : ClauseForm) : Decidable form.IsBroken :=
  inferInstanceAs (Decidable (_ ∧ _))

/-- A clause that is spelled with a value is recognised as what it is, unless it is broken. -/
theorem ofChars?_spelling {K : Type} [Scalar K] {form : ClauseForm}
    (htrim : trim form.value = form.value) (h : form.HasValue K) (gap : String)
    (hgap : ∀ c ∈ gap.toList, isBlank c = true) :
  ofChars? (form.spelling gap).toList = if form.IsBroken then none else some form
  := by
  unfold IsBroken
  cases form with
  | origin k s =>
    have hspelling : (spelling gap (origin k s)).toList = k.name.toList ++ '=' :: s.toList := by
      simp [spelling, key, operator, value]
    rw [hspelling, ofChars?_origin (s := s) htrim]
    simp [value, kind]
  | halfExtent k s =>
    have hspelling : (spelling gap (halfExtent k s)).toList
        = 'd' :: (k.name.toList ++ '=' :: s.toList) := by
      simp [spelling, key, operator, value]
    rw [hspelling, ofChars?_halfExtent, assigned_line (s := s) htrim]
    simp [value, kind, apply_ite (Option.map _)]
  | radius s =>
    obtain ⟨x, hx⟩ := h
    obtain ⟨-, ts, hlayout, hts⟩ := exists_layout_of_evaluateScalar (s := s) htrim hx
    have hspelling : (spelling gap (radius s)).toList = 'r' :: '=' :: s.toList := by
      simp [spelling, key, operator, value]
    rw [hspelling, ofChars?_r, assigned_without (s := s) htrim fun c => hlayout.ne_of_mem hts]
    simp [kind]
  | length s =>
    have hspelling : (spelling gap (length s)).toList = 'l' :: '=' :: s.toList := by
      simp [spelling, key, operator, value]
    rw [hspelling, ofChars?_length, assigned_line (s := s) htrim]
    simp [value, kind, apply_ite (Option.map _)]
  | axis s =>
    obtain ⟨v, hv⟩ := h
    have hspelling : (spelling gap (axis s)).toList
        = 'a' :: 'x' :: 'i' :: 's' :: (gap.toList ++ s.toList) := by
      simp [spelling, key]
    rw [hspelling, ofChars?_axis,
      enclosed_append (s := s) htrim hgap (exists_eq_of_evaluateVector htrim hv)]
    simp [value, kind, apply_ite (Option.map _)]
  | radialBound k s =>
    obtain ⟨-, p, hp, rfl⟩ := h
    change trim s = s at htrim
    rw [spelling, ofChars?_radialBound htrim hp]
    simp [value, kind]
  | frame k s =>
    obtain ⟨v, hv⟩ := h
    have hspelling : (spelling gap (frame k s)).toList
        = 'a' :: '_' :: (k.name.toList ++ (gap.toList ++ s.toList)) := by
      simp [spelling, key]
    rw [hspelling, ofChars?_frame,
      enclosed_append (s := s) htrim hgap (exists_eq_of_evaluateVector htrim hv)]
    simp [value, kind, apply_ite (Option.map _)]
  | axisBound k comparator s =>
    obtain ⟨x, hx⟩ := h
    obtain ⟨hne, ts, hlayout, -⟩ := exists_layout_of_evaluateScalar (s := s) htrim hx
    have hspelling : (spelling gap (axisBound k comparator s)).toList
        = k.name.toList ++ (comparator.chars ++ s.toList) := by
      simp [spelling, key, operator, value, Comparator.text]
    rw [hspelling, ofChars?_axisBound (s := s) htrim k comparator hne hlayout.head_ne_equals]
    simp [value, kind]

end ClauseForm

/-- A clause that is spelled with a value that the grammar accepts is recognised as what it is and
makes its change, unless the value has a line break and is no radius.  Then the clause is unknown:
it is skipped, or refused if the interpretation is strict. -/
theorem classify_spelling {K : Type} [Scalar K] {form : ClauseForm}
    (htrim : trim form.value = form.value) (h : form.HasValue K) (gap : String)
    (hgap : ∀ c ∈ gap.toList, isBlank c = true) :
  (Clause.classify (form.spelling gap)).form = (if form.IsBroken then none else some form) ∧
    ∀ (strict : Bool) (s : CylinderSpec K),
      (s.applyClause strict (Clause.classify (form.spelling gap))).outcome =
        if form.IsBroken then
          if strict then .error (.unknownClause (form.spelling gap)) else .ok s
        else form.change >>= fun change => .ok (s.changed change)
  := by
  have hform : (Clause.classify (form.spelling gap)).form =
      if form.IsBroken then none else some form := ClauseForm.ofChars?_spelling htrim h gap hgap
  use hform
  intro strict s
  unfold CylinderSpec.applyClause
  rw [hform]
  by_cases hbroken : form.IsBroken
  · rw [if_pos hbroken, if_pos hbroken]
    cases strict <;> rfl
  · rw [if_neg hbroken, if_neg hbroken]
    apply CylinderSpec.outcome_apply

theorem classify_spelling_of_values :
  (Clause.classify "x=1\n+1").form = none ∧
    (Clause.classify "axis\t(0,\r0 ,1)").form = some (.axis "(0,\r0 ,1)")
  := by
  have horigin : (ClauseForm.origin .x "1\n+1").HasValue Float :=
    ⟨2, evaluateScalar_eq_ok_iff.mpr ⟨by decide, .binary .add (.numeral ⟨.whole 1 [], none⟩)
      (.numeral ⟨.whole 1 [], none⟩), by cbv, by decide +kernel, by decide +kernel⟩⟩
  have haxis : (ClauseForm.axis "(0,\r0 ,1)").HasValue Float :=
    ⟨⟨0, 0, 1⟩, evaluateVector_eq_ok_iff.mpr ⟨by decide, ⟨.numeral ⟨.whole 0 [], none⟩,
      .numeral ⟨.whole 0 [], none⟩, .numeral ⟨.whole 1 [], none⟩⟩, by cbv, by decide +kernel,
      by decide +kernel⟩⟩
  have hgap : ∀ c ∈ "\t".toList, isBlank c = true := by
    rintro c hc
    obtain rfl := List.mem_singleton.mp hc
    rfl
  have hbroken := (classify_spelling (by decide) horigin "" (by simp)).1
  have hspelled := (classify_spelling (by decide) haxis "\t" hgap).1
  have hx : (ClauseForm.origin .x "1\n+1").spelling "" = "x=1\n+1" := by decide
  have ha : (ClauseForm.axis "(0,\r0 ,1)").spelling "\t" = "axis\t(0,\r0 ,1)" := by decide
  rw [hx, if_pos (by decide)] at hbroken
  rw [ha, if_neg (by decide)] at hspelled
  exact ⟨hbroken, hspelled⟩

/-- A coordinate whose value has a line break is skipped, though its value is in order. -/
theorem classify_broken_line :
  trim "1\n+1" = "1\n+1" ∧ (evaluateScalar "1\n+1" : Except (Fault Float) Float) = .ok 2 ∧
    (Clause.classify "x=1\n+1").kind = .unknown ∧ (Clause.classify "r=1\n+1").kind = .radius ∧
    (CylinderSpec.initial.interpret false "x=1\n+1" : Traced Float (CylinderSpec Float)).outcome
      = .ok CylinderSpec.initial
  := by
  refine ⟨by decide, ?_, by decide, by decide, ?_⟩
  · apply evaluateScalar_eq_ok_iff.mpr
    exact ⟨by decide, .binary .add (.numeral ⟨.whole 1 [], none⟩) (.numeral ⟨.whole 1 [], none⟩),
      by cbv, by decide +kernel, by decide +kernel⟩
  · have hforms : Clause.formsOf "x=1\n+1" = [] := by decide
    rw [CylinderSpec.outcome_interpret, hforms]
    rfl

end ClippedCylinder
