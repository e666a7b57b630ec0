import Mathlib
import ClippedCylinder.Cylinder.Basic
import ClippedCylinder.Proofs.Text.Fields
import ClippedCylinder.Scalar.Double

/-!
# Layouts of descriptors

A type name and clauses can be written as a descriptor in many ways: with blanks around them and
around the colon, with empty clauses among them, and in a pair of parentheses or brackets
(`Descriptor.Layout`).  All of them are read as the same type name and the same clauses
(`Descriptor.Layout.parse`), since a pair is removed only where the text starts with it, and a
layout starts with its type name or with a pair around everything else.  So all of them are compiled
in the same way (`Cylinder.compile_layout`).
-/

namespace ClippedCylinder

open Text

namespace Descriptor

/-- The pieces of a property section are clauses with blanks around them, and blanks. -/
inductive Spread : List String → List (List Char) → Prop where
  | nil : Spread [] []
  | blank {clauses : List String} {gap : List Char} {ps : List (List Char)}
      (hgap : ∀ c ∈ gap, isBlank c = true) (h : Spread clauses ps) : Spread clauses (gap :: ps)
  | clause {clauses : List String} {front back : List Char} {ps : List (List Char)}
      (hfront : ∀ c ∈ front, isBlank c = true) (clause : String)
      (hback : ∀ c ∈ back, isBlank c = true) (h : Spread clauses ps) :
      Spread (clause :: clauses) ((front ++ (clause.toList ++ back)) :: ps)

/-- The text is a type name, a colon and clauses separated by semicolons, with blanks around each
of them. -/
inductive OpenLayout (typeName : String) (clauses : List String) : List Char → Prop where
  | mk {front back : List Char} {ps : List (List Char)} (hfront : ∀ c ∈ front, isBlank c = true)
      (hback : ∀ c ∈ back, isBlank c = true) (h : Spread clauses ps) :
      OpenLayout typeName clauses
        (front ++ (typeName.toList ++ (back ++ ':' :: [';'].intercalate ps)))

/-- The text is a type name and clauses laid out in a row, perhaps in one pair of parentheses or
brackets. -/
inductive Layout (typeName : String) (clauses : List String) : List Char → Prop where
  | bare {cs : List Char} (h : OpenLayout typeName clauses cs) : Layout typeName clauses cs
  | enclosed {front back cs : List Char} {opening closing : Char}
      (hfront : ∀ c ∈ front, isBlank c = true) (hback : ∀ c ∈ back, isBlank c = true)
      (hpair : (opening, closing) ∈ [('(', ')'), ('[', ']')])
      (h : OpenLayout typeName clauses cs) :
      Layout typeName clauses (front ++ (opening :: (cs ++ [closing]) ++ back))

/-- A type name and clauses that are read back when they are written as a descriptor. -/
structure IsWritable (typeName : String) (clauses : List String) : Prop where
  isField_typeName : IsField ':' typeName
  not_opening : ∀ c ∈ typeName.toList.head?, c ≠ '(' ∧ c ≠ '['
  isField_clause : ∀ clause ∈ clauses, IsField ';' clause
  clauses_ne_nil : clauses ≠ []

variable {typeName : String} {clauses : List String} {cs : List Char}

/-! ### Clauses -/

theorem Spread.filterMap_field? {ps : List (List Char)} (h : Spread clauses ps)
    (hclauses : ∀ clause ∈ clauses, IsField ';' clause) :
  ps.filterMap field? = clauses
  := by
  induction h with
  | nil => rfl
  | blank hgap h ih => rw [List.filterMap_cons, field?_of_forall hgap, ih hclauses]
  | clause hfront clause hback h ih =>
    rw [List.forall_mem_cons] at hclauses
    rw [List.filterMap_cons, field?_append hfront, field?_append_of_forall hback,
      hclauses.1.field?_toList, ih hclauses.2]

theorem Spread.notMem {ps : List (List Char)} (h : Spread clauses ps)
    (hclauses : ∀ clause ∈ clauses, IsField ';' clause) :
  ∀ p ∈ ps, ';' ∉ p
  := by
  induction h with
  | nil => simp
  | blank hgap h ih =>
    rw [List.forall_mem_cons]
    exact ⟨notMem_of_blank rfl hgap, ih hclauses⟩
  | clause hfront clause hback h ih =>
    rw [List.forall_mem_cons] at hclauses ⊢
    constructor
    · rw [List.mem_append, List.mem_append, not_or, not_or]
      exact ⟨notMem_of_blank rfl hfront, hclauses.1.notMem, notMem_of_blank rfl hback⟩
    · apply ih hclauses.2

/-- Clauses are the fields of every property section in which they are spread. -/
theorem Spread.fields {ps : List (List Char)} (h : Spread clauses ps)
    (hclauses : ∀ clause ∈ clauses, IsField ';' clause) (hne : clauses ≠ []) :
  fields ';' (String.ofList (trimChars ([';'].intercalate ps))) = clauses
  := by
  have hps : ps ≠ [] := by
    rintro rfl
    cases h
    apply hne rfl
  rw [fields_trim rfl, List.splitOn_intercalate _ (h.notMem hclauses) hps,
    h.filterMap_field? hclauses]

/-! ### Headers -/

/-- A type name and what follows it stay when a layout is trimmed, except for blanks at the end. -/
theorem trimChars_header (htype : IsField ':' typeName) {front : List Char}
    (hfront : ∀ c ∈ front, isBlank c = true) (back rest : List Char) :
  trimChars (front ++ (typeName.toList ++ (back ++ ':' :: rest)))
    = typeName.toList ++ (back ++ ':' :: trimRight rest)
  := by
  obtain ⟨c, name, hname, hc⟩ := htype.exists_cons
  have hassoc (rest : List Char) : typeName.toList ++ (back ++ ':' :: rest)
      = typeName.toList ++ back ++ [':'] ++ rest := by
    simp
  rw [trimChars_append hfront, trimChars, trimLeft_of_head, hassoc, trimRight_append, ← hassoc]
  · exact ⟨':', by simp, rfl⟩
  · rw [hname]
    rintro _ ⟨⟩
    apply hc

/-- A layout in a row is read as its type name and its clauses. -/
theorem OpenLayout.split (h : OpenLayout typeName clauses cs)
    (hwritable : IsWritable typeName clauses) :
  ∃ properties, split (trimChars cs) = .ok ⟨typeName, properties⟩ ∧
    fields ';' properties = clauses
  := by
  obtain ⟨hfront, hback, hspread⟩ := h
  rename_i front back ps
  obtain ⟨htype, -, hclauses, hne⟩ := hwritable
  have hfields := hspread.fields hclauses hne
  have hcut : ':' ∉ typeName.toList ++ back := by
    rw [List.mem_append, not_or]
    exact ⟨htype.notMem, notMem_of_blank rfl hback⟩
  have hname : trimChars (typeName.toList ++ back) = typeName.toList := by
    rw [trimChars_append_of_forall hback, trimChars_toList htype.trimmed]
  have htypeName : typeName.toList ≠ [] := by simpa using htype.ne_empty
  have hsection : trimChars ([';'].intercalate ps) ≠ [] := by
    intro hempty
    rw [hempty] at hfields
    apply hne hfields.symm
  refine ⟨_, ?_, hfields⟩
  rw [trimChars_header htype hfront, ← List.append_assoc, Descriptor.split, cut_append hcut]
  simp [hname, htypeName, trimChars_trimRight, hsection]

/-- No pair is removed from a layout in a row. -/
theorem OpenLayout.unwrap (h : OpenLayout typeName clauses cs)
    (hwritable : IsWritable typeName clauses) :
  unwrap (trimChars cs) = trimChars cs
  := by
  obtain ⟨hfront, hback, hspread⟩ := h
  obtain ⟨c, name, hname, -⟩ := hwritable.isField_typeName.exists_cons
  obtain ⟨hround, hsquare⟩ := hwritable.not_opening c (by rw [hname]; rfl)
  rw [trimChars_header hwritable.isField_typeName hfront, hname, List.cons_append,
    Descriptor.unwrap]
  · rintro _ ⟨⟩
    apply hround rfl
  · rintro _ ⟨⟩
    apply hsquare rfl

/-- The pair around a layout is removed. -/
theorem unwrap_enclosed {front back : List Char} {opening closing : Char}
    (hfront : ∀ c ∈ front, isBlank c = true) (hback : ∀ c ∈ back, isBlank c = true)
    (hpair : (opening, closing) ∈ [('(', ')'), ('[', ']')]) (cs : List Char) :
  unwrap (trimChars (front ++ (opening :: (cs ++ [closing]) ++ back))) = trimChars cs
  := by
  rw [List.mem_pair] at hpair
  have hblank : isBlank opening = false ∧ isBlank closing = false := by
    rcases hpair with ⟨⟨⟩⟩ | ⟨⟨⟩⟩
    · exact ⟨rfl, rfl⟩
    · exact ⟨rfl, rfl⟩
  have hends : trimChars (opening :: (cs ++ [closing])) = opening :: (cs ++ [closing]) := by
    apply trimChars_of_ends
    · simpa using hblank.1
    · rw [← List.cons_append, List.getLast?_concat]
      simpa using hblank.2
  rw [trimChars_append hfront, trimChars_append_of_forall hback, hends]
  rcases hpair with ⟨⟨⟩⟩ | ⟨⟨⟩⟩
  · rw [unwrap, if_pos (by simp), List.dropLast_concat]
  · rw [unwrap, if_pos (by simp), List.dropLast_concat]

/-- Every layout is read as its type name and its clauses. -/
theorem Layout.parse {K : Type} {text : String} (h : Layout typeName clauses text.toList)
    (hwritable : IsWritable typeName clauses) :
  ∃ properties, Descriptor.parse (K := K) text = .ok ⟨typeName, properties⟩ ∧
    fields ';' properties = clauses
  := by
  have hunwrap : ∃ cs, OpenLayout typeName clauses cs ∧
      Descriptor.unwrap (trimChars text.toList) = trimChars cs := by
    generalize text.toList = source at h
    cases h with
    | bare h => exact ⟨source, h, h.unwrap hwritable⟩
    | enclosed hfront hback hpair h => exact ⟨_, h, unwrap_enclosed hfront hback hpair _⟩
  obtain ⟨cs, hcs, hunwrap⟩ := hunwrap
  obtain ⟨properties, hsplit, hfields⟩ := hcs.split hwritable
  refine ⟨properties, ?_, hfields⟩
  rw [Descriptor.parse, hunwrap, hsplit]
  rfl

/-! ### Plain layouts -/

/-- A type name and clauses written without blanks. -/
def plain (typeName : String) (clauses : List String) : String :=
  typeName ++ ":" ++ ";".intercalate clauses

theorem spread_map_toList (clauses : List String) :
  Spread clauses (clauses.map String.toList)
  := by
  induction clauses with
  | nil => exact .nil
  | cons clause clauses ih =>
    have h := Spread.clause (List.forall_mem_nil _) clause (List.forall_mem_nil _) ih
    rw [List.nil_append, List.append_nil] at h
    apply h

theorem layout_plain (typeName : String) (clauses : List String) :
  Layout typeName clauses (plain typeName clauses).toList
  := by
  have h : OpenLayout typeName clauses _ :=
    .mk (List.forall_mem_nil _) (List.forall_mem_nil _) (spread_map_toList clauses)
  simpa [plain] using Layout.bare h

end Descriptor

namespace Cylinder

/-- A descriptor is compiled by its type name and its clauses. -/
theorem compile_of_parse {K : Type} [Scalar K] {text properties : String} {typeName : String}
    (h : Descriptor.parse (K := K) text = .ok ⟨typeName, properties⟩) (strict : Bool) :
  (compile strict text : Traced K (Cylinder K)) = do
    let initial := { CylinderSpec.initial with axis := TypeName.axis typeName }
    let s ← ((fields ';' properties).map Clause.classify).foldlM
      (CylinderSpec.applyClause strict) initial
    let c ← assemble typeName s
    Traced.note (.compiled c.typeName s.origin s.extents c.bounds.length)
    return c
  := by
  rw [compile, h]
  rfl

/-- Every layout of a type name and clauses is read as them, and it is compiled as the one without
blanks is. -/
theorem compile_layout (K : Type) [Scalar K] {typeName : String} {clauses : List String}
    (hwritable : Descriptor.IsWritable typeName clauses) {text : String}
    (h : Descriptor.Layout typeName clauses text.toList) :
  (∃ properties, Descriptor.parse (K := K) text = .ok ⟨typeName, properties⟩ ∧
      fields ';' properties = clauses) ∧
    ∀ strict, (compile strict text : Traced K (Cylinder K))
      = compile strict (Descriptor.plain typeName clauses)
  := by
  have hparse := h.parse (K := K) hwritable
  refine ⟨hparse, ?_⟩
  intro strict
  obtain ⟨properties, htext, hfields⟩ := hparse
  obtain ⟨properties', hplain, hfields'⟩ :=
    (Descriptor.layout_plain typeName clauses).parse (K := K) hwritable
  rw [compile_of_parse htext, hfields, compile_of_parse hplain, hfields']

/-- The pair around the first text is removed, and the last clause of the second one keeps its
closing parenthesis. -/
theorem compile_layout_of_texts :
  Descriptor.IsWritable "Cylinder_y" ["r=1", "axis(0,0,1)"] ∧
    Descriptor.Layout "Cylinder_y" ["r=1", "axis(0,0,1)"]
      "\t( Cylinder_y :; r=1 ;\n; axis(0,0,1) ;) ".toList ∧
    Descriptor.Layout "Cylinder_y" ["r=1", "axis(0,0,1)"]
      " Cylinder_y: r=1; axis(0,0,1)".toList ∧
    ∀ strict,
      (compile strict "\t( Cylinder_y :; r=1 ;\n; axis(0,0,1) ;) " : Traced Float (Cylinder Float))
          = compile strict (Descriptor.plain "Cylinder_y" ["r=1", "axis(0,0,1)"]) ∧
        (compile strict " Cylinder_y: r=1; axis(0,0,1)" : Traced Float (Cylinder Float))
          = compile strict (Descriptor.plain "Cylinder_y" ["r=1", "axis(0,0,1)"])
  := by
  have hwritable : Descriptor.IsWritable "Cylinder_y" ["r=1", "axis(0,0,1)"] := by
    constructor
    · exact ⟨by cbv, by decide, by decide⟩
    · rintro _ ⟨⟩
      decide
    · rw [List.forall_mem_cons, List.forall_mem_singleton]
      exact ⟨⟨by cbv, by decide, by decide⟩, ⟨by cbv, by decide, by decide⟩⟩
    · decide
  have hnil : ∀ c ∈ ([] : List Char), isBlank c = true := List.forall_mem_nil _
  have hspace : ∀ c ∈ [' '], isBlank c = true := List.forall_mem_singleton.mpr rfl
  have hbreak : ∀ c ∈ ['\n'], isBlank c = true := List.forall_mem_singleton.mpr rfl
  have htab : ∀ c ∈ ['\t'], isBlank c = true := List.forall_mem_singleton.mpr rfl
  have henclosed : Descriptor.Layout "Cylinder_y" ["r=1", "axis(0,0,1)"]
      "\t( Cylinder_y :; r=1 ;\n; axis(0,0,1) ;) ".toList := by
    have hspread := Descriptor.Spread.nil
      |>.blank hnil |>.clause hspace "axis(0,0,1)" hspace
      |>.blank hbreak |>.clause hspace "r=1" hspace |>.blank hnil
    have hopen : Descriptor.OpenLayout "Cylinder_y" ["r=1", "axis(0,0,1)"] _ :=
      .mk hspace hspace hspread
    have hparentheses : ('(', ')') ∈ [('(', ')'), ('[', ']')] := List.mem_cons_self
    exact .enclosed htab hspace hparentheses hopen
  have hbare : Descriptor.Layout "Cylinder_y" ["r=1", "axis(0,0,1)"]
      " Cylinder_y: r=1; axis(0,0,1)".toList := by
    have hspread := Descriptor.Spread.nil
      |>.clause hspace "axis(0,0,1)" hnil |>.clause hspace "r=1" hnil
    have hopen : Descriptor.OpenLayout "Cylinder_y" ["r=1", "axis(0,0,1)"] _ :=
      .mk hspace hnil hspread
    exact .bare hopen
  refine ⟨hwritable, henclosed, hbare, ?_⟩
  intro strict
  exact ⟨(compile_layout Float hwritable henclosed).2 strict,
    (compile_layout Float hwritable hbare).2 strict⟩

end Cylinder

end ClippedCylinder
