import ClippedCylinder.Proofs.Cylinder.Layout
import ClippedCylinder.Proofs.Outcome

/-!
# Headers of descriptors

What a text is read as, if it is read.  The content of a text is what is left of it without the
blanks at its ends and without a pair around it, of which at most one is removed
(`Descriptor.IsContent`).  The content is split at its first colon, or lacks something for that
(`Descriptor.Lacks`).

A type name and properties that were read are not always read again from a colon between them: they
may be left with one half each of a second pair, as in the content of `[(a:b)]`.  Between
parentheses or brackets they are (`Descriptor.parse_again`).
-/

namespace ClippedCylinder.Descriptor

open Text

/-! ### Enclosing pairs -/

/-- The text is the content between parentheses or between brackets. -/
def Encloses (cs content : List Char) : Prop :=
  ∃ opening closing, (opening, closing) ∈ [('(', ')'), ('[', ']')] ∧
    cs = opening :: (content ++ [closing])

/-- The content of a trimmed text: what a pair encloses, trimmed again, or the text itself if it
is not enclosed by a pair. -/
inductive IsContent : List Char → List Char → Prop where
  | enclosed {cs content : List Char} (h : Encloses cs content) : IsContent cs (trimChars content)
  | bare {cs : List Char} (h : ∀ content, ¬ Encloses cs content) : IsContent cs cs

variable {cs content : List Char}

theorem encloses_round :
  Encloses ('(' :: cs) content ↔ cs = content ++ [')']
  := by
  simp [Encloses]

theorem encloses_square :
  Encloses ('[' :: cs) content ↔ cs = content ++ [']']
  := by
  simp [Encloses]

theorem Encloses.unwrap (h : Encloses cs content) :
  unwrap cs = trimChars content
  := by
  obtain ⟨opening, closing, hpair, rfl⟩ := h
  rw [List.mem_pair] at hpair
  rcases hpair with ⟨⟨⟩⟩ | ⟨⟨⟩⟩
  · rw [Descriptor.unwrap, if_pos List.getLast?_concat, List.dropLast_concat]
  · rw [Descriptor.unwrap, if_pos List.getLast?_concat, List.dropLast_concat]

theorem unwrap_of_forall_not (h : ∀ content, ¬ Encloses cs content) :
  unwrap cs = cs
  := by
  unfold unwrap
  split
  · rw [if_neg]
    intro hlast
    obtain ⟨content, hcontent⟩ := List.getLast?_eq_some_iff.mp hlast
    apply h content (encloses_round.mpr hcontent)
  · rw [if_neg]
    intro hlast
    obtain ⟨content, hcontent⟩ := List.getLast?_eq_some_iff.mp hlast
    apply h content (encloses_square.mpr hcontent)
  · rfl

/-- Every text has exactly one content. -/
theorem isContent_iff :
  IsContent cs content ↔ unwrap cs = content
  := by
  constructor
  · rintro (h | h)
    · apply h.unwrap
    · apply unwrap_of_forall_not h
  · rintro rfl
    by_cases h : ∃ content, Encloses cs content
    · obtain ⟨content, h⟩ := h
      rw [h.unwrap]
      apply IsContent.enclosed h
    · rw [not_exists] at h
      rw [unwrap_of_forall_not h]
      apply IsContent.bare h

/-! ### The first colon -/

/-- What a content lacks that is not a type name, a colon and properties. -/
inductive Lacks : List Char → HeaderFault → Prop where
  | colon {cs : List Char} (h : ':' ∉ cs) : Lacks cs .noHeader
  | typeName {front back : List Char} (hfront : ∀ c ∈ front, isBlank c = true) :
      Lacks (front ++ ':' :: back) .emptyTypeName
  | properties {front back : List Char} (hcolon : ':' ∉ front)
      (hfront : ∃ c ∈ front, isBlank c = false) (hback : ∀ c ∈ back, isBlank c = true) :
      Lacks (front ++ ':' :: back) .noProperties

theorem split_of_notMem (h : ':' ∉ cs) :
  split cs = .error .noHeader
  := by
  rw [split, cut_eq_none_iff.mpr h]

theorem split_append {front : List Char} (hfront : ':' ∉ front) (back : List Char) :
  split (front ++ ':' :: back) =
    if trimChars front = [] then .error .emptyTypeName
    else if trimChars back = [] then .error .noProperties
    else .ok ⟨String.ofList (trimChars front), String.ofList (trimChars back)⟩
  := by
  simp only [split, cut_append hfront, List.isEmpty_iff]

/-- A content is split unless it lacks something. -/
theorem split_eq_error_iff {cause : HeaderFault} :
  split cs = .error cause ↔ Lacks cs cause
  := by
  constructor
  · intro h
    by_cases hcolon : ':' ∈ cs
    · obtain ⟨front, back, rfl, hfront⟩ := List.eq_append_cons_of_mem hcolon
      rw [split_append hfront] at h
      split at h
      · rename_i hname
        obtain ⟨⟩ := h
        apply Lacks.typeName (trimChars_eq_nil_iff.mp hname)
      split at h
      · rename_i hname hproperties
        obtain ⟨⟩ := h
        apply Lacks.properties hfront _ (trimChars_eq_nil_iff.mp hproperties)
        simpa [trimChars_eq_nil_iff] using hname
      · cases h
    · rw [split_of_notMem hcolon] at h
      obtain ⟨⟩ := h
      apply Lacks.colon hcolon
  · rintro (hcolon | hfront | ⟨hcolon, ⟨c, hc, hvisible⟩, hback⟩)
    · apply split_of_notMem hcolon
    · rw [split_append (notMem_of_blank rfl hfront), if_pos (trimChars_eq_nil_iff.mpr hfront)]
    · rw [split_append hcolon, if_neg, if_pos (trimChars_eq_nil_iff.mpr hback)]
      intro hname
      rw [trimChars_eq_nil_iff.mp hname c hc] at hvisible
      cases hvisible

/-! ### What is read -/

/-- A type name and properties that can be read from a text: both are trimmed and not empty, and
the type name has no colon. -/
structure IsReadable (d : Descriptor) : Prop where
  typeName : IsField ':' d.typeName
  trimmed : trim d.properties = d.properties
  ne_empty : d.properties ≠ ""

theorem isReadable_of_split {d : Descriptor} (h : split cs = .ok d) :
  IsReadable d
  := by
  by_cases hcolon : ':' ∈ cs
  · obtain ⟨front, back, rfl, hfront⟩ := List.eq_append_cons_of_mem hcolon
    rw [split_append hfront] at h
    split at h
    · cases h
    split at h
    · cases h
    · rename_i hname hproperties
      obtain rfl := Except.ok.inj h
      constructor
      · apply isField_ofList_trimChars hname hfront
      · apply trim_ofList_trimChars
      · simpa using hproperties
  · rw [split_of_notMem hcolon] at h
    cases h

namespace IsReadable

variable {d : Descriptor} (h : IsReadable d)

include h

theorem split :
  Descriptor.split (d.typeName.toList ++ ':' :: d.properties.toList) = .ok d
  := by
  rw [split_append h.typeName.notMem, trimChars_toList h.typeName.trimmed,
    trimChars_toList h.trimmed, if_neg (by simpa using h.typeName.ne_empty),
    if_neg (by simpa using h.ne_empty), String.ofList_toList, String.ofList_toList]

theorem trimChars_eq :
  trimChars (d.typeName.toList ++ ':' :: d.properties.toList)
    = d.typeName.toList ++ ':' :: d.properties.toList
  := by
  have hlast := isBlank_getLast_trimChars d.properties.toList
  rw [trimChars_toList h.trimmed] at hlast
  have hheader := trimChars_header h.typeName (List.forall_mem_nil _) [] d.properties.toList
  rw [trimRight_of_getLast hlast] at hheader
  apply hheader

/-- Between parentheses or brackets the type name and the properties are read again. -/
theorem parse_enclosed {K : Type} {text : String}
    (htext : Encloses text.toList (d.typeName.toList ++ ':' :: d.properties.toList)) :
  parse (K := K) text = .ok d
  := by
  obtain ⟨opening, closing, hpair, htext⟩ := htext
  have hunwrap := unwrap_enclosed (List.forall_mem_nil _) (List.forall_mem_nil _) hpair
    (d.typeName.toList ++ ':' :: d.properties.toList)
  rw [List.nil_append, List.append_nil, ← htext, h.trimChars_eq] at hunwrap
  rw [parse, hunwrap, h.split]
  rfl

end IsReadable

/-- What is read from a text is a trimmed type name without a colon and trimmed properties, neither
of them empty, and it is read again if it is written between parentheses or brackets.  A text is
refused exactly if its content has no colon, or nothing but blanks on one side of the first one. -/
theorem parse_again (K : Type) :
  (∀ (text : String) (d : Descriptor), parse (K := K) text = .ok d →
      (IsField ':' d.typeName ∧ trim d.properties = d.properties ∧ d.properties ≠ "") ∧
      parse (K := K) ("(" ++ d.typeName ++ ":" ++ d.properties ++ ")") = .ok d ∧
      parse (K := K) ("[" ++ d.typeName ++ ":" ++ d.properties ++ "]") = .ok d) ∧
    ∀ (text : String) (f : Fault K), parse text = .error f ↔
      ∃ content cause, IsContent (trimChars text.toList) content ∧ Lacks content cause ∧
        f = .header cause (trim text)
  := by
  constructor
  · intro text d h
    have hreadable := isReadable_of_split (Outcome.mapError_eq_ok_iff.mp h)
    refine ⟨⟨hreadable.typeName, hreadable.trimmed, hreadable.ne_empty⟩, ?_, ?_⟩
    · apply hreadable.parse_enclosed ⟨'(', ')', by decide, by simp⟩
    · apply hreadable.parse_enclosed ⟨'[', ']', by decide, by simp⟩
  · intro text f
    rw [parse, Outcome.mapError_eq_error_iff]
    constructor
    · rintro ⟨cause, h, rfl⟩
      exact ⟨_, cause, isContent_iff.mpr rfl, split_eq_error_iff.mp h, rfl⟩
    · rintro ⟨content, cause, hcontent, hlacks, rfl⟩
      rw [isContent_iff.mp hcontent]
      exact ⟨cause, split_eq_error_iff.mpr hlacks, rfl⟩

/-- A type name and properties that between them have another pair are read again between
parentheses and between brackets, though not from the colon between them alone. -/
theorem parse_again_of_halves :
  parse (K := Float) " [( a:b\t: c ) ]" = .ok ⟨"( a", "b\t: c )"⟩ ∧
    parse (K := Float) "(( a:b\t: c ))" = .ok ⟨"( a", "b\t: c )"⟩ ∧
    parse (K := Float) "[( a:b\t: c )]" = .ok ⟨"( a", "b\t: c )"⟩ ∧
    parse (K := Float) "( a:b\t: c )" = .ok ⟨"a", "b\t: c"⟩ ∧
    parse (K := Float) " (\t: b)" = .error (.header .emptyTypeName "(\t: b)")
  := by
  have h : parse (K := Float) " [( a:b\t: c ) ]" = .ok ⟨"( a", "b\t: c )"⟩ := by cbv
  obtain ⟨-, hround, hsquare⟩ := (parse_again Float).1 _ _ h
  refine ⟨h, hround, hsquare, by cbv, by cbv⟩

end ClippedCylinder.Descriptor
