import Mathlib.Data.List.Basic
import ClippedCylinder.Proofs.Text.Trim

/-!
# Fields of texts

A text is cut into pieces at a separator, and its fields are the pieces that are not blank,
trimmed (`fields_eq`).  Trimming the text does not change its fields (`fields_trim`).  A trimmed
text that is not empty and has no separator can be a field (`IsField`): every field is such a text,
and such texts are the fields of the text that joins them (`fields_intercalate`).
-/

namespace ClippedCylinder.Text

variable {separator : Char}

/-- The field that a piece of a text gives, unless the piece is blank. -/
def field? (piece : List Char) : Option String :=
  if (trimChars piece).isEmpty then none else some (String.ofList (trimChars piece))

/-- A text that can be a field: it is trimmed and not empty, and has no separator. -/
structure IsField (separator : Char) (s : String) : Prop where
  trimmed : trim s = s
  ne_empty : s ≠ ""
  notMem : separator ∉ s.toList

/-! ### The first separator -/

theorem cut_append {front : List Char} (hfront : separator ∉ front) (back : List Char) :
  cut separator (front ++ separator :: back) = some (front, back)
  := by
  induction front with
  | nil => rw [List.nil_append, cut, if_pos rfl]
  | cons c front ih =>
    rw [List.mem_cons, not_or] at hfront
    rw [List.cons_append, cut, if_neg (Ne.symm hfront.1), ih hfront.2]
    rfl

theorem cut_eq_none_iff {cs : List Char} :
  cut separator cs = none ↔ separator ∉ cs
  := by
  induction cs with
  | nil => simp [cut]
  | cons c cs ih =>
    rw [cut, List.mem_cons, not_or]
    split
    · simp_all
    · rename_i hc
      simp [ih, Ne.symm hc]

theorem eq_of_cut {cs front back : List Char} (h : cut separator cs = some (front, back)) :
  cs = front ++ separator :: back
  := by
  induction cs generalizing front with
  | nil => cases h
  | cons c cs ih =>
    rw [cut] at h
    split at h
    · rename_i hc
      cases h
      rw [hc, List.nil_append]
    · obtain ⟨⟨front', back'⟩, hcut, hfront⟩ := Option.map_eq_some_iff.mp h
      cases hfront
      rw [List.cons_append, ← ih hcut]

/-! ### Pieces -/

theorem pieces_eq_splitOn (separator : Char) (cs : List Char) :
  pieces separator cs = cs.splitOn separator
  := by
  induction cs with
  | nil => rfl
  | cons c cs ih =>
    obtain ⟨p, ps, hps⟩ := List.exists_cons_of_ne_nil (List.splitOn_ne_nil separator cs)
    rw [pieces, ih, List.splitOn_cons_eq_if_modifyHead, hps]
    simp only [beq_iff_eq, List.modifyHead_cons]

theorem fields_eq (separator : Char) (s : String) :
  fields separator s = (s.toList.splitOn separator).filterMap field?
  := by
  rw [fields, pieces_eq_splitOn, List.filterMap_map]
  rfl

theorem notMem_of_blank {gap : List Char} (hseparator : isBlank separator = false)
    (hgap : ∀ c ∈ gap, isBlank c = true) :
  separator ∉ gap
  := by
  intro hmem
  rw [hgap separator hmem] at hseparator
  cases hseparator

theorem notMem_of_mem_splitOn {cs p : List Char} (h : p ∈ cs.splitOn separator) :
  separator ∉ p
  := by
  induction cs generalizing p with
  | nil =>
    rw [List.splitOn_nil, List.mem_singleton] at h
    simp [h]
  | cons c cs ih =>
    obtain ⟨q, qs, hqs⟩ := List.exists_cons_of_ne_nil (List.splitOn_ne_nil separator cs)
    rw [hqs] at ih
    rw [List.splitOn_cons_eq_if_modifyHead, hqs] at h
    split at h
    · rcases List.mem_cons.mp h with rfl | h
      · simp
      · apply ih h
    · rename_i hc
      rcases List.mem_cons.mp h with rfl | h
      · rw [List.mem_cons, not_or]
        exact ⟨fun heq => hc (beq_iff_eq.mpr heq.symm), ih List.mem_cons_self⟩
      · apply ih (List.mem_cons_of_mem q h)

/-! ### Blanks at the ends of pieces -/

section

variable {front back : List Char}

theorem field?_append (hfront : ∀ c ∈ front, isBlank c = true) (cs : List Char) :
  field? (front ++ cs) = field? cs
  := by
  rw [field?, trimChars_append hfront, field?]

theorem field?_append_of_forall (hback : ∀ c ∈ back, isBlank c = true) (cs : List Char) :
  field? (cs ++ back) = field? cs
  := by
  rw [field?, trimChars_append_of_forall hback, field?]

theorem field?_of_forall (hback : ∀ c ∈ back, isBlank c = true) :
  field? back = none
  := field?_append_of_forall hback []

/-- The blanks at the end of a text are those of its last piece. -/
theorem exists_splitOn_append (hback : separator ∉ back) (cs : List Char) :
  ∃ front last, cs.splitOn separator = front ++ [last] ∧
    (cs ++ back).splitOn separator = front ++ [last ++ back]
  := by
  induction cs with
  | nil => exact ⟨[], [], rfl, List.splitOn_eq_singleton hback⟩
  | cons c cs ih =>
    obtain ⟨front, last, hcs, happend⟩ := ih
    rw [List.cons_append, List.splitOn_cons_eq_if_modifyHead, List.splitOn_cons_eq_if_modifyHead,
      hcs, happend]
    split
    · exact ⟨[] :: front, last, rfl, rfl⟩
    · cases front with
      | nil => exact ⟨[], c :: last, rfl, rfl⟩
      | cons p front => exact ⟨(c :: p) :: front, last, rfl, rfl⟩

/-- The blanks at the beginning of a text are those of its first piece. -/
theorem splitOn_append (hfront : separator ∉ front) (cs : List Char) :
  (front ++ cs).splitOn separator = (cs.splitOn separator).modifyHead (front ++ ·)
  := by
  induction front with
  | nil => exact (congrFun List.modifyHead_id _).symm
  | cons c front ih =>
    rw [List.mem_cons, not_or] at hfront
    rw [List.cons_append, List.splitOn_cons_eq_if_modifyHead, ih hfront.2,
      if_neg (by simpa using Ne.symm hfront.1), List.modifyHead_modifyHead]
    rfl

/-- Blanks at the ends of a text do not change its fields. -/
theorem filterMap_splitOn_append_append (hseparator : isBlank separator = false)
    (hfront : ∀ c ∈ front, isBlank c = true) (hback : ∀ c ∈ back, isBlank c = true)
    (cs : List Char) :
  ((front ++ (cs ++ back)).splitOn separator).filterMap field?
    = (cs.splitOn separator).filterMap field?
  := by
  obtain ⟨ps, last, hcs, happend⟩ := exists_splitOn_append (notMem_of_blank hseparator hback) cs
  rw [splitOn_append (notMem_of_blank hseparator hfront), happend, hcs]
  cases ps with
  | nil =>
    rw [List.nil_append, List.nil_append, List.modifyHead_cons, List.filterMap_cons,
      field?_append hfront, field?_append_of_forall hback, ← List.filterMap_cons]
  | cons p ps =>
    simp only [List.cons_append, List.modifyHead_cons, List.filterMap_cons, List.filterMap_append,
      field?_append hfront, field?_append_of_forall hback]

end

/-! ### Fields -/

/-- Trimming a text does not change its fields. -/
theorem fields_trim (hseparator : isBlank separator = false) (cs : List Char) :
  fields separator (String.ofList (trimChars cs)) = (cs.splitOn separator).filterMap field?
  := by
  obtain ⟨front, back, hcs, hfront, hback⟩ := exists_eq_append_trimChars cs
  rw [fields_eq, String.toList_ofList, ← filterMap_splitOn_append_append hseparator hfront hback,
    ← hcs]

theorem isField_ofList_trimChars {cs : List Char} (hne : trimChars cs ≠ [])
    (hcs : separator ∉ cs) :
  IsField separator (String.ofList (trimChars cs))
  := by
  constructor
  · apply trim_ofList_trimChars
  · simpa using hne
  · rw [String.toList_ofList]
    apply mt mem_of_mem_trimChars hcs

/-- Every field can be one. -/
theorem isField_of_mem_fields {s p : String} (h : p ∈ fields separator s) :
  IsField separator p
  := by
  rw [fields_eq, List.mem_filterMap] at h
  obtain ⟨piece, hpiece, hp⟩ := h
  unfold field? at hp
  split at hp
  · cases hp
  · rename_i hne
    obtain rfl := Option.some.inj hp
    rw [List.isEmpty_iff] at hne
    apply isField_ofList_trimChars hne (notMem_of_mem_splitOn hpiece)

theorem IsField.field?_toList {s : String} (h : IsField separator s) :
  field? s.toList = some s
  := by
  have hne : s.toList ≠ [] := by simpa using h.ne_empty
  simp [field?, trimChars_toList h.trimmed, hne]

theorem IsField.exists_cons {s : String} (h : IsField separator s) :
  ∃ c cs, s.toList = c :: cs ∧ isBlank c = false
  := by
  have hne : s.toList ≠ [] := by simpa using h.ne_empty
  obtain ⟨c, cs, hcs⟩ := List.exists_cons_of_ne_nil hne
  refine ⟨c, cs, hcs, ?_⟩
  apply isBlank_head_trimChars s.toList
  rw [trimChars_toList h.trimmed, hcs]
  rfl

/-- Texts that can be fields are the fields of the text that joins them. -/
theorem fields_intercalate {ps : List String} (h : ∀ p ∈ ps, IsField separator p) :
  fields separator ((String.singleton separator).intercalate ps) = ps
  := by
  rw [fields_eq, String.toList_intercalate, String.toList_singleton]
  cases ps with
  | nil => rfl
  | cons p ps =>
    have hfield : ∀ q ∈ p :: ps, (field? ∘ String.toList) q = some q := by
      intro q hq
      apply (h q hq).field?_toList
    rw [List.splitOn_intercalate, List.filterMap_map, List.filterMap_congr hfield,
      List.filterMap_some]
    · intro cs hcs
      obtain ⟨q, hq, rfl⟩ := List.mem_map.mp hcs
      apply (h q hq).notMem
    · simp

end ClippedCylinder.Text
