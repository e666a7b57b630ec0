import ClippedCylinder.Proofs.Text.Trim
import ClippedCylinder.Text.Pattern

/-!
# Patterns on known texts

What the parts of patterns give on texts whose beginning and end are known: blanks are skipped up
to the first character that is none, and a text that does not end with a line break is a line
exactly if it has no line break.  And the other way round, what is known of a text that has been
read: how it begins, and what its value is made of.
-/

namespace ClippedCylinder.Text.Pattern

variable {α : Type} {next : Pattern α} {gap cs : List Char}

/-! ### Blanks -/

theorem blanks_of_head (h : ∀ c ∈ cs.head?, isBlank c = false) :
  blanks next cs = next cs
  := by
  cases cs with
  | nil => rfl
  | cons c cs =>
    have hc := h c rfl
    simp [blanks, hc]

/-- Blanks are skipped if the pattern reads what comes after them. -/
theorem blanks_append_eq_some {a : α} (hgap : ∀ c ∈ gap, isBlank c = true)
    (hcs : ∀ c ∈ cs.head?, isBlank c = false) (h : next cs = some a) :
  blanks next (gap ++ cs) = some a
  := by
  induction gap with
  | nil => rw [List.nil_append, blanks_of_head hcs, h]
  | cons c gap ih =>
    rw [List.forall_mem_cons] at hgap
    rw [List.cons_append, blanks, if_pos hgap.1, ih hgap.2, Option.some_or]

/-- A pattern that reads the text neither after the blanks nor with some of them before it fails. -/
theorem blanks_append_eq_none (hcs : ∀ c ∈ cs.head?, isBlank c = false)
    (h : ∀ front, front <:+ gap → next (front ++ cs) = none) :
  blanks next (gap ++ cs) = none
  := by
  induction gap with
  | nil => rw [List.nil_append, blanks_of_head hcs, ← List.nil_append cs, h [] List.suffix_rfl]
  | cons c gap ih =>
    have hall := h (c :: gap) List.suffix_rfl
    have htail := ih fun front hfront => h front (hfront.trans (List.suffix_cons c gap))
    rw [List.cons_append] at hall ⊢
    rw [blanks, htail, hall]
    simp

/-- A character that is no blank is not found if another one comes first. -/
theorem blanks_char_append_eq_none {d : Char} (hd : isBlank d = false)
    (hgap : ∀ c ∈ gap, isBlank c = true) (hcs : ∀ c ∈ cs.head?, isBlank c = false ∧ c ≠ d) :
  blanks (char d next) (gap ++ cs) = none
  := by
  apply blanks_append_eq_none fun c hc => (hcs c hc).1
  intro front hfront
  cases front with
  | nil =>
    cases cs with
    | nil => rfl
    | cons c cs => simp [char, (hcs c rfl).2]
  | cons c front =>
    have hc := hgap c (hfront.mem List.mem_cons_self)
    have hne : c ≠ d := by
      rintro rfl
      rw [hd] at hc
      cases hc
    simp [char, hne]

theorem optional_of_head {next : Bool → Pattern α} {d : Char} (h : ∀ c ∈ cs.head?, c ≠ d) :
  optional d next cs = next false cs
  := by
  cases cs with
  | nil => rfl
  | cons c cs => simp [optional, char, h c rfl]

/-! ### Lines -/

theorem line_eq (h : ∀ c ∈ cs.getLast?, isBlank c = false) :
  line cs = if '\n' ∈ cs then none else some cs
  := by
  have hlast : cs.getLast? ≠ some '\n' := by
    intro hlast
    cases h '\n' hlast
  simp [line, hlast]

theorem nonemptyLine_eq (hne : cs ≠ []) (h : ∀ c ∈ cs.getLast?, isBlank c = false) :
  nonemptyLine cs = if '\n' ∈ cs then none else some cs
  := by
  rw [nonemptyLine, line_eq h]
  split
  · rfl
  · simp [hne]

theorem parenthesized_eq_none (h : ∀ c ∈ cs.getLast?, isBlank c = false) (hbreak : '\n' ∈ cs) :
  parenthesized cs = none
  := by
  rw [parenthesized, line_eq h, if_pos hbreak]
  rfl

theorem parenthesized_eq (h : ∃ ds, cs = '(' :: (ds ++ [')'])) :
  parenthesized cs = if '\n' ∈ cs then none else some cs
  := by
  obtain ⟨ds, rfl⟩ := h
  have hlast : ('(' :: (ds ++ [')'])).getLast? = some ')' := by simp [List.getLast?_cons]
  rw [parenthesized, line_eq]
  · split
    · rfl
    · simp [hlast]
  · rw [hlast]
    rintro c ⟨⟩
    rfl

/-! ### Texts that have been read -/

section

variable {a : α} {d : Char} {content : List Char}

theorem exists_of_blanks (h : blanks next cs = some a) :
  ∃ gap rest, cs = gap ++ rest ∧ (∀ c ∈ gap, isBlank c = true) ∧ next rest = some a
  := by
  induction cs with
  | nil => exact ⟨[], [], rfl, nofun, h⟩
  | cons c cs ih =>
    rw [blanks] at h
    split at h
    · rename_i hc
      rcases Option.or_eq_some_iff.mp h with h | ⟨-, h⟩
      · obtain ⟨gap, rest, rfl, hgap, hrest⟩ := ih h
        exact ⟨c :: gap, rest, rfl, List.forall_mem_cons.mpr ⟨hc, hgap⟩, hrest⟩
      · exact ⟨[], c :: cs, rfl, nofun, h⟩
    · exact ⟨[], c :: cs, rfl, nofun, h⟩

theorem exists_of_char (h : char d next cs = some a) :
  ∃ rest, cs = d :: rest ∧ next rest = some a
  := by
  cases cs with
  | nil => cases h
  | cons c cs =>
    rw [char] at h
    split at h
    · rename_i hc
      exact ⟨cs, by rw [hc], h⟩
    · cases h

theorem exists_of_keyword {word : List Char} (h : keyword word next cs = some a) :
  ∃ rest, cs = word ++ rest ∧ next rest = some a
  := by
  induction word generalizing cs with
  | nil => exact ⟨cs, rfl, h⟩
  | cons d word ih =>
    obtain ⟨ds, rfl, hds⟩ := exists_of_char h
    obtain ⟨rest, rfl, hrest⟩ := ih hds
    exact ⟨rest, rfl, hrest⟩

theorem exists_of_optional {next : Bool → Pattern α} (h : optional d next cs = some a) :
  (∃ rest, cs = d :: rest ∧ next true rest = some a) ∨ next false cs = some a
  := by
  rcases Option.or_eq_some_iff.mp h with h | ⟨-, h⟩
  · exact .inl (exists_of_char h)
  · exact .inr h

theorem notMem_of_line (h : line cs = some content) :
  '\n' ∉ content
  := by
  rw [line] at h
  generalize (if cs.getLast? = some '\n' then cs.dropLast else cs) = rest at h
  split at h
  · cases h
  · rename_i hbreak
    rw [← Option.some.inj h]
    simpa using hbreak

theorem notMem_of_nonemptyLine (h : nonemptyLine cs = some content) :
  '\n' ∉ content
  := notMem_of_line (Option.filter_eq_some_iff.mp h).1

theorem notMem_of_parenthesized (h : parenthesized cs = some content) :
  '\n' ∉ content
  := notMem_of_line (Option.filter_eq_some_iff.mp h).1

theorem exists_of_parenthesized (h : parenthesized cs = some content) :
  ∃ ds, content = '(' :: (ds ++ [')'])
  := by
  have hparens := (Option.filter_eq_some_iff.mp h).2
  simp only [Bool.and_eq_true, decide_eq_true_eq] at hparens
  obtain ⟨⟨hlength, hhead⟩, hlast⟩ := hparens
  obtain ⟨tail, rfl⟩ := List.head?_eq_some_iff.mp hhead
  have htail : tail ≠ [] := by
    rintro rfl
    cases hlast
  rw [List.getLast?_cons, List.getLast?_eq_some_getLast htail, Option.getD_some] at hlast
  refine ⟨tail.dropLast, ?_⟩
  rw [← Option.some.inj hlast, List.dropLast_concat_getLast]

theorem eq_of_without {excluded : List Char} (h : without excluded cs = some content) :
  content = cs ∧ ∀ c ∈ cs, c ∉ excluded
  := by
  unfold without at h
  split at h
  · cases h
  · rename_i hnone
    exact ⟨(Option.some.inj h).symm, by simpa using hnone⟩

end

end ClippedCylinder.Text.Pattern
