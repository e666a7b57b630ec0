import ClippedCylinder.Text.Blank

/-!
# Trimmed texts

What trimming removes and what it leaves: blanks before and after a text go away, and a text
that neither starts nor ends with a blank stays as it is.
-/

namespace ClippedCylinder.Text

variable {cs ds : List Char}

/-! ### The left end -/

/-- Blanks before a text are removed with the blanks of the text. -/
theorem trimLeft_append (hcs : ∀ c ∈ cs, isBlank c = true) :
  trimLeft (cs ++ ds) = trimLeft ds
  := List.dropWhile_append_of_pos hcs

theorem trimLeft_of_forall (h : ∀ c ∈ cs, isBlank c = true) :
  trimLeft cs = []
  := by
  have hnil : trimLeft (cs ++ []) = [] := trimLeft_append h
  rw [List.append_nil] at hnil
  apply hnil

theorem trimLeft_of_head (h : ∀ c ∈ cs.head?, isBlank c = false) :
  trimLeft cs = cs
  := by
  cases cs with
  | nil => rfl
  | cons c cs =>
    have hc := h c rfl
    apply List.dropWhile_cons_of_neg
    simp [hc]

theorem isBlank_head_trimLeft (cs : List Char) :
  ∀ c ∈ (trimLeft cs).head?, isBlank c = false
  := by
  intro c hc
  have h := List.head?_dropWhile_not isBlank cs
  rw [trimLeft] at hc
  rw [hc] at h
  simpa using h

/-! ### The right end -/

/-- Trimming a text on the right trims a part of it if the characters before that part do not
end with a blank. -/
theorem trimRight_append (h : ∃ c ∈ cs.getLast?, isBlank c = false) (ds : List Char) :
  trimRight (cs ++ ds) = cs ++ trimRight ds
  := by
  obtain ⟨c, hc, hblank⟩ := h
  obtain ⟨cs, rfl⟩ := List.getLast?_eq_some_iff.mp hc
  have hstop (ds : List Char) : (ds ++ c :: cs.reverse).dropWhile isBlank
      = ds.dropWhile isBlank ++ c :: cs.reverse := by
    rw [List.dropWhile_append]
    split
    · rename_i hds
      rw [List.isEmpty_iff.mp hds, List.dropWhile_cons_of_neg (by simp [hblank])]
      rfl
    · rfl
  simp [trimRight, hstop]

theorem trimRight_of_getLast (h : ∀ c ∈ cs.getLast?, isBlank c = false) :
  trimRight cs = cs
  := by
  cases hc : cs.getLast? with
  | none =>
    rw [List.getLast?_eq_none_iff.mp hc]
    rfl
  | some c =>
    have htrim := trimRight_append ⟨c, hc, h c hc⟩ []
    rw [List.append_nil] at htrim
    apply htrim.trans
    apply List.append_nil

/-- Blanks after a text are removed with the blanks of the text. -/
theorem trimRight_append_of_forall (hds : ∀ c ∈ ds, isBlank c = true) :
  trimRight (cs ++ ds) = trimRight cs
  := by
  have hreverse : ∀ c ∈ ds.reverse, isBlank c = true := by
    intro c hc
    apply hds c (List.mem_reverse.mp hc)
  rw [trimRight, List.reverse_append, List.dropWhile_append_of_pos hreverse]
  rfl

theorem trimRight_of_forall (h : ∀ c ∈ cs, isBlank c = true) :
  trimRight cs = []
  := by
  have hreverse : ∀ c ∈ cs.reverse, isBlank c = true := by
    intro c hc
    apply h c (List.mem_reverse.mp hc)
  apply congrArg List.reverse (trimLeft_of_forall hreverse)

theorem isBlank_getLast_trimRight (cs : List Char) :
  ∀ c ∈ (trimRight cs).getLast?, isBlank c = false
  := by
  intro c hc
  rw [trimRight, List.getLast?_reverse] at hc
  apply isBlank_head_trimLeft _ c hc

theorem head?_trimRight (h : ∀ c ∈ cs.head?, isBlank c = false) :
  ∀ c ∈ (trimRight cs).head?, isBlank c = false
  := by
  have hprefix : trimRight cs <+: cs := by
    rw [trimRight, ← List.reverse_suffix, List.reverse_reverse]
    apply List.dropWhile_suffix
  intro c hc
  obtain ⟨ds, hds⟩ := hprefix
  apply h
  rw [← hds, List.head?_append, hc]
  rfl

/-- A text is what is left of it when it is trimmed on the right, before blanks. -/
theorem exists_eq_append_trimRight (cs : List Char) :
  ∃ back, cs = trimRight cs ++ back ∧ ∀ c ∈ back, isBlank c = true
  := by
  refine ⟨(cs.reverse.takeWhile isBlank).reverse, ?_, ?_⟩
  · rw [trimRight, ← List.reverse_append, List.takeWhile_append_dropWhile, List.reverse_reverse]
  · intro c hc
    apply List.all_eq_true.mp List.all_takeWhile c (List.mem_reverse.mp hc)

/-! ### Both ends -/

theorem isBlank_head_trimChars (cs : List Char) :
  ∀ c ∈ (trimChars cs).head?, isBlank c = false
  := head?_trimRight (isBlank_head_trimLeft cs)

theorem isBlank_getLast_trimChars (cs : List Char) :
  ∀ c ∈ (trimChars cs).getLast?, isBlank c = false
  := isBlank_getLast_trimRight (trimLeft cs)

/-- A text that neither starts nor ends with a blank stays as it is. -/
theorem trimChars_of_ends (hhead : ∀ c ∈ cs.head?, isBlank c = false)
    (hlast : ∀ c ∈ cs.getLast?, isBlank c = false) :
  trimChars cs = cs
  := by
  rw [trimChars, trimLeft_of_head hhead, trimRight_of_getLast hlast]

theorem trimChars_trimChars (cs : List Char) :
  trimChars (trimChars cs) = trimChars cs
  := trimChars_of_ends (isBlank_head_trimChars cs) (isBlank_getLast_trimChars cs)

theorem trimChars_append (hcs : ∀ c ∈ cs, isBlank c = true) :
  trimChars (cs ++ ds) = trimChars ds
  := congrArg trimRight (trimLeft_append hcs)

theorem trimChars_append_of_forall (hds : ∀ c ∈ ds, isBlank c = true) :
  trimChars (cs ++ ds) = trimChars cs
  := by
  have hnil : List.dropWhile isBlank ds = [] := trimLeft_of_forall hds
  rw [trimChars, trimChars, trimLeft, trimLeft, List.dropWhile_append]
  split
  · rename_i hcs
    rw [hnil, List.isEmpty_iff.mp hcs]
  · apply trimRight_append_of_forall hds

/-- A text is what is left of it when it is trimmed, between blanks. -/
theorem exists_eq_append_trimChars (cs : List Char) :
  ∃ front back, cs = front ++ (trimChars cs ++ back) ∧ (∀ c ∈ front, isBlank c = true) ∧
    ∀ c ∈ back, isBlank c = true
  := by
  obtain ⟨back, hback, hblank⟩ := exists_eq_append_trimRight (trimLeft cs)
  refine ⟨cs.takeWhile isBlank, back, ?_, ?_, hblank⟩
  · rw [trimChars, ← hback]
    exact List.takeWhile_append_dropWhile.symm
  · intro c hc
    apply List.all_eq_true.mp List.all_takeWhile c hc

/-- Nothing is left of a text exactly if it is blank. -/
theorem trimChars_eq_nil_iff :
  trimChars cs = [] ↔ ∀ c ∈ cs, isBlank c = true
  := by
  constructor
  · intro h
    obtain ⟨front, back, hcs, hfront, hback⟩ := exists_eq_append_trimChars cs
    rw [hcs, h, List.nil_append]
    apply List.forall_mem_append.mpr ⟨hfront, hback⟩
  · intro h
    apply (trimChars_append_of_forall h : trimChars ([] ++ cs) = trimChars [])

/-- Blanks that are removed at the right end are removed in any case. -/
theorem trimChars_trimRight (cs : List Char) :
  trimChars (trimRight cs) = trimChars cs
  := by
  obtain ⟨back, hcs, hback⟩ := exists_eq_append_trimRight cs
  symm
  apply (congrArg trimChars hcs).trans
  apply trimChars_append_of_forall hback

theorem mem_of_mem_trimChars {c : Char} (h : c ∈ trimChars cs) :
  c ∈ cs
  := by
  obtain ⟨front, back, hcs, -, -⟩ := exists_eq_append_trimChars cs
  rw [hcs]
  apply List.mem_append_right _ (List.mem_append_left _ h)

theorem toList_trim (s : String) :
  (trim s).toList = trimChars s.toList
  := by
  simp [trim]

theorem trim_ofList_trimChars (cs : List Char) :
  trim (String.ofList (trimChars cs)) = String.ofList (trimChars cs)
  := by
  rw [trim, String.toList_ofList, trimChars_trimChars]

theorem trim_trim (s : String) :
  trim (trim s) = trim s
  := trim_ofList_trimChars s.toList

/-- The characters of a text that is trimmed stay as they are. -/
theorem trimChars_toList {s : String} (h : trim s = s) :
  trimChars s.toList = s.toList
  := by
  rw [← toList_trim, h]

end ClippedCylinder.Text
