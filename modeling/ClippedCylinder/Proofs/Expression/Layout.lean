import Mathlib.Data.List.Chain
import ClippedCylinder.Proofs.Expression.Lexeme
import ClippedCylinder.Proofs.Text.Trim

/-!
# Texts of tokens

`Token.Layout ts cs` says that the characters `cs` are the tokens `ts`, one after the other, with
gaps before, between and after them.  The tokens that are read from a text are laid out in it
(`Token.layout_of_scan`), and tokens are read back from every layout of them, even one without
any gap, as long as no two words follow one another (`Token.Layout.scan`).  Trimming removes
gaps only (`Token.Layout.trimChars`).
-/

namespace ClippedCylinder.Token

/-- The characters are those of the tokens, with gaps before, between and after them. -/
inductive Layout : List Token → List Char → Prop where
  | nil {gap : List Char} (hgap : ∀ c ∈ gap, isGap c = true) : Layout [] gap
  | cons {gap cs : List Char} {t : Token} {ts : List Token} (hgap : ∀ c ∈ gap, isGap c = true)
      (ht : t.IsLexeme) (h : Layout ts cs) : Layout (t :: ts) (gap ++ (t.chars ++ cs))

/-- Tokens that are read back however they are laid out: no word directly follows another, and
the keyword of planes is not among them. -/
structure IsSeparable (ts : List Token) : Prop where
  keyword : radial ∉ ts
  words : ts.IsChain fun t u => t.isWord = true → u.isWord = false

theorem IsSeparable.tail {t : Token} {ts : List Token} (h : IsSeparable (t :: ts)) :
  IsSeparable ts
  := by
  constructor
  · apply mt (List.mem_cons_of_mem t) h.keyword
  · apply h.words.tail

/-- A word is not followed by another one. -/
theorem IsSeparable.isWord_head {t : Token} {ts : List Token} (h : IsSeparable (t :: ts))
    (ht : t.isWord = true) :
  ∀ u ∈ ts.head?, u.isWord = false
  := by
  intro u hu
  obtain ⟨us, rfl⟩ := List.head?_eq_some_iff.mp hu
  apply (List.isChain_cons_cons.mp h.words).1 ht

/-! ### Whole texts -/

theorem scan_gap_append {gap : List Char} (hgap : ∀ c ∈ gap, isGap c = true) (cs : List Char) :
  scan (gap ++ cs) = scan cs
  := by
  induction gap with
  | nil => rfl
  | cons c gap ih =>
    rw [List.forall_mem_cons] at hgap
    rw [List.cons_append, scan, if_pos hgap.1, ih hgap.2]

theorem scan_of_scanOne {cs rest : List Char} {t : Token}
    (hgap : ∀ c ∈ cs.head?, isGap c = false) (h : scanOne cs = some (t, rest)) :
  scan cs = (scan rest).map (t :: ·)
  := by
  cases cs with
  | nil => cases h
  | cons c cs =>
    have hc := hgap c rfl
    rw [scan, if_neg (by simp [hc])]
    split
    · simp_all
    · simp_all

/-- A text that starts with a token starts with no blank. -/
theorem isBlank_head_chars {t : Token} (ht : t.IsLexeme) (cs : List Char) :
  ∀ c ∈ (t.chars ++ cs).head?, Text.isBlank c = false
  := by
  intro c hc
  obtain ⟨d, ds, hds, -⟩ := exists_chars_eq ht
  apply isBlank_of_mem_chars ht
  rw [hds] at hc ⊢
  obtain rfl := Option.some.inj hc
  apply List.mem_cons_self

theorem not_isNamePart_of_isGap {c : Char} (h : isGap c = true) :
  isNamePart c = false ∧ c ≠ '.'
  := by
  constructor
  · rw [← Bool.not_eq_true]
    intro hpart
    simp [isGap_of_isNamePart hpart] at h
  · rintro rfl
    cases h

theorem forall_head?_append {cs ds : List Char} {P : Char → Prop} (hcs : ∀ c ∈ cs.head?, P c)
    (hds : ∀ c ∈ ds.head?, P c) :
  ∀ c ∈ (cs ++ ds).head?, P c
  := by
  cases cs with
  | nil => apply hds
  | cons c cs => apply hcs

namespace Layout

variable {ts : List Token} {cs : List Char}

/-- A text of tokens starts with a gap or with its first token. -/
theorem head (h : Layout ts cs) :
  ∀ c ∈ cs.head?, isGap c = true ∨ ∃ t ∈ ts.head?, t.IsLexeme ∧ t.chars.head? = some c
  := by
  intro c hc
  cases h with
  | nil hgap =>
    apply Or.inl (hgap c (List.mem_of_mem_head? hc))
  | @cons gap cs t ts hgap ht h =>
    cases gap with
    | nil =>
      obtain ⟨d, ds, hds, -⟩ := exists_chars_eq ht
      rw [hds] at hc
      exact .inr ⟨t, rfl, ht, by rw [hds]; exact hc⟩
    | cons d gap =>
      obtain rfl := Option.some.inj hc
      apply Or.inl (hgap d List.mem_cons_self)

/-- No text of tokens starts with an equals sign. -/
theorem head_ne_equals (h : Layout ts cs) :
  ∀ c ∈ cs.head?, c ≠ '='
  := by
  intro c hc
  rcases h.head c hc with hgap | ⟨t, -, ht, hhead⟩
  · rintro rfl
    cases hgap
  · obtain ⟨d, ds, hds, hne, -⟩ := exists_chars_eq ht
    rw [hds] at hhead
    obtain rfl := Option.some.inj hhead
    apply hne

/-- Where no word comes first, the text goes on with no word. -/
theorem head_of_not_isWord (h : Layout ts cs) (hword : ∀ t ∈ ts.head?, t.isWord = false) :
  ∀ c ∈ cs.head?, isNamePart c = false ∧ c ≠ '.'
  := by
  intro c hc
  rcases h.head c hc with hgap | ⟨t, ht, hlexeme, hhead⟩
  · apply not_isNamePart_of_isGap hgap
  · obtain ⟨d, ds, hds, -, hd⟩ := exists_chars_eq hlexeme
    rw [hds] at hhead
    obtain rfl := Option.some.inj hhead
    apply hd (hword t ht)

/-- The characters of a text of tokens are gaps or belong to tokens. -/
theorem isGap_or_mem_chars (h : Layout ts cs) {c : Char} (hc : c ∈ cs) :
  isGap c = true ∨ ∃ t ∈ ts, t.IsLexeme ∧ c ∈ t.chars
  := by
  induction h with
  | nil hgap => apply Or.inl (hgap c hc)
  | @cons gap cs t ts hgap ht h ih =>
    rcases List.mem_append.mp hc with hc | hc
    · apply Or.inl (hgap c hc)
    rcases List.mem_append.mp hc with hc | hc
    · exact .inr ⟨t, List.mem_cons_self, ht, hc⟩
    · apply (ih hc).imp_right
      rintro ⟨u, hu, hchars⟩
      exact ⟨u, List.mem_cons_of_mem t hu, hchars⟩

/-- A text of tokens without comparators has no sign of comparison. -/
theorem ne_of_mem (h : Layout ts cs) (hts : ∀ t ∈ ts, t.isComparator = false) {c : Char}
    (hc : c ∈ cs) :
  c ≠ '<' ∧ c ≠ '>'
  := by
  rcases h.isGap_or_mem_chars hc with hgap | ⟨t, ht, hlexeme, hchars⟩
  · constructor
    · rintro rfl
      cases hgap
    · rintro rfl
      cases hgap
  · apply ne_of_mem_chars hlexeme (hts t ht) hchars

/-- Tokens are read back from every layout of them, before the tokens of what stands after a gap. -/
theorem scan_append (h : Layout ts cs) (hts : IsSeparable ts) {rest : List Char}
    (hrest : ∀ c ∈ rest.head?, isGap c = true) :
  Token.scan (cs ++ rest) = (Token.scan rest).map (ts ++ ·)
  := by
  induction h with
  | nil hgap =>
    rw [scan_gap_append hgap]
    exact Option.map_id'.symm
  | @cons gap cs t ts hgap ht h ih =>
    have hsuffix := ih hts.tail
    have hkeyword : t ≠ radial := (List.ne_of_not_mem_cons hts.keyword).symm
    have hone : scanOne (t.chars ++ (cs ++ rest)) = some (t, cs ++ rest) := by
      apply scanOne_append ht hkeyword
      · intro hword
        apply forall_head?_append
        · apply h.head_of_not_isWord (hts.isWord_head hword)
        · intro c hc
          apply not_isNamePart_of_isGap (hrest c hc)
      · apply forall_head?_append h.head_ne_equals
        rintro _ hc rfl
        cases hrest _ hc
    have hstart : ∀ c ∈ (t.chars ++ (cs ++ rest)).head?, isGap c = false := by
      intro c hc
      have hblank := isBlank_head_chars ht (cs ++ rest) c hc
      rw [← Bool.not_eq_true] at hblank ⊢
      apply mt isBlank_of_isGap hblank
    rw [List.append_assoc, List.append_assoc, scan_gap_append hgap, scan_of_scanOne hstart hone,
      hsuffix, Option.map_map]
    rfl

/-- Tokens are read back from every layout of them. -/
theorem scan (h : Layout ts cs) (hts : IsSeparable ts) :
  Token.scan cs = some ts
  := by
  have hnil : ∀ c ∈ ([] : List Char).head?, isGap c = true := nofun
  have hscan := h.scan_append hts hnil
  rw [List.append_nil, Token.scan, Option.map_some, List.append_nil] at hscan
  apply hscan

/-- A token may stand before a text of tokens without a gap. -/
theorem token_append {t : Token} (ht : t.IsLexeme) (h : Layout ts cs) :
  Layout (t :: ts) (t.chars ++ cs)
  := by
  have hgap : ∀ c ∈ [], isGap c = true := nofun
  apply h.cons hgap ht

theorem gap_cons {c : Char} (hc : isGap c = true) (h : Layout ts cs) :
  Layout ts (c :: cs)
  := by
  cases h with
  | nil hgap => apply Layout.nil (List.forall_mem_cons.mpr ⟨hc, hgap⟩)
  | cons hgap ht h => apply Layout.cons (List.forall_mem_cons.mpr ⟨hc, hgap⟩) ht h

end Layout

/-- The tokens that are read from a text are laid out in it. -/
theorem layout_of_scan {cs : List Char} {ts : List Token} (h : scan cs = some ts) :
  Layout ts cs
  := by
  fun_induction scan cs generalizing ts with
  | case1 =>
    obtain rfl := Option.some.inj h
    apply Layout.nil
    simp
  | case2 c cs hc ih => apply (ih h).gap_cons hc
  | case3 => cases h
  | case4 c cs hc t rest hone hlt ih =>
    rw [Option.map_eq_some_iff] at h
    obtain ⟨us, hus, rfl⟩ := h
    obtain ⟨hcs, ht⟩ := chars_append_of_scanOne hone
    rw [← hcs]
    apply (ih hus).token_append ht

theorem layout_of_scanPlane {cs : List Char} {ts : List Token} (h : scanPlane cs = some ts) :
  Layout ts cs
  := by
  unfold scanPlane at h
  split at h
  · rw [Option.map_eq_some_iff] at h
    obtain ⟨us, hus, rfl⟩ := h
    apply (layout_of_scan hus).token_append (t := radial) trivial
  · cases h

namespace Layout

variable {t : Token} {ts us : List Token} {cs ds : List Char}

/-! ### Trimming -/

/-- A text that starts with no blank starts with its first token. -/
theorem exists_eq_append (h : Layout (t :: ts) cs)
    (hcs : ∀ c ∈ cs.head?, Text.isBlank c = false) :
  ∃ ds, cs = t.chars ++ ds ∧ Layout ts ds
  := by
  cases h with
  | @cons gap ds t ts hgap ht h =>
    cases gap with
    | nil => exact ⟨ds, rfl, h⟩
    | cons c gap =>
      have hblank := isBlank_of_isGap (hgap c List.mem_cons_self)
      rw [hcs c rfl] at hblank
      cases hblank

theorem trimLeft (h : Layout ts cs) :
  Layout ts (Text.trimLeft cs)
  := by
  cases h with
  | nil hgap =>
    rw [Text.trimLeft_of_forall fun c hc => isBlank_of_isGap (hgap c hc)]
    apply Layout.nil
    simp
  | cons hgap ht h =>
    rw [Text.trimLeft_append fun c hc => isBlank_of_isGap (hgap c hc), Text.trimLeft_of_head]
    · apply h.token_append ht
    · apply isBlank_head_chars ht

theorem trimRight (h : Layout ts cs) :
  Layout ts (Text.trimRight cs)
  := by
  induction h with
  | nil hgap =>
    rw [Text.trimRight_of_forall fun c hc => isBlank_of_isGap (hgap c hc)]
    apply Layout.nil
    simp
  | @cons gap cs t ts hgap ht h ih =>
    have hlast : ∃ c ∈ (gap ++ t.chars).getLast?, Text.isBlank c = false := by
      obtain ⟨d, ds, hds, -⟩ := exists_chars_eq ht
      have hne : t.chars ≠ [] := by simp [hds]
      refine ⟨t.chars.getLast hne, ?_, isBlank_of_mem_chars ht (List.getLast_mem hne)⟩
      simp [List.getLast?_append, List.getLast?_eq_some_getLast hne]
    rw [← List.append_assoc, Text.trimRight_append hlast, List.append_assoc]
    apply Layout.cons hgap ht ih

/-- Trimming removes gaps only. -/
theorem trimChars (h : Layout ts cs) :
  Layout ts (Text.trimChars cs)
  := h.trimLeft.trimRight

/-! ### Parts of texts -/

theorem ne_nil (h : Layout (t :: ts) cs) :
  cs ≠ []
  := by
  cases h with
  | cons hgap ht h =>
    obtain ⟨c, ds, hds, -⟩ := exists_chars_eq ht
    simp [hds]

theorem exists_append (h : Layout (ts ++ us) cs) :
  ∃ ds es, cs = ds ++ es ∧ Layout ts ds ∧ Layout us es
  := by
  induction ts generalizing cs with
  | nil =>
    have hnil : Layout [] [] := .nil (by simp)
    exact ⟨[], cs, rfl, hnil, h⟩
  | cons t ts ih =>
    cases h with
    | @cons gap cs t ts hgap ht h =>
      obtain ⟨ds, es, rfl, hds, hes⟩ := ih h
      refine ⟨gap ++ (t.chars ++ ds), es, ?_, .cons hgap ht hds, hes⟩
      simp only [List.append_assoc]

/-- Two texts of tokens, one after the other. -/
theorem append (h : Layout ts cs) (h' : Layout us ds) :
  Layout (ts ++ us) (cs ++ ds)
  := by
  induction h with
  | @nil gap hgap =>
    induction gap with
    | nil => apply h'
    | cons c gap ih =>
      rw [List.forall_mem_cons] at hgap
      apply (ih hgap.2).gap_cons hgap.1
  | cons hgap ht h ih =>
    rw [List.append_assoc, List.append_assoc]
    apply Layout.cons hgap ht ih

theorem append_gap {gap : List Char} (h : Layout ts cs) (hgap : ∀ c ∈ gap, isGap c = true) :
  Layout ts (cs ++ gap)
  := by
  induction h with
  | nil hcs =>
    apply Layout.nil
    simp only [List.mem_append, or_imp, forall_and]
    exact ⟨hcs, hgap⟩
  | cons hcs ht h ih =>
    rw [List.append_assoc, List.append_assoc]
    apply Layout.cons hcs ht ih

/-- A text is split at each of its tokens. -/
theorem exists_append_cons (h : Layout (ts ++ t :: us) cs) :
  ∃ before after, cs = before ++ (t.chars ++ after) ∧ Layout ts before ∧ Layout us after
  := by
  obtain ⟨ds, es, rfl, hds, hes⟩ := h.exists_append
  cases hes with
  | @cons gap after _ _ hgap _ hafter =>
    exact ⟨ds ++ gap, after, (List.append_assoc ds gap _).symm, hds.append_gap hgap, hafter⟩

/-- A text that ends with no blank ends with its last token. -/
theorem exists_eq_append_chars (h : Layout (ts ++ [t]) cs)
    (hcs : ∀ c ∈ cs.getLast?, Text.isBlank c = false) :
  ∃ ds, cs = ds ++ t.chars
  := by
  obtain ⟨ds, es, rfl, -, hes⟩ := h.exists_append
  cases hes with
  | @cons gap rest _ _ hgap ht hrest =>
    cases hrest with
    | nil hrest =>
      cases hlast : rest.getLast? with
      | none =>
        rw [List.getLast?_eq_none_iff.mp hlast]
        exact ⟨ds ++ gap, by simp⟩
      | some c =>
        have hblank := isBlank_of_isGap (hrest c (List.mem_of_getLast? hlast))
        rw [hcs c (by simp [hlast])] at hblank
        cases hblank

end Layout

end ClippedCylinder.Token
