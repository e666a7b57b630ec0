import Mathlib
import ClippedCylinder.Expression.Token
import ClippedCylinder.Proofs.Expression.Numeral
import ClippedCylinder.Text.Blank

/-!
# Reading single tokens

The token that is read and the rest make up the text (`Token.chars_append_of_scanOne`), and a
token is read back if the text after it does not go on with it (`Token.scanOne_append`).
-/

namespace ClippedCylinder

/-- Whether the text is a name: a letter or an underscore, and then letters, digits and
underscores. -/
def isName (text : String) : Bool :=
  match text.toList with
  | [] => false
  | c :: cs => Token.isNameStart c && cs.all Token.isNamePart

namespace Token

/-- Whether letters and digits may go on with the token. -/
def isWord : Token → Bool
  | numeral _ | name _ | radial => true
  | _ => false

/-- Whether the token is a comparator. -/
def isComparator : Token → Bool
  | comparator _ => true
  | _ => false

/-- The tokens that stand for a part of a text: names are written as names. -/
def IsLexeme : Token → Prop
  | name text => isName text = true
  | _ => True

/-! ### Characters -/

section

variable {c : Char}

theorem isBlank_of_isGap (h : isGap c = true) :
  Text.isBlank c = true
  := by
  simp only [isGap, Bool.or_eq_true, beq_iff_eq] at h
  rcases h with (((rfl | rfl) | rfl) | rfl) | rfl
  · rfl
  · rfl
  · rfl
  · rfl
  · rfl

/-- The letters, the digits and the underscore by their code points. -/
theorem isNamePart_iff :
  isNamePart c = true ↔ (65 ≤ c.toNat ∧ c.toNat ≤ 90) ∨ (97 ≤ c.toNat ∧ c.toNat ≤ 122) ∨
    (48 ≤ c.toNat ∧ c.toNat ≤ 57) ∨ c = '_'
  := by
  simp only [isNamePart, Char.isAlphanum, Char.isAlpha, Char.isUpper, Char.isLower, Char.isDigit,
    Bool.or_eq_true, Bool.and_eq_true, decide_eq_true_eq, UInt32.le_iff_toNat_le, beq_iff_eq,
    or_assoc]
  rfl

theorem isBlank_of_isNamePart (h : isNamePart c = true) :
  Text.isBlank c = false
  := by
  rw [isNamePart_iff] at h
  rw [← Bool.not_eq_true]
  intro hblank
  simp only [Text.isBlank, Bool.or_eq_true, Bool.and_eq_true, decide_eq_true_eq,
    beq_iff_eq] at hblank
  rcases h with h | h | h | rfl
  · omega
  · omega
  · omega
  · revert hblank
    decide

theorem isNamePart_of_isNameStart (h : isNameStart c = true) :
  isNamePart c = true
  := by
  rw [isNameStart, Bool.or_eq_true] at h
  rw [isNamePart, Bool.or_eq_true, Char.isAlphanum, Bool.or_eq_true]
  rcases h with h | h
  · apply Or.inl (Or.inl h)
  · apply Or.inr h

/-- Every digit may be a part of a name. -/
theorem ofChar?_of_isNamePart (h : isNamePart c = false) :
  Digit.ofChar? c = none
  := by
  rw [← Bool.not_eq_true, isNamePart_iff] at h
  simp only [Digit.ofChar?, dite_eq_right_iff, reduceCtorEq, imp_false]
  omega

theorem isNamePart_char (d : Digit) :
  isNamePart d.char = true
  := by
  revert d
  decide

theorem isGap_of_isNamePart (h : isNamePart c = true) :
  isGap c = false
  := by
  have hblank := isBlank_of_isNamePart h
  rw [← Bool.not_eq_true] at hblank ⊢
  apply mt isBlank_of_isGap hblank

end

/-! ### Single tokens -/

/-- The characters that tokens other than words start with. -/
def marks : List Char :=
  ['+', '-', '*', '/', '^', '(', ')', ',', '<', '>']

theorem scanOne_of_not_mem_marks {c : Char} (h : c ∉ marks) (cs : List Char) :
  scanOne (c :: cs) =
    if isNameStart c then
      some (name (String.ofList (c :: cs.takeWhile isNamePart)), cs.dropWhile isNamePart)
    else (Numeral.scan (c :: cs)).map fun (n, rest) => (numeral n, rest)
  := by
  unfold scanOne
  split <;> simp_all [marks]

theorem not_mem_marks_of_isNameStart {c : Char} (h : isNameStart c = true) :
  c ∉ marks
  := by
  intro hc
  have hall : marks.all (fun c => !isNameStart c) = true := by decide
  have hnot := List.all_eq_true.mp hall c hc
  rw [h] at hnot
  cases hnot

/-- A name is read back if the text after it does not go on with it. -/
theorem scanOne_name {text : String} (h : isName text = true) {cs : List Char}
    (hcs : ∀ c ∈ cs.head?, isNamePart c = false) :
  scanOne (text.toList ++ cs) = some (name text, cs)
  := by
  have hstop : cs.takeWhile isNamePart = [] ∧ cs.dropWhile isNamePart = cs := by
    cases cs with
    | nil => exact ⟨rfl, rfl⟩
    | cons c cs => simp [hcs c rfl]
  unfold isName at h
  split at h
  · cases h
  · rename_i c ds hds
    rw [Bool.and_eq_true, List.all_eq_true] at h
    obtain ⟨hc, hall⟩ := h
    rw [hds, List.cons_append, scanOne_of_not_mem_marks (not_mem_marks_of_isNameStart hc),
      if_pos hc, List.takeWhile_append_of_pos hall, List.dropWhile_append_of_pos hall, hstop.1,
      hstop.2, List.append_nil, ← hds, String.ofList_toList]

/-- A numeral starts with a digit or with the point. -/
theorem exists_numeral_chars_eq (n : Numeral) :
  ∃ c cs, n.chars = c :: cs ∧ (c = '.' ∨ ∃ d : Digit, c = d.char)
  := by
  obtain ⟨m, exponent⟩ := n
  cases m with
  | whole d ds => exact ⟨_, _, rfl, .inr ⟨d, rfl⟩⟩
  | pointed d ds fs => exact ⟨_, _, rfl, .inr ⟨d, rfl⟩⟩
  | fractional d ds => exact ⟨_, _, rfl, .inl rfl⟩

/-- Numerals do not start with a mark or like a name. -/
theorem numeral_head {c : Char} (h : c = '.' ∨ ∃ d : Digit, c = d.char) :
  c ∉ marks ∧ isNameStart c = false
  := by
  rcases h with rfl | ⟨d, rfl⟩
  · decide
  · revert d
    decide

/-- A numeral is read back if the text after it does not go on with it. -/
theorem scanOne_numeral (n : Numeral) {cs : List Char}
    (hcs : ∀ c ∈ cs.head?, isNamePart c = false ∧ c ≠ '.') :
  scanOne (n.chars ++ cs) = some (numeral n, cs)
  := by
  have hletter : ∀ c ∈ cs.head?, c ≠ 'e' ∧ c ≠ 'E' := by
    intro c hc
    constructor
    · rintro rfl
      cases (hcs _ hc).1
    · rintro rfl
      cases (hcs _ hc).1
  have hscan := n.scan_append (fun c hc => ofChar?_of_isNamePart (hcs c hc).1)
    (fun c hc => (hcs c hc).2) hletter
  obtain ⟨c, ds, hds, hhead⟩ := exists_numeral_chars_eq n
  obtain ⟨hmark, hstart⟩ := numeral_head hhead
  rw [hds, List.cons_append] at hscan ⊢
  simp [scanOne_of_not_mem_marks hmark, hstart, hscan]

/-- A token is read back if the text after it does not go on with it: no letter, digit or point
after a word, and no equals sign. -/
theorem scanOne_append {t : Token} (ht : t.IsLexeme) (hkeyword : t ≠ radial) {cs : List Char}
    (hword : t.isWord = true → ∀ c ∈ cs.head?, isNamePart c = false ∧ c ≠ '.')
    (hequals : ∀ c ∈ cs.head?, c ≠ '=') :
  scanOne (t.chars ++ cs) = some (t, cs)
  := by
  cases t with
  | numeral n => apply scanOne_numeral n (hword rfl)
  | name text => apply scanOne_name ht fun c hc => (hword rfl c hc).1
  | radial => cases hkeyword rfl
  | comparator c =>
    cases c with
    | le => rfl
    | ge => rfl
    | lt =>
      change scanOne ('<' :: cs) = some (comparator .lt, cs)
      rw [scanOne]
      rintro cs' rfl
      apply hequals '=' rfl rfl
    | gt =>
      change scanOne ('>' :: cs) = some (comparator .gt, cs)
      rw [scanOne]
      rintro cs' rfl
      apply hequals '=' rfl rfl
  | _ => rfl

/-- The token that is read and the rest make up the text. -/
theorem chars_append_of_scanOne {cs rest : List Char} {t : Token}
    (h : scanOne cs = some (t, rest)) :
  t.chars ++ rest = cs ∧ t.IsLexeme
  := by
  unfold scanOne at h
  split at h
  case h_1 => cases h
  case h_14 c cs _ _ _ _ _ _ _ _ _ _ _ _ =>
    split at h
    · rename_i hc
      obtain ⟨rfl, rfl⟩ := h
      constructor
      · simp [chars]
      · simp [IsLexeme, isName, hc]
    · rw [Option.map_eq_some_iff] at h
      obtain ⟨⟨n, rest⟩, hn, ⟨⟩⟩ := h
      exact ⟨Numeral.chars_append_of_scan hn, trivial⟩
  all_goals
    obtain ⟨rfl, rfl⟩ := h
    exact ⟨rfl, trivial⟩

/-! ### The characters of tokens -/

/-- The characters other than letters, digits and underscores that tokens other than comparators
have. -/
def signs : List Char :=
  ['.', '+', '-', '*', '/', '^', '(', ')', ',']

/-- The characters of a numeral other than digits and exponent letters. -/
theorem mem_numeral_chars {n : Numeral} {c : Char} (h : c ∈ n.chars) :
  isNamePart c = true ∨ c ∈ ['.', '+', '-']
  := by
  have hdigits (ds : List Digit) (hc : c ∈ ds.map Digit.char) : isNamePart c = true := by
    obtain ⟨d, -, rfl⟩ := List.mem_map.mp hc
    apply isNamePart_char
  obtain ⟨m, exponent⟩ := n
  rcases List.mem_append.mp h with hm | he
  · cases m with
    | whole d ds => apply Or.inl (hdigits _ hm)
    | pointed d ds fs =>
      rcases List.mem_append.mp hm with hm | hm
      · apply Or.inl (hdigits _ hm)
      · rcases List.mem_cons.mp hm with rfl | hm
        · simp
        · apply Or.inl (hdigits _ hm)
    | fractional d ds =>
      rcases List.mem_cons.mp hm with rfl | hm
      · simp
      · apply Or.inl (hdigits _ hm)
  · cases exponent with
    | none => cases he
    | some e =>
      change c ∈ e.chars at he
      rw [e.chars_eq] at he
      rcases List.mem_cons.mp he with rfl | he
      · cases e.upperCase
        · apply Or.inl rfl
        · apply Or.inl rfl
      · rcases List.mem_append.mp he with hs | hd
        · rcases hsign : e.sign with - | - | -
          · simp [hsign, Exponent.signChars] at hs
          · simp_all [Exponent.signChars]
          · simp_all [Exponent.signChars]
        · apply Or.inl (hdigits _ hd)

/-- The characters of tokens other than comparators. -/
theorem mem_chars {t : Token} (ht : t.IsLexeme) (hcomparator : t.isComparator = false) {c : Char}
    (h : c ∈ t.chars) :
  isNamePart c = true ∨ c ∈ signs
  := by
  cases t with
  | numeral n =>
    apply (mem_numeral_chars h).imp_right
    apply List.mem_append_left ['*', '/', '^', '(', ')', ',']
  | name text =>
    change c ∈ text.toList at h
    simp only [IsLexeme, isName] at ht
    split at ht
    · cases ht
    · rename_i d ds hds
      rw [Bool.and_eq_true, List.all_eq_true] at ht
      rw [hds] at h
      rcases List.mem_cons.mp h with rfl | hc
      · apply Or.inl (isNamePart_of_isNameStart ht.1)
      · apply Or.inl (ht.2 c hc)
  | radial =>
    obtain rfl := List.mem_singleton.mp h
    apply Or.inl rfl
  | comparator => cases hcomparator
  | _ =>
    obtain rfl := List.mem_singleton.mp h
    decide

/-- No blank is part of a token. -/
theorem isBlank_of_mem_chars {t : Token} (ht : t.IsLexeme) {c : Char} (h : c ∈ t.chars) :
  Text.isBlank c = false
  := by
  cases hcomparator : t.isComparator with
  | false =>
    have hall : signs.all (fun c => !Text.isBlank c) = true := by decide
    rcases mem_chars ht hcomparator h with hpart | hmark
    · apply isBlank_of_isNamePart hpart
    · simpa using List.all_eq_true.mp hall c hmark
  | true =>
    cases t with
    | comparator comparator =>
      have hall : comparator.chars.all (fun c => !Text.isBlank c) = true := by
        cases comparator <;> rfl
      simpa using List.all_eq_true.mp hall c h
    | _ => cases hcomparator

/-- Signs of comparison are part of comparators only. -/
theorem ne_of_mem_chars {t : Token} (ht : t.IsLexeme) (hcomparator : t.isComparator = false)
    {c : Char} (h : c ∈ t.chars) :
  c ≠ '<' ∧ c ≠ '>'
  := by
  rcases mem_chars ht hcomparator h with hpart | hmark
  · constructor
    · rintro rfl
      cases hpart
    · rintro rfl
      cases hpart
  · have hall : ∀ c ∈ signs, c ≠ '<' ∧ c ≠ '>' := by simp [signs]
    apply hall c hmark

/-- A token has a first character.  It is no equals sign, and it goes on with a word only if it
belongs to one. -/
theorem exists_chars_eq {t : Token} (ht : t.IsLexeme) :
  ∃ c cs, t.chars = c :: cs ∧ c ≠ '=' ∧ (t.isWord = false → isNamePart c = false ∧ c ≠ '.')
  := by
  cases t with
  | numeral n =>
    obtain ⟨c, cs, hcs, hhead⟩ := exists_numeral_chars_eq n
    refine ⟨c, cs, hcs, ?_, by simp [isWord]⟩
    rcases hhead with rfl | ⟨d, rfl⟩
    · decide
    · intro hd
      have hpart := isNamePart_char d
      rw [hd] at hpart
      cases hpart
  | name text =>
    simp only [IsLexeme, isName] at ht
    split at ht
    · cases ht
    · rename_i d ds hds
      rw [Bool.and_eq_true] at ht
      refine ⟨d, ds, hds, ?_, by simp [isWord]⟩
      rintro rfl
      cases ht.1
  | comparator comparator =>
    cases comparator
    · exact ⟨_, _, rfl, by decide⟩
    · exact ⟨_, _, rfl, by decide⟩
    · exact ⟨_, _, rfl, by decide⟩
    · exact ⟨_, _, rfl, by decide⟩
  | _ => exact ⟨_, _, rfl, by decide⟩

end Token

end ClippedCylinder
