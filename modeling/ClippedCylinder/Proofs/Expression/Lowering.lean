import Mathlib
import ClippedCylinder.Proofs.Expression.Layout

/-!
# Tokens in lower case

Reading tokens is natural in the case of letters: from a text in lower case the tokens in lower case
are read, and nothing is read from it if nothing is read from the text itself
(`Token.scan_lowerChars`).  No part of the reader tells letters apart, except for the letter of an
exponent, which counts in both cases.
-/

namespace ClippedCylinder

/-! ### Characters -/

section

variable {α : Type}

/-- What is the same for all letters is the same for a letter in lower case. -/
theorem apply_toLower {f : Char → α} {a : α} (hf : ∀ c, c.isAlpha = true → f c = a) (c : Char) :
  f c.toLower = f c
  := by
  by_cases hc : c.isUpper = true
  · have hletter : c.isAlpha = true := by simp [Char.isAlpha, hc]
    rw [hf c hletter, hf c.toLower (by simpa using hletter)]
  · rw [Char.toLower_eq_of_not_isUpper hc]

theorem toLower_eq_iff {c d : Char} (hd : d.isAlpha = false) :
  c.toLower = d ↔ c = d
  := by
  rw [← eq_iff_iff]
  apply apply_toLower (f := (· = d)) (a := False)
  rintro c hc
  rw [eq_iff_iff, iff_false]
  rintro rfl
  rw [hc] at hd
  cases hd

theorem isNamePart_of_isAlpha {c : Char} (h : c.isAlpha = true) :
  Token.isNamePart c = true
  := by
  simp [Token.isNamePart, Char.isAlphanum, h]

@[simp]
theorem isBlank_toLower (c : Char) :
  Text.isBlank c.toLower = Text.isBlank c
  := apply_toLower (fun _ hc => Token.isBlank_of_isNamePart (isNamePart_of_isAlpha hc)) c

@[simp]
theorem isGap_toLower (c : Char) :
  Token.isGap c.toLower = Token.isGap c
  := apply_toLower (fun _ hc => Token.isGap_of_isNamePart (isNamePart_of_isAlpha hc)) c

@[simp]
theorem isNamePart_toLower (c : Char) :
  Token.isNamePart c.toLower = Token.isNamePart c
  := apply_toLower (fun _ hc => isNamePart_of_isAlpha hc) c

@[simp]
theorem isNameStart_toLower (c : Char) :
  Token.isNameStart c.toLower = Token.isNameStart c
  := apply_toLower (a := true) (fun c hc => by simp [Token.isNameStart, hc]) c

@[simp]
theorem ofChar?_toLower (c : Char) :
  Digit.ofChar? c.toLower = Digit.ofChar? c
  := by
  have hdigits : ∀ d : Digit, d.char.isAlpha = false := by decide
  apply apply_toLower (a := none)
  intro c hc
  cases hdigit : Digit.ofChar? c with
  | none => rfl
  | some d =>
    rw [← Digit.char_of_ofChar? hdigit, hdigits] at hc
    cases hc

end

/-! ### Texts -/

namespace Text

/-- The characters in lower case. -/
def lowerChars (cs : List Char) : List Char :=
  cs.map Char.toLower

@[simp]
theorem lowerChars_nil :
  lowerChars [] = []
  := rfl

@[simp]
theorem lowerChars_cons (c : Char) (cs : List Char) :
  lowerChars (c :: cs) = c.toLower :: lowerChars cs
  := rfl

theorem toList_toLower (s : String) :
  s.toLower.toList = lowerChars s.toList
  := String.toList_map

theorem toLower_ofList (cs : List Char) :
  (String.ofList cs).toLower = String.ofList (lowerChars cs)
  := by
  rw [← String.toList_inj, toList_toLower, String.toList_ofList, String.toList_ofList]

theorem toLower_toLower (s : String) :
  s.toLower.toLower = s.toLower
  := by
  rw [← String.toList_inj, toList_toLower, toList_toLower, lowerChars, lowerChars, List.map_map]
  congr 1
  funext c
  apply Char.toLower_toLower_eq_toLower

theorem trimLeft_lowerChars (cs : List Char) :
  trimLeft (lowerChars cs) = lowerChars (trimLeft cs)
  := by
  have hblank : isBlank ∘ Char.toLower = isBlank := funext isBlank_toLower
  rw [trimLeft, lowerChars, List.dropWhile_map, hblank]
  rfl

theorem trimRight_lowerChars (cs : List Char) :
  trimRight (lowerChars cs) = lowerChars (trimRight cs)
  := by
  rw [trimRight, lowerChars, ← List.map_reverse]
  apply (congrArg List.reverse (trimLeft_lowerChars cs.reverse)).trans
  apply List.map_reverse.symm

theorem trim_toLower (s : String) :
  trim s.toLower = (trim s).toLower
  := by
  rw [trim, trim, toLower_ofList, toList_toLower, trimChars, trimLeft_lowerChars,
    trimRight_lowerChars]
  rfl

end Text

open Text

/-! ### Numerals -/

/-- The exponent with its letter in lower case. -/
def Exponent.lowered (e : Exponent) : Exponent :=
  { e with upperCase := false }

/-- The numeral with the letter of its exponent in lower case. -/
def Numeral.lowered (n : Numeral) : Numeral :=
  { n with exponent := n.exponent.map Exponent.lowered }

theorem Digit.scan_lowerChars (cs : List Char) :
  scan (lowerChars cs) = ((scan cs).1, lowerChars (scan cs).2)
  := by
  induction cs with
  | nil => rfl
  | cons c cs ih =>
    rw [lowerChars_cons, scan, scan, ofChar?_toLower, ih]
    cases ofChar? c with
    | none => rfl
    | some d => rfl

theorem Mantissa.scan_lowerChars (cs : List Char) :
  scan (lowerChars cs) = (scan cs).map fun (m, rest) => (m, lowerChars rest)
  := by
  have hpoint (c : Char) : c.toLower = '.' ↔ c = '.' := toLower_eq_iff rfl
  rw [scan, scan, Digit.scan_lowerChars]
  rcases Digit.scan cs with ⟨_ | ⟨d, ds⟩, _ | ⟨c, rest⟩⟩
  · rfl
  · by_cases hc : c = '.'
    · subst hc
      have hlower : lowerChars ('.' :: rest) = '.' :: lowerChars rest := rfl
      simp only [hlower, Digit.scan_lowerChars]
      rcases Digit.scan rest with ⟨_ | ⟨d, ds⟩, rest⟩
      · rfl
      · rfl
    · simp [hc, hpoint]
  · rfl
  · by_cases hc : c = '.'
    · subst hc
      simp [Digit.scan_lowerChars]
    · simp [hc, hpoint]

theorem Exponent.scanSign_lowerChars (cs : List Char) :
  scanSign (lowerChars cs) = ((scanSign cs).1, lowerChars (scanSign cs).2)
  := by
  have hminus (c : Char) : c.toLower = '-' ↔ c = '-' := toLower_eq_iff rfl
  have hplus (c : Char) : c.toLower = '+' ↔ c = '+' := toLower_eq_iff rfl
  cases cs with
  | nil => rfl
  | cons c cs =>
    by_cases hc : c = '-'
    · subst hc
      rfl
    by_cases hc' : c = '+'
    · subst hc'
      rfl
    · simp [scanSign, hc, hc', hminus, hplus]

theorem toLower_ne_upper {c d : Char} (hd : d.isUpper = true) :
  c.toLower ≠ d
  := by
  rintro rfl
  rw [Char.isUpper_toLower_eq_false] at hd
  cases hd

/-- The letter of an exponent counts in both cases. -/
theorem Exponent.isLetter_toLower (c : Char) :
  (c.toLower = 'e' ∨ c.toLower = 'E') ↔ c = 'e' ∨ c = 'E'
  := by
  constructor
  · rintro (h | h)
    · by_cases hc : c.isUpper = true
      · have hlower := Char.toUpper_toLower_eq_toUpper c
        rw [h, Char.toUpper_eq_of_not_isLower (Char.not_isLower_of_isUpper hc)] at hlower
        apply Or.inr hlower.symm
      · rw [Char.toLower_eq_of_not_isUpper hc] at h
        apply Or.inl h
    · cases toLower_ne_upper rfl h
  · rintro (rfl | rfl)
    · apply Or.inl rfl
    · apply Or.inl rfl

theorem Exponent.scan_lowerChars (cs : List Char) :
  scan (lowerChars cs) = (scan cs).map fun (e, rest) => (e.lowered, lowerChars rest)
  := by
  cases cs with
  | nil => rfl
  | cons c cs =>
    have hupper : c.toLower ≠ 'E' := toLower_ne_upper rfl
    rw [lowerChars_cons, scan, scan]
    simp only [isLetter_toLower, scanSign_lowerChars, Digit.scan_lowerChars]
    split
    · rcases Digit.scan (scanSign cs).2 with ⟨_ | ⟨d, ds⟩, rest⟩
      · rfl
      · simp [lowered, hupper]
    · rfl

theorem Numeral.scan_lowerChars (cs : List Char) :
  scan (lowerChars cs) = (scan cs).map fun (n, rest) => (n.lowered, lowerChars rest)
  := by
  rw [scan, scan, Mantissa.scan_lowerChars]
  rcases Mantissa.scan cs with _ | ⟨m, rest⟩
  · rfl
  · simp only [Option.map_some, Exponent.scan_lowerChars]
    rcases Exponent.scan rest with _ | ⟨e, rest⟩
    · rfl
    · rfl

/-! ### Tokens -/

namespace Token

/-- The token with its letters in lower case. -/
def lowered : Token → Token
  | numeral n => numeral n.lowered
  | name text => name text.toLower
  | t => t

theorem mem_marks_toLower (c : Char) :
  c.toLower ∈ marks ↔ c ∈ marks
  := by
  rw [← eq_iff_iff]
  apply apply_toLower (f := (· ∈ marks)) (a := False)
  intro c hc
  have hmark := not_mem_marks_of_isNameStart (c := c) (by simp [isNameStart, hc])
  rw [eq_iff_iff, iff_false]
  apply hmark

/-- An equals sign after a sign of comparison is read with it in both cases. -/
theorem scanOne_lowerChars_of_comparator {c : Char} (hc : c = '<' ∨ c = '>') (cs : List Char) :
  scanOne (lowerChars (c :: cs))
    = (scanOne (c :: cs)).map fun (t, rest) => (t.lowered, lowerChars rest)
  := by
  have hequals (d : Char) : d.toLower = '=' ↔ d = '=' := toLower_eq_iff rfl
  cases cs with
  | nil =>
    rcases hc with rfl | rfl
    · rfl
    · rfl
  | cons d cs =>
    by_cases hd : d = '='
    · subst hd
      rcases hc with rfl | rfl
      · rfl
      · rfl
    · rcases hc with rfl | rfl
      · simp [scanOne, hd, hequals, lowered]
      · simp [scanOne, hd, hequals, lowered]

/-- The token at the beginning of a text in lower case. -/
theorem scanOne_lowerChars (cs : List Char) :
  scanOne (lowerChars cs) = (scanOne cs).map fun (t, rest) => (t.lowered, lowerChars rest)
  := by
  cases cs with
  | nil => rfl
  | cons c cs =>
    by_cases hc : c ∈ marks
    · simp only [marks, List.mem_cons, List.not_mem_nil, or_false] at hc
      rcases hc with rfl | rfl | rfl | rfl | rfl | rfl | rfl | rfl | hc
      · rfl
      · rfl
      · rfl
      · rfl
      · rfl
      · rfl
      · rfl
      · rfl
      · apply scanOne_lowerChars_of_comparator hc
    · have hc' := mt (mem_marks_toLower c).mp hc
      rw [lowerChars_cons, scanOne_of_not_mem_marks hc, scanOne_of_not_mem_marks hc',
        isNameStart_toLower]
      split
      · have hpart : isNamePart ∘ Char.toLower = isNamePart := funext isNamePart_toLower
        simp only [lowerChars, List.takeWhile_map, List.dropWhile_map, hpart, Option.map_some,
          lowered, toLower_ofList, List.map_cons]
      · have hscan := Numeral.scan_lowerChars (c :: cs)
        rw [lowerChars_cons] at hscan
        rw [hscan, Option.map_map, Option.map_map]
        rfl

/-- From a text in lower case the tokens in lower case are read, and from no other text. -/
theorem scan_lowerChars (cs : List Char) :
  scan (lowerChars cs) = (scan cs).map (List.map lowered)
  := by
  fun_induction scan cs with
  | case1 => rw [lowerChars_nil, scan, Option.map_some, List.map_nil]
  | case2 c cs hc ih =>
    rw [lowerChars_cons, scan, if_pos (by simpa using hc), ih]
  | case3 c cs hc hone =>
    have hlower := scanOne_lowerChars (c :: cs)
    rw [hone, lowerChars_cons, Option.map_none] at hlower
    rw [lowerChars_cons, scan, if_neg (by simpa using hc)]
    split
    · rfl
    · rename_i hsome
      rw [hlower] at hsome
      cases hsome
  | case4 c cs hc t rest hone hlt ih =>
    have hlower := scanOne_lowerChars (c :: cs)
    rw [hone, Option.map_some] at hlower
    rw [scan_of_scanOne _ hlower, ih, Option.map_map, Option.map_map]
    · rfl
    · simpa using hc

end Token

end ClippedCylinder
