import ClippedCylinder.Expression.Numeral

/-!
# Reading numerals

Reading is the inverse of writing.  A numeral that is read together with the rest makes up the
text (`Numeral.chars_append_of_scan`), and a written numeral is read back if the text after it
does not go on with it (`Numeral.scan_append`).  Whatever comes after it, at least that numeral is
read, so what is read is the longest numeral that the text starts with (`Numeral.prefix_of_scan`).
The texts of numerals are told without reading them by `IsNumeral`.
-/

namespace ClippedCylinder

/-! ### Digits -/

namespace Digit

theorem char_of_ofChar? {c : Char} {d : Digit} (h : ofChar? c = some d) :
  d.char = c
  := by
  unfold ofChar? at h
  split at h
  · rename_i hc
    obtain rfl := Option.some.inj h
    have hn : 48 + (c.toNat - 48) = c.toNat := by omega
    simp only [char, hn, Char.ofNat_toNat]
  · cases h

/-- Digits before a text are read with the digits that the text starts with. -/
theorem scan_map_char_append (ds : List Digit) (cs : List Char) :
  scan (ds.map char ++ cs) = (ds ++ (scan cs).1, (scan cs).2)
  := by
  induction ds with
  | nil => rfl
  | cons d ds ih => simp [scan, ih]

/-- Digits before a text that does not start with one are read back. -/
theorem scan_append (ds : List Digit) {cs : List Char} (h : ∀ c ∈ cs.head?, ofChar? c = none) :
  scan (ds.map char ++ cs) = (ds, cs)
  := by
  have hcs : scan cs = ([], cs) := by
    cases cs with
    | nil => rfl
    | cons c cs => simp [scan, h c rfl]
  rw [scan_map_char_append, hcs, List.append_nil]

/-- No digits are read at a point. -/
theorem ofChar?_head_point (cs : List Char) :
  ∀ c ∈ ('.' :: cs).head?, ofChar? c = none
  := by
  rintro c ⟨⟩
  rfl

/-- The digits that are read and the rest make up the text. -/
theorem map_char_scan_append (cs : List Char) :
  (scan cs).1.map char ++ (scan cs).2 = cs
  := by
  fun_induction scan cs with
  | case1 => rfl
  | case2 => rfl
  | case3 c cs d h ih => simp [char_of_ofChar? h, ih]

theorem append_of_scan {cs rest : List Char} {ds : List Digit} (h : scan cs = (ds, rest)) :
  ds.map char ++ rest = cs
  := by
  have hcs := map_char_scan_append cs
  rw [h] at hcs
  apply hcs

theorem isDigit_char (d : Digit) :
  d.char.isDigit = true
  := by
  revert d
  decide

theorem exists_char_eq {c : Char} (h : c.isDigit = true) :
  ∃ d : Digit, d.char = c
  := by
  have hc : 48 ≤ c.toNat ∧ c.toNat < 58 := by
    simp only [Char.isDigit, Bool.and_eq_true, decide_eq_true_eq, UInt32.le_iff_toNat_le,
      ge_iff_le] at h
    exact ⟨h.1, Nat.lt_succ_of_le h.2⟩
  exact ⟨_, char_of_ofChar? (dif_pos hc)⟩

theorem exists_map_char_eq {cs : List Char} (h : ∀ c ∈ cs, c.isDigit = true) :
  ∃ ds : List Digit, ds.map char = cs
  := by
  induction cs with
  | nil => exact ⟨[], rfl⟩
  | cons c cs ih =>
    rw [List.forall_mem_cons] at h
    obtain ⟨d, rfl⟩ := exists_char_eq h.1
    obtain ⟨ds, rfl⟩ := ih h.2
    exact ⟨d :: ds, rfl⟩

end Digit

/-! ### Mantissas and exponents -/

theorem Mantissa.scan_append (m : Mantissa) {cs : List Char}
    (hdigit : ∀ c ∈ cs.head?, Digit.ofChar? c = none) (hpoint : ∀ c ∈ cs.head?, c ≠ '.') :
  scan (m.chars ++ cs) = some (m, cs)
  := by
  cases m with
  | whole d ds =>
    have hscan := Digit.scan_append (d :: ds) hdigit
    rw [chars, scan, hscan]
    cases cs with
    | nil => rfl
    | cons c cs =>
      have hc := hpoint c rfl
      split <;> simp_all
  | pointed d ds fs =>
    have hscan := Digit.scan_append (d :: ds) (Digit.ofChar?_head_point (fs.map Digit.char ++ cs))
    have hfraction := Digit.scan_append fs hdigit
    rw [chars, List.append_assoc, List.cons_append, scan, hscan]
    simp only [hfraction]
  | fractional d ds =>
    have hscan := Digit.scan_append [] (Digit.ofChar?_head_point ((d :: ds).map Digit.char ++ cs))
    have hfraction := Digit.scan_append (d :: ds) hdigit
    rw [List.map_nil, List.nil_append] at hscan
    rw [chars, List.cons_append, scan, hscan]
    simp only [hfraction]

theorem Mantissa.chars_append_of_scan {cs rest : List Char} {m : Mantissa}
    (h : scan cs = some (m, rest)) :
  m.chars ++ rest = cs
  := by
  unfold scan at h
  split at h
  · rename_i d ds tail hd
    obtain ⟨rfl, rfl⟩ := h
    rw [← Digit.append_of_scan hd]
    simp [chars, Digit.map_char_scan_append]
  · rename_i hd
    obtain ⟨rfl, rfl⟩ := h
    apply Digit.append_of_scan hd
  · rename_i tail hd
    rw [← Digit.append_of_scan hd]
    split at h
    · rename_i hd'
      obtain ⟨rfl, rfl⟩ := h
      rw [← Digit.append_of_scan hd']
      rfl
    · cases h
  · cases h

namespace Exponent

/-- The characters of a sign, if there is one. -/
def signChars : Option Bool → List Char
  | none => []
  | some true => ['-']
  | some false => ['+']

theorem chars_eq (e : Exponent) :
  e.chars = (if e.upperCase then 'E' else 'e')
    :: (signChars e.sign ++ (e.first :: e.rest).map Digit.char)
  := by
  obtain ⟨upperCase, sign, d, ds⟩ := e
  rcases sign with - | - | -
  · rfl
  · rfl
  · rfl

theorem scanSign_append (sign : Option Bool) (d : Digit) (cs : List Char) :
  scanSign (signChars sign ++ d.char :: cs) = (sign, d.char :: cs)
  := by
  rcases sign with - | - | -
  · have hd : d.char ≠ '-' ∧ d.char ≠ '+' := by
      revert d
      decide
    change scanSign (d.char :: cs) = (none, d.char :: cs)
    unfold scanSign
    split <;> simp_all
  · rfl
  · rfl

theorem signChars_append_of_scanSign (cs : List Char) :
  signChars (scanSign cs).1 ++ (scanSign cs).2 = cs
  := by
  by_cases hm : cs.head? = some '-'
  · obtain ⟨cs, rfl⟩ := List.head?_eq_some_iff.mp hm
    rfl
  by_cases hp : cs.head? = some '+'
  · obtain ⟨cs, rfl⟩ := List.head?_eq_some_iff.mp hp
    rfl
  have hnone : scanSign cs = (none, cs) := by
    unfold scanSign
    split <;> simp_all
  rw [hnone]
  rfl

theorem scan_append (e : Exponent) {cs : List Char}
    (hdigit : ∀ c ∈ cs.head?, Digit.ofChar? c = none) :
  scan (e.chars ++ cs) = some (e, cs)
  := by
  obtain ⟨upperCase, sign, d, ds⟩ := e
  have hsign := scanSign_append sign d (ds.map Digit.char ++ cs)
  have hdigits := Digit.scan_append (d :: ds) hdigit
  rw [List.map_cons, List.cons_append] at hdigits
  rw [chars_eq]
  simp only [List.map_cons, List.cons_append, List.append_assoc, scan, hsign, hdigits]
  cases upperCase <;> rfl

theorem chars_append_of_scan {cs rest : List Char} {e : Exponent}
    (h : scan cs = some (e, rest)) :
  e.chars ++ rest = cs
  := by
  cases cs with
  | nil => cases h
  | cons c cs =>
    simp only [scan] at h
    split at h
    · rename_i hc
      split at h
      · rename_i hd
        obtain ⟨rfl, rfl⟩ := h
        have hcs := signChars_append_of_scanSign cs
        rw [← Digit.append_of_scan hd] at hcs
        rw [chars_eq, List.cons_append, List.append_assoc, hcs]
        rcases hc with rfl | rfl
        · rfl
        · rfl
      · cases h
    · cases h

/-- Without an exponent letter no exponent is read. -/
theorem scan_eq_none {cs : List Char} (h : ∀ c ∈ cs.head?, c ≠ 'e' ∧ c ≠ 'E') :
  scan cs = none
  := by
  cases cs with
  | nil => rfl
  | cons c cs =>
    have hc := h c rfl
    simp [scan, hc]

end Exponent

/-! ### Numerals -/

/-- A mantissa is read up to the exponent after it. -/
theorem Mantissa.scan_exponent_append (m : Mantissa) (e : Exponent) (cs : List Char) :
  scan (m.chars ++ (e.chars ++ cs)) = some (m, e.chars ++ cs)
  := by
  have hhead : (e.chars ++ cs).head? = some (if e.upperCase then 'E' else 'e') := by
    rw [e.chars_eq]
    rfl
  apply m.scan_append
  · rw [hhead]
    rintro c ⟨⟩
    cases e.upperCase <;> rfl
  · rw [hhead]
    rintro c ⟨⟩
    cases e.upperCase <;> decide

/-- A numeral is read back if the text after it starts with no digit, no point and no exponent
letter. -/
theorem Numeral.scan_append (n : Numeral) {cs : List Char}
    (hdigit : ∀ c ∈ cs.head?, Digit.ofChar? c = none) (hpoint : ∀ c ∈ cs.head?, c ≠ '.')
    (hletter : ∀ c ∈ cs.head?, c ≠ 'e' ∧ c ≠ 'E') :
  scan (n.chars ++ cs) = some (n, cs)
  := by
  obtain ⟨m, exponent⟩ := n
  cases exponent with
  | none =>
    have hm := m.scan_append hdigit hpoint
    have he := Exponent.scan_eq_none hletter
    simp [chars, scan, hm, he]
  | some e =>
    have he := e.scan_append hdigit
    have hm := m.scan_exponent_append e cs
    simp [chars, scan, hm, he]

/-- The numeral that is read and the rest make up the text. -/
theorem Numeral.chars_append_of_scan {cs rest : List Char} {n : Numeral}
    (h : scan cs = some (n, rest)) :
  n.chars ++ rest = cs
  := by
  unfold scan at h
  split at h
  · cases h
  · rename_i hm
    rw [← Mantissa.chars_append_of_scan hm]
    split at h
    · obtain ⟨rfl, rfl⟩ := h
      simp [chars]
    · rename_i he
      obtain ⟨rfl, rfl⟩ := h
      rw [← Exponent.chars_append_of_scan he]
      simp [chars]

/-! ### The longest numeral -/

/-- At least the mantissa that a text starts with is read. -/
theorem Mantissa.exists_scan_append (m : Mantissa) (cs : List Char) :
  ∃ m' rest, scan (m.chars ++ cs) = some (m', rest) ∧ m.chars <+: m'.chars
  := by
  cases m with
  | whole d ds =>
    have hscan := Digit.scan_map_char_append (d :: ds) cs
    generalize Digit.scan cs = scanned at hscan
    obtain ⟨fs, rest⟩ := scanned
    by_cases hpoint : rest.head? = some '.'
    · obtain ⟨rest, rfl⟩ := List.head?_eq_some_iff.mp hpoint
      refine ⟨pointed d (ds ++ fs) (Digit.scan rest).1, (Digit.scan rest).2, ?_, ?_⟩
      · rw [chars, scan, hscan]
        rfl
      · simp [chars]
    · refine ⟨whole d (ds ++ fs), rest, ?_, ?_⟩
      · rw [chars, scan, hscan]
        simp only [List.cons_append]
        split
        · rename_i hsplit
          obtain ⟨-, rfl⟩ := Prod.mk.inj hsplit
          cases hpoint rfl
        all_goals simp_all
      · simp [chars]
  | pointed d ds fs =>
    have hpoint := Digit.ofChar?_head_point (fs.map Digit.char ++ cs)
    have hscan := Digit.scan_append (d :: ds) hpoint
    have hfraction := Digit.scan_map_char_append fs cs
    refine ⟨pointed d ds (fs ++ (Digit.scan cs).1), (Digit.scan cs).2, ?_, ?_⟩
    · rw [chars, List.append_assoc, List.cons_append, scan, hscan]
      simp only [hfraction]
    · simp [chars]
  | fractional d ds =>
    have hscan : Digit.scan ('.' :: ((d :: ds).map Digit.char ++ cs))
        = ([], '.' :: ((d :: ds).map Digit.char ++ cs)) := rfl
    have hfraction := Digit.scan_map_char_append (d :: ds) cs
    refine ⟨fractional d (ds ++ (Digit.scan cs).1), (Digit.scan cs).2, ?_, ?_⟩
    · rw [chars, List.cons_append, scan, hscan]
      simp only [hfraction]
      rfl
    · simp [chars]

/-- At least the exponent that a text starts with is read. -/
theorem Exponent.exists_scan_append (e : Exponent) (cs : List Char) :
  ∃ e' rest, scan (e.chars ++ cs) = some (e', rest) ∧ e.chars <+: e'.chars
  := by
  obtain ⟨upperCase, sign, d, ds⟩ := e
  have hsign := scanSign_append sign d (ds.map Digit.char ++ cs)
  have hdigits := Digit.scan_map_char_append (d :: ds) cs
  rw [List.map_cons, List.cons_append, List.cons_append] at hdigits
  refine ⟨⟨upperCase, sign, d, ds ++ (Digit.scan cs).1⟩, (Digit.scan cs).2, ?_, ?_⟩
  · rw [chars_eq]
    simp only [List.map_cons, List.cons_append, List.append_assoc, scan, hsign, hdigits]
    cases upperCase <;> rfl
  · simp [chars_eq]

theorem Numeral.chars_mk_none (m : Mantissa) :
  (⟨m, none⟩ : Numeral).chars = m.chars
  := List.append_nil _

/-- At least the numeral that a text starts with is read. -/
theorem Numeral.exists_scan_append (n : Numeral) (cs : List Char) :
  ∃ n' rest, scan (n.chars ++ cs) = some (n', rest) ∧ n.chars <+: n'.chars
  := by
  obtain ⟨m, exponent⟩ := n
  cases exponent with
  | none =>
    obtain ⟨m', rest, hm, hprefix⟩ := m.exists_scan_append cs
    cases he : Exponent.scan rest with
    | none =>
      refine ⟨⟨m', none⟩, rest, ?_, ?_⟩
      · rw [chars_mk_none, scan, hm]
        simp only [he]
      · rw [chars_mk_none, chars_mk_none]
        apply hprefix
    | some found =>
      obtain ⟨e, rest'⟩ := found
      refine ⟨⟨m', some e⟩, rest', ?_, ?_⟩
      · rw [chars_mk_none, scan, hm]
        simp only [he]
      · rw [chars_mk_none]
        apply hprefix.trans
        apply List.prefix_append
  | some e =>
    obtain ⟨e', rest, he, hprefix⟩ := e.exists_scan_append cs
    have hm := m.scan_exponent_append e cs
    refine ⟨⟨m, some e'⟩, rest, ?_, ?_⟩
    · simp [chars, scan, hm, he]
    · simpa [chars] using hprefix

/-- What is read is the longest numeral that the text starts with. -/
theorem Numeral.prefix_of_scan {cs rest : List Char} {n m : Numeral}
    (h : scan cs = some (n, rest)) (hm : m.chars <+: cs) :
  m.chars <+: n.chars
  := by
  obtain ⟨tail, rfl⟩ := hm
  obtain ⟨n', rest', hscan, hprefix⟩ := m.exists_scan_append tail
  obtain ⟨⟩ := h.symm.trans hscan
  apply hprefix

/-! ### Texts of numerals -/

/-- The characters are digits, at least one. -/
def AreDigits (cs : List Char) : Prop :=
  cs ≠ [] ∧ ∀ c ∈ cs, c.isDigit = true

/-- The characters are an integer or a decimal, with digits on at least one side of the point. -/
inductive IsMantissa : List Char → Prop where
  | whole {ds : List Char} (h : AreDigits ds) : IsMantissa ds
  | pointed {ds fs : List Char} (h : AreDigits ds) (hfraction : fs = [] ∨ AreDigits fs) :
      IsMantissa (ds ++ '.' :: fs)
  | fractional {fs : List Char} (h : AreDigits fs) : IsMantissa ('.' :: fs)

/-- The characters are an exponent: its letter, possibly a sign, and at least one digit. -/
inductive IsExponent : List Char → Prop where
  | mk {letter : Char} {sign ds : List Char} (hletter : letter = 'e' ∨ letter = 'E')
      (hsign : sign ∈ [[], ['+'], ['-']]) (h : AreDigits ds) : IsExponent (letter :: (sign ++ ds))

/-- The characters are a numeral: an integer or a decimal, and possibly an exponent. -/
inductive IsNumeral : List Char → Prop where
  | plain {ms : List Char} (h : IsMantissa ms) : IsNumeral ms
  | scaled {ms es : List Char} (h : IsMantissa ms) (hexponent : IsExponent es) :
      IsNumeral (ms ++ es)

theorem areDigits_iff {cs : List Char} :
  AreDigits cs ↔ ∃ (d : Digit) (ds : List Digit), (d :: ds).map Digit.char = cs
  := by
  constructor
  · rintro ⟨hne, hcs⟩
    obtain ⟨ds, rfl⟩ := Digit.exists_map_char_eq hcs
    cases ds with
    | nil => cases hne rfl
    | cons d ds => exact ⟨d, ds, rfl⟩
  · rintro ⟨d, ds, rfl⟩
    refine ⟨by simp, ?_⟩
    intro c hc
    obtain ⟨d, -, rfl⟩ := List.mem_map.mp hc
    apply d.isDigit_char

theorem isMantissa_iff {cs : List Char} :
  IsMantissa cs ↔ ∃ m : Mantissa, m.chars = cs
  := by
  constructor
  · rintro (h | ⟨h, hfraction⟩ | h)
    · obtain ⟨d, ds, rfl⟩ := areDigits_iff.mp h
      exact ⟨.whole d ds, rfl⟩
    · obtain ⟨d, ds, rfl⟩ := areDigits_iff.mp h
      rcases hfraction with rfl | hfraction
      · exact ⟨.pointed d ds [], rfl⟩
      · obtain ⟨f, fs, rfl⟩ := areDigits_iff.mp hfraction
        exact ⟨.pointed d ds (f :: fs), rfl⟩
    · obtain ⟨d, ds, rfl⟩ := areDigits_iff.mp h
      exact ⟨.fractional d ds, rfl⟩
  · rintro ⟨m, rfl⟩
    cases m with
    | whole d ds => apply IsMantissa.whole (areDigits_iff.mpr ⟨d, ds, rfl⟩)
    | pointed d ds fs =>
      apply IsMantissa.pointed (areDigits_iff.mpr ⟨d, ds, rfl⟩)
      cases fs with
      | nil => apply Or.inl rfl
      | cons f fs => apply Or.inr (areDigits_iff.mpr ⟨f, fs, rfl⟩)
    | fractional d ds => apply IsMantissa.fractional (areDigits_iff.mpr ⟨d, ds, rfl⟩)

theorem isExponent_iff {cs : List Char} :
  IsExponent cs ↔ ∃ e : Exponent, e.chars = cs
  := by
  constructor
  · rintro (@⟨letter, sign, _, hletter, hsign, h⟩)
    obtain ⟨d, ds, rfl⟩ := areDigits_iff.mp h
    obtain ⟨upperCase, rfl⟩ : ∃ upperCase : Bool, (if upperCase then 'E' else 'e') = letter := by
      rcases hletter with rfl | rfl
      · exact ⟨false, rfl⟩
      · exact ⟨true, rfl⟩
    obtain ⟨written, rfl⟩ : ∃ written, Exponent.signChars written = sign := by
      simp only [List.mem_cons, List.not_mem_nil, or_false] at hsign
      rcases hsign with rfl | rfl | rfl
      · exact ⟨none, rfl⟩
      · exact ⟨some false, rfl⟩
      · exact ⟨some true, rfl⟩
    exact ⟨⟨upperCase, written, d, ds⟩, Exponent.chars_eq _⟩
  · rintro ⟨e, rfl⟩
    rw [e.chars_eq]
    constructor
    · cases e.upperCase <;> simp
    · rcases e.sign with - | - | - <;> simp [Exponent.signChars]
    · apply areDigits_iff.mpr ⟨e.first, e.rest, rfl⟩

/-- The texts of numerals are those that numerals are written as. -/
theorem isNumeral_iff {cs : List Char} :
  IsNumeral cs ↔ ∃ n : Numeral, n.chars = cs
  := by
  constructor
  · rintro (h | ⟨h, hexponent⟩)
    · obtain ⟨m, rfl⟩ := isMantissa_iff.mp h
      exact ⟨⟨m, none⟩, Numeral.chars_mk_none m⟩
    · obtain ⟨m, rfl⟩ := isMantissa_iff.mp h
      obtain ⟨e, rfl⟩ := isExponent_iff.mp hexponent
      exact ⟨⟨m, some e⟩, rfl⟩
  · rintro ⟨⟨m, exponent⟩, rfl⟩
    have hm : IsMantissa m.chars := isMantissa_iff.mpr ⟨m, rfl⟩
    cases exponent with
    | none =>
      rw [Numeral.chars_mk_none]
      apply IsNumeral.plain hm
    | some e => apply IsNumeral.scaled hm (isExponent_iff.mpr ⟨e, rfl⟩)

end ClippedCylinder
