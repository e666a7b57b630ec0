import Mathlib
import ClippedCylinder.Decimal.Format
import ClippedCylinder.Proofs.Decimal.Shortest
import ClippedCylinder.Proofs.Text.Document
import ClippedCylinder.Proofs.Text.Fields

/-!
# Numbers that are read back

A reader for decimals, which gives the sign and the exact magnitude of what is written.  The text of
a finite double in a JSON document is read as a decimal that rounds to the double
(`Format.standsFor_write`).  What is read as a decimal is a number of JSON
(`isNumber_of_readDecimal?`), and so are the names of the other doubles (`Format.isNumber_write`).
-/

namespace ClippedCylinder.Decimal

open Text Document

/-! ### Reading -/

/-- Digits, and at least one of them. -/
def IsDigits (cs : List Char) : Prop :=
  cs ≠ [] ∧ ∀ c ∈ cs, c.isDigit = true

instance : DecidablePred IsDigits :=
  fun cs => inferInstanceAs (Decidable (cs ≠ [] ∧ ∀ c ∈ cs, c.isDigit = true))

/-- The number with the given digits. -/
def natural (cs : List Char) : ℕ :=
  Nat.ofDigitChars 10 cs 0

/-- Reads digits, perhaps with a point among them. -/
def readMantissa? (cs : List Char) : Option ℚ :=
  match cut '.' cs with
  | none => if IsDigits cs then some (natural cs : ℚ) else none
  | some (whole, fraction) =>
    if IsDigits whole ∧ IsDigits fraction then
      some ((natural (whole ++ fraction) : ℚ) / 10 ^ fraction.length)
    else none

/-- Reads digits after a sign. -/
def readExponent? : List Char → Option ℤ
  | '+' :: cs => if IsDigits cs then some (natural cs : ℤ) else none
  | '-' :: cs => if IsDigits cs then some (-(natural cs : ℤ)) else none
  | _ => none

/-- Reads a decimal without a sign, perhaps with an exponent. -/
def readMagnitude? (cs : List Char) : Option ℚ :=
  match cut 'e' cs with
  | none => readMantissa? cs
  | some (mantissa, exponent) => do
    let q ← readMantissa? mantissa
    let e ← readExponent? exponent
    return q * 10 ^ e

/-- Reads a decimal: whether it has the sign of negative numbers, and its magnitude. -/
def readDecimal? (s : String) : Option (Bool × ℚ) :=
  match s.toList with
  | '-' :: cs => (readMagnitude? cs).map (true, ·)
  | cs => (readMagnitude? cs).map (false, ·)

/-- The text is read as a decimal that has the sign of the double and rounds to it: to the nearest
double, and to the even one of two.  Doubles that are infinite or not a number have names. -/
def StandsFor (s : String) (x : Float) : Prop :=
  match Binary.ofFloat? x with
  | some b => ∃ q, readDecimal? s = some (b.negative, q) ∧ b.IsNearest q
  | none => s = if x.isNaN then "NaN" else if x < 0 then "-Infinity" else "Infinity"

/-! ### Digits -/

theorem isDigits_toDigits (n : ℕ) :
  IsDigits (Nat.toDigits 10 n)
  := ⟨Nat.toDigits_ne_nil, fun _ => Nat.isDigit_of_mem_toDigits (by decide) (by decide)⟩

theorem isDigit_of_mem_zeros {n : ℕ} {c : Char} (h : c ∈ List.replicate n '0') :
  c.isDigit = true
  := by
  rw [List.eq_of_mem_replicate h]
  decide

theorem IsDigits.zeros_append {cs : List Char} (h : IsDigits cs) (n : ℕ) :
  IsDigits (List.replicate n '0' ++ cs)
  := by
  refine ⟨List.append_ne_nil_of_right_ne_nil _ h.1, ?_⟩
  rw [List.forall_mem_append]
  exact ⟨fun c => isDigit_of_mem_zeros, h.2⟩

theorem IsDigits.notMem {cs : List Char} (h : IsDigits cs) {c : Char} (hc : c.isDigit = false) :
  c ∉ cs
  := by
  intro hmem
  rw [h.2 c hmem] at hc
  cases hc

theorem natural_append (cs ds : List Char) :
  natural (cs ++ ds) = natural cs * 10 ^ ds.length + natural ds
  := by
  rw [natural, Nat.ofDigitChars_append, Nat.ofDigitChars_eq_ofDigitChars_zero, Nat.mul_comm]
  rfl

theorem natural_zeros (n : ℕ) :
  natural (List.replicate n '0') = 0
  := by
  simp [natural]

theorem natural_toDigits (n : ℕ) :
  natural (Nat.toDigits 10 n) = n
  := Nat.ofDigitChars_ten_toDigits

/-- A text of digits ends with zeros, perhaps none, after the last digit that is no zero. -/
theorem exists_zeros (cs : List Char) :
  ∃ n, cs = (cs.reverse.dropWhile (· == '0')).reverse ++ List.replicate n '0'
  := by
  have hzeros : cs.reverse.takeWhile (· == '0')
      = List.replicate (cs.reverse.takeWhile (· == '0')).length '0' := by
    apply List.eq_replicate_of_mem
    intro c hc
    simpa using List.mem_takeWhile_imp hc
  use (cs.reverse.takeWhile (· == '0')).length
  rw [← List.reverse_replicate, ← hzeros, ← List.reverse_append, List.takeWhile_append_dropWhile,
    List.reverse_reverse]

/-! ### Mantissas and exponents -/

theorem readMantissa?_point {whole fraction : List Char} (hwhole : IsDigits whole)
    (hfraction : IsDigits fraction) :
  readMantissa? (whole ++ '.' :: fraction)
    = some ((natural (whole ++ fraction) : ℚ) / 10 ^ fraction.length)
  := by
  simp only [readMantissa?, cut_append (hwhole.notMem (c := '.') rfl), hwhole, hfraction, and_self,
    if_true]

theorem readMantissa?_digits {cs : List Char} (h : IsDigits cs) :
  readMantissa? cs = some (natural cs : ℚ)
  := by
  simp only [readMantissa?, cut_eq_none_iff.mpr (h.notMem (c := '.') rfl), h, if_true]

theorem of_readMantissa? {cs : List Char} {q : ℚ} (h : readMantissa? cs = some q) :
  cs ≠ [] ∧ ∀ c ∈ cs, c.isDigit = true ∨ c = '.'
  := by
  unfold readMantissa? at h
  split at h
  · split_ifs at h with hdigits
    exact ⟨hdigits.1, fun c hc => .inl (hdigits.2 c hc)⟩
  · rename_i whole fraction hcut
    split_ifs at h with hdigits
    rw [eq_of_cut hcut]
    refine ⟨by simp, ?_⟩
    rw [List.forall_mem_append, List.forall_mem_cons]
    exact ⟨fun c hc => .inl (hdigits.1.2 c hc), .inr rfl, fun c hc => .inl (hdigits.2.2 c hc)⟩

theorem notMem_of_readMantissa? {cs : List Char} {q : ℚ} (h : readMantissa? cs = some q) :
  'e' ∉ cs
  := by
  intro hmem
  rcases (of_readMantissa? h).2 'e' hmem with hdigit | hpoint
  · cases hdigit
  · cases hpoint

theorem readMagnitude?_mantissa {cs : List Char} {q : ℚ} (h : readMantissa? cs = some q) :
  readMagnitude? cs = some q
  := by
  simp only [readMagnitude?, cut_eq_none_iff.mpr (notMem_of_readMantissa? h), h]

theorem readMagnitude?_exponent {cs ds : List Char} {q : ℚ} {e : ℤ}
    (hmantissa : readMantissa? cs = some q) (hexponent : readExponent? ds = some e) :
  readMagnitude? (cs ++ 'e' :: ds) = some (q * 10 ^ e)
  := by
  simp only [readMagnitude?, cut_append (notMem_of_readMantissa? hmantissa), hmantissa, hexponent]
  rfl

theorem readExponent?_signed {e : ℤ} {cs : List Char} (h : IsDigits cs)
    (hvalue : natural cs = e.natAbs) :
  readExponent? ((if e < 0 then '-' else '+') :: cs) = some e
  := by
  split
  · simp only [readExponent?, h, if_true, hvalue]
    congr 1
    omega
  · simp only [readExponent?, h, if_true, hvalue]
    congr 1
    omega

/-! ### What is read -/

theorem isNumberChar_of_isDigit {c : Char} (h : c.isDigit = true) :
  isNumberChar c = true
  := by
  simp [isNumberChar, Char.isAlphanum, h]

theorem of_readExponent? {cs : List Char} {e : ℤ} (h : readExponent? cs = some e) :
  ∀ c ∈ cs, isNumberChar c = true
  := by
  have hdigits {cs : List Char} (hcs : IsDigits cs) : ∀ c ∈ cs, isNumberChar c = true :=
    fun c hc => isNumberChar_of_isDigit (hcs.2 c hc)
  unfold readExponent? at h
  split at h
  · split_ifs at h with hcs
    exact List.forall_mem_cons.mpr ⟨rfl, hdigits hcs⟩
  · split_ifs at h with hcs
    exact List.forall_mem_cons.mpr ⟨rfl, hdigits hcs⟩
  · cases h

/-- A magnitude begins with a mantissa. -/
theorem of_readMagnitude? {cs : List Char} {q : ℚ} (h : readMagnitude? cs = some q) :
  ∃ mantissa rest r, cs = mantissa ++ rest ∧ readMantissa? mantissa = some r ∧
    ∀ c ∈ rest, isNumberChar c = true
  := by
  unfold readMagnitude? at h
  split at h
  · exact ⟨cs, [], q, (List.append_nil cs).symm, h, nofun⟩
  · rename_i mantissa exponent hcut
    obtain ⟨r, hr, h⟩ := Option.bind_eq_some_iff.mp h
    obtain ⟨e, he, -⟩ := Option.bind_eq_some_iff.mp h
    refine ⟨mantissa, 'e' :: exponent, r, eq_of_cut hcut, hr, ?_⟩
    exact List.forall_mem_cons.mpr ⟨rfl, of_readExponent? he⟩

theorem isNumber_of_readMagnitude? {cs : List Char} {q : ℚ} (h : readMagnitude? cs = some q) :
  cs ≠ [] ∧ ∀ c ∈ cs, isNumberChar c = true
  := by
  obtain ⟨mantissa, rest, r, rfl, hr, hrest⟩ := of_readMagnitude? h
  obtain ⟨hne, hmantissa⟩ := of_readMantissa? hr
  refine ⟨List.append_ne_nil_of_left_ne_nil hne _, ?_⟩
  rw [List.forall_mem_append]
  refine ⟨?_, hrest⟩
  intro c hc
  rcases hmantissa c hc with hdigit | rfl
  · apply isNumberChar_of_isDigit hdigit
  · rfl

theorem isNumber_of_readDecimal? {s : String} {r : Bool × ℚ} (h : readDecimal? s = some r) :
  IsNumber s
  := by
  unfold readDecimal? at h
  split at h
  · rename_i cs hcs
    obtain ⟨q, hq, -⟩ := Option.map_eq_some_iff.mp h
    constructor
    · rintro rfl
      cases hcs
    · rw [hcs, List.forall_mem_cons]
      exact ⟨rfl, (isNumber_of_readMagnitude? hq).2⟩
  · obtain ⟨q, hq, -⟩ := Option.map_eq_some_iff.mp h
    obtain ⟨hne, hchars⟩ := isNumber_of_readMagnitude? hq
    constructor
    · rintro rfl
      cases hne rfl
    · exact hchars

/-- A magnitude has no sign. -/
theorem readDecimal?_signed {cs : List Char} {q : ℚ} (h : readMagnitude? cs = some q)
    (negative : Bool) :
  readDecimal? (String.ofList ((if negative then ['-'] else []) ++ cs)) = some (negative, q)
  := by
  unfold readDecimal?
  rw [String.toList_ofList]
  cases negative with
  | true => simp [h]
  | false =>
    simp only [Bool.false_eq_true, if_false, List.nil_append]
    split
    · rename_i rest
      obtain ⟨mantissa, rest', r, hsplit, hr, -⟩ := of_readMagnitude? h
      obtain ⟨hne, hmantissa⟩ := of_readMantissa? hr
      cases mantissa with
      | nil => cases hne rfl
      | cons c mantissa =>
        obtain ⟨rfl, -⟩ := List.cons.inj hsplit
        rcases hmantissa '-' List.mem_cons_self with hdigit | hpoint
        · cases hdigit
        · cases hpoint
    · rw [h]
      rfl

/-! ### Decimals as they are written -/

namespace Digits

/-- The number that is written. -/
def value (d : Digits) : ℚ :=
  natural d.digits * 10 ^ (d.exponent - ((d.digits.length : ℤ) - 1))

theorem value_digits (s : Scaled) :
  s.digits.value = s.value
  := by
  simp [Scaled.digits, value, Scaled.value, natural_toDigits]

theorem value_trimmed (d : Digits) :
  d.trimmed.value = d.value
  := by
  unfold trimmed
  split
  · rfl
  · rename_i first rest hdigits
    obtain ⟨n, hzeros⟩ := exists_zeros rest
    have hten : (10 : ℚ) ≠ 0 := by norm_num
    generalize (rest.reverse.dropWhile (· == '0')).reverse = front at hzeros ⊢
    simp only [value, hdigits, hzeros]
    rw [← List.cons_append, natural_append, natural_zeros, List.length_append,
      List.length_replicate, Nat.add_zero, Nat.cast_mul, Nat.cast_pow, mul_assoc, Nat.cast_ofNat,
      ← zpow_natCast, ← zpow_add₀ hten]
    congr 2
    push_cast
    ring

theorem isDigits_trimmed {d : Digits} (h : IsDigits d.digits) :
  IsDigits d.trimmed.digits
  := by
  unfold trimmed
  split
  · exact h
  · rename_i first rest hdigits
    rw [hdigits] at h
    refine ⟨List.cons_ne_nil _ _, ?_⟩
    obtain ⟨hfirst, hrest⟩ := List.forall_mem_cons.mp h.2
    rw [List.forall_mem_cons]
    refine ⟨hfirst, ?_⟩
    intro c hc
    rw [List.mem_reverse] at hc
    apply hrest c
    rw [← List.mem_reverse]
    apply (List.dropWhile_sublist _).mem hc

/-- The last digit is `n` places after the point. -/
theorem value_of_places {ds : List Char} {e : ℤ} {n : ℕ} (h : e = (ds.length : ℤ) - 1 - n) :
  value ⟨ds, e⟩ = natural ds / 10 ^ n
  := by
  have hlast : e - ((ds.length : ℤ) - 1) = -n := by omega
  rw [value, hlast, zpow_neg, zpow_natCast, div_eq_mul_inv]

/-- The point is among the digits. -/
theorem readMantissa?_positional_of_lt {ds : List Char} (h : IsDigits ds) {e : ℕ}
    (hlt : e + 1 < ds.length) :
  readMantissa? (positional ⟨ds, e⟩) = some (value ⟨ds, e⟩)
  := by
  have hwhole : IsDigits (ds.take (e + 1)) := by
    refine ⟨?_, fun c hc => h.2 c (List.mem_of_mem_take hc)⟩
    simp [h.1]
  have hfraction : IsDigits (ds.drop (e + 1)) := by
    refine ⟨?_, fun c hc => h.2 c (List.mem_of_mem_drop hc)⟩
    simp [hlt]
  have hlength : (ds.take (e + 1)).length = e + 1 := List.length_take_of_le hlt.le
  have htext : positional ⟨ds, e⟩ = ds.take (e + 1) ++ '.' :: ds.drop (e + 1) := by
    simp [positional, hlength, hfraction.1]
  rw [htext, readMantissa?_point hwhole hfraction, List.take_append_drop, value_of_places]
  rw [List.length_drop]
  omega

/-- Zeros fill the places up to the point. -/
theorem readMantissa?_positional_of_le {ds : List Char} (h : IsDigits ds) {e : ℕ}
    (hle : ds.length ≤ e + 1) :
  readMantissa? (positional ⟨ds, e⟩) = some (value ⟨ds, e⟩)
  := by
  let zeros := List.replicate (e + 1 - ds.length) '0'
  have hzero : IsDigits ['0'] := isDigits_toDigits 0
  have hwhole : IsDigits (ds ++ zeros) := by
    refine ⟨List.append_ne_nil_of_left_ne_nil h.1 _, ?_⟩
    rw [List.forall_mem_append]
    exact ⟨h.2, fun c => isDigit_of_mem_zeros⟩
  have htext : positional ⟨ds, e⟩ = ds ++ zeros ++ '.' :: ['0'] := by
    simp [positional, zeros, List.take_of_length_le hle, List.drop_of_length_le hle]
  have hnatural : natural (ds ++ zeros ++ ['0'])
      = natural ds * 10 ^ (e + 1 - ds.length) * 10 := by
    rw [natural_append, natural_append, natural_zeros, List.length_replicate]
    rfl
  have hexponent : (e : ℤ) - ((ds.length : ℤ) - 1) = (e + 1 - ds.length : ℕ) := by
    omega
  rw [htext, readMantissa?_point hwhole hzero, hnatural, value, hexponent, zpow_natCast]
  simp

/-- Zeros fill the places after the point. -/
theorem readMantissa?_positional_negSucc {ds : List Char} (h : IsDigits ds) (e : ℕ) :
  readMantissa? (positional ⟨ds, .negSucc e⟩) = some (value ⟨ds, .negSucc e⟩)
  := by
  have hzero : IsDigits ['0'] := isDigits_toDigits 0
  have htext : positional ⟨ds, .negSucc e⟩ = ['0'] ++ '.' :: (List.replicate e '0' ++ ds) := rfl
  have hnatural : natural (['0'] ++ (List.replicate e '0' ++ ds)) = natural ds := by
    have hnone : natural ['0'] = 0 := rfl
    rw [natural_append, natural_append, natural_zeros, hnone, Nat.zero_mul, Nat.zero_mul,
      Nat.zero_add, Nat.zero_add]
  rw [htext, readMantissa?_point hzero (h.zeros_append e), hnatural, value_of_places]
  rw [List.length_append, List.length_replicate]
  omega

theorem readMantissa?_positional {d : Digits} (h : IsDigits d.digits) :
  readMantissa? d.positional = some d.value
  := by
  obtain ⟨ds, e⟩ := d
  cases e with
  | ofNat e =>
    rcases Nat.lt_or_ge (e + 1) ds.length with hlt | hle
    · apply readMantissa?_positional_of_lt h hlt
    · apply readMantissa?_positional_of_le h hle
  | negSucc e => apply readMantissa?_positional_negSucc h

theorem readMagnitude?_withExponent {d : Digits} (h : IsDigits d.digits) :
  readMagnitude? d.withExponent = some d.value
  := by
  obtain ⟨ds, e⟩ := d
  dsimp only at h
  have hnatural : natural (List.replicate (2 - (Nat.toDigits 10 e.natAbs).length) '0'
      ++ Nat.toDigits 10 e.natAbs) = e.natAbs := by
    rw [natural_append, natural_zeros, natural_toDigits, Nat.zero_mul, Nat.zero_add]
  have hexponent := readExponent?_signed ((isDigits_toDigits e.natAbs).zeros_append _) hnatural
  have hvalue {n : ℕ} (hn : ds.length = n + 1) :
      value ⟨ds, e⟩ = natural ds / 10 ^ n * 10 ^ e := by
    have hplaces : e - ((ds.length : ℤ) - 1) = e - n := by omega
    rw [value, hplaces, zpow_sub₀ (by norm_num), zpow_natCast]
    ring
  cases ds with
  | nil => cases h.1 rfl
  | cons first rest =>
    rw [hvalue rfl]
    cases rest with
    | nil =>
      apply readMagnitude?_exponent _ hexponent
      rw [readMantissa?_digits h, List.length_nil, pow_zero, div_one]
    | cons second rest =>
      obtain ⟨hfirst, hrest⟩ := List.forall_mem_cons.mp h.2
      apply readMagnitude?_exponent _ hexponent
      have hwhole : IsDigits [first] := ⟨List.cons_ne_nil _ _, by simpa using hfirst⟩
      apply readMantissa?_point hwhole ⟨List.cons_ne_nil _ _, hrest⟩

end Digits

/-! ### Doubles as they are written -/

namespace Format

theorem standsFor_write (x : Float) :
  StandsFor (json.write x) x
  := by
  unfold StandsFor write
  cases hb : Binary.ofFloat? x with
  | none => rfl
  | some b =>
    have hdouble := Binary.isDouble_of_ofFloat? hb
    refine ⟨b.shortest.value, ?_, (Binary.accepts_shortest hdouble).isNearest hdouble⟩
    have hdigits : IsDigits b.shortest.digits.trimmed.digits :=
      Digits.isDigits_trimmed (isDigits_toDigits _)
    rw [← Digits.value_digits, ← Digits.value_trimmed]
    apply readDecimal?_signed
    split
    · apply readMagnitude?_mantissa (Digits.readMantissa?_positional hdigits)
    · apply Digits.readMagnitude?_withExponent hdigits

theorem isNumber_special (x : Float) :
  IsNumber (json.special x)
  := by
  have hnames : IsNumber "NaN" ∧ IsNumber "-Infinity" ∧ IsNumber "Infinity" := by
    refine ⟨⟨by decide, ?_⟩, ⟨by decide, ?_⟩, by decide, ?_⟩
    all_goals simp [isNumberChar]
  unfold special
  split
  · apply hnames.1
  split
  · apply hnames.2.1
  · apply hnames.2.2

theorem isNumber_write (x : Float) :
  IsNumber (json.write x)
  := by
  have h := standsFor_write x
  unfold StandsFor at h
  split at h
  · obtain ⟨q, hread, -⟩ := h
    apply isNumber_of_readDecimal? hread
  · rw [h]
    apply isNumber_special

end Format

end ClippedCylinder.Decimal
