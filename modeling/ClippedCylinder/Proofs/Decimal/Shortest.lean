import Mathlib
import ClippedCylinder.Decimal.Shortest

/-!
# The decimals that stand for doubles

The numbers that are nearer to a double than to all others lie in an interval around it
(`Binary.Accepts`, `Binary.Accepts.isNearest`).  The decimal that is chosen for a double lies in
its interval (`Binary.accepts_shortest`): on the grid with 17 digits one of the two neighbours of
a double always does.
-/

namespace ClippedCylinder.Decimal

/-! ### Values -/

/-- The number that a decimal is. -/
def Scaled.value (s : Scaled) : ℚ :=
  s.coefficient * 10 ^ s.exponent

namespace Binary

/-- The number without its sign. -/
def magnitude (b : Binary) : ℚ :=
  b.significand * 2 ^ b.exponent

/-- The significand has 53 binary digits, or fewer at the least exponent. -/
structure IsDouble (b : Binary) : Prop where
  lt : b.significand < 2 ^ 53
  le : -1074 ≤ b.exponent
  le_or_eq : 2 ^ 52 ≤ b.significand ∨ b.exponent = -1074

theorem isDouble_of_ofFloat? {x : Float} {b : Binary} (h : ofFloat? x = some b) :
  b.IsDouble
  := by
  have hpow : Nat.pow 2 52 = 2 ^ 52 := rfl
  unfold ofFloat? at h
  dsimp only at h
  split_ifs at h with hspecial hsubnormal
  · obtain rfl := Option.some.inj h
    have hlt := Nat.mod_lt x.toBits.toNat (by decide : 0 < Nat.pow 2 52)
    constructor
    · dsimp only
      omega
    · exact le_rfl
    · exact .inr rfl
  · obtain rfl := Option.some.inj h
    have hlt := Nat.mod_lt x.toBits.toNat (by decide : 0 < Nat.pow 2 52)
    constructor
    · simp only [leastNormal]
      omega
    · simp only [leastExponent]
      omega
    · left
      simp only [leastNormal]
      omega

/-! ### Intervals -/

/-- Half of the distance to the next double below: below a power of two the doubles are twice as
dense. -/
def gapBelow (b : Binary) : ℚ :=
  if b.significand = 2 ^ 52 ∧ -1074 < b.exponent then 2 ^ b.exponent / 4 else 2 ^ b.exponent / 2

/-- Half of the distance to the next double above. -/
def gapAbove (b : Binary) : ℚ :=
  2 ^ b.exponent / 2

/-- The number lies strictly within the gaps around the double, or at an end and the significand is
even. -/
def Accepts (b : Binary) (q : ℚ) : Prop :=
  b.magnitude - b.gapBelow < q ∧ q < b.magnitude + b.gapAbove ∨
    b.significand % 2 = 0 ∧ b.magnitude - b.gapBelow ≤ q ∧ q ≤ b.magnitude + b.gapAbove

/-- No other double is as near to the number, except that two may be equally near; then the
significand is even. -/
def IsNearest (b : Binary) (q : ℚ) : Prop :=
  ∀ b' : Binary, b'.IsDouble → b'.magnitude ≠ b.magnitude →
    |q - b.magnitude| < |q - b'.magnitude| ∨
      |q - b.magnitude| = |q - b'.magnitude| ∧ b.significand % 2 = 0

theorem gapBelow_pos (b : Binary) :
  0 < b.gapBelow
  := by
  unfold gapBelow
  split
  · positivity
  · positivity

theorem gapBelow_le (b : Binary) :
  b.gapBelow ≤ b.gapAbove
  := by
  have hpos : (0 : ℚ) < 2 ^ b.exponent := by positivity
  unfold gapBelow gapAbove
  split
  · linarith
  · rfl

/-- No double lies between a double and its neighbours. -/
theorem gap {b b' : Binary} (h : b.IsDouble) (h' : b'.IsDouble) (hne : b'.magnitude ≠ b.magnitude) :
  b'.magnitude ≤ b.magnitude - 2 * b.gapBelow ∨ b.magnitude + 2 * b.gapAbove ≤ b'.magnitude
  := by
  have hpos : (0 : ℚ) < 2 ^ b.exponent := by positivity
  rcases le_or_gt b.exponent b'.exponent with hle | hlt
  · -- The other double is a multiple of the last place of this one.
    obtain ⟨k, hk⟩ := Int.le.dest hle
    have hmultiple : b'.magnitude = (b'.significand * 2 ^ k : ℕ) * 2 ^ b.exponent := by
      rw [magnitude, ← hk, zpow_add₀ two_ne_zero, zpow_natCast]
      push_cast
      ring
    have hgap := b.gapBelow_le
    rw [hmultiple] at hne ⊢
    generalize b'.significand * 2 ^ k = n at hne ⊢
    unfold magnitude gapAbove at *
    rcases lt_trichotomy n b.significand with hn | rfl | hn
    · left
      have hsucc : (n : ℚ) + 1 ≤ b.significand := by exact_mod_cast hn
      nlinarith
    · cases hne rfl
    · right
      have hsucc : (b.significand : ℚ) + 1 ≤ n := by exact_mod_cast hn
      nlinarith
  · -- The other double lies below the range of numbers with the exponent of this one.
    left
    have hnormal : 2 ^ 52 ≤ b.significand := by
      rcases h.le_or_eq with hnormal | hexponent
      · exact hnormal
      · have hleast := h'.le
        omega
    have hbelow : b'.magnitude ≤ (2 ^ 53 - 1) * (2 ^ b.exponent / 2) := by
      have hlast : (2 : ℚ) ^ b'.exponent ≤ 2 ^ b.exponent / 2 := by
        rw [div_eq_mul_inv, ← zpow_sub_one₀ two_ne_zero]
        apply zpow_le_zpow_right₀ one_le_two (by omega)
      have hsignificand : (b'.significand : ℚ) ≤ 2 ^ 53 - 1 := by
        have hsucc : (b'.significand : ℚ) + 1 ≤ 2 ^ 53 := by exact_mod_cast h'.lt
        linarith
      apply mul_le_mul hsignificand hlast (by positivity) (by norm_num)
    apply hbelow.trans
    unfold magnitude gapBelow
    split
    · rename_i hleast
      rw [hleast.1]
      push_cast
      linarith
    · have hmore : (2 : ℚ) ^ 52 + 1 ≤ b.significand := by
        have hne : b.significand ≠ 2 ^ 52 := by
          have hleast := h'.le
          omega
        exact_mod_cast Nat.lt_of_le_of_ne hnormal (Ne.symm hne)
      nlinarith

/-- A number within the gaps is nearer to the double than to one beyond the gaps. -/
theorem abs_sub_le_of_gap {q m m' below above : ℚ} (hbelow : 0 < below) (habove : 0 < above)
    (hgap : m' ≤ m - 2 * below ∨ m + 2 * above ≤ m') :
  (m - below ≤ q → q ≤ m + above → |q - m| ≤ |q - m'|) ∧
    (m - below < q → q < m + above → |q - m| < |q - m'|)
  := by
  rcases hgap with hgap | hgap
  · have hfar := le_abs_self (q - m')
    constructor
    · intro hleft hright
      rw [abs_le]
      constructor
      · linarith
      · linarith
    · intro hleft hright
      rw [abs_lt]
      constructor
      · linarith
      · linarith
  · have hfar := neg_le_abs (q - m')
    constructor
    · intro hleft hright
      rw [abs_le]
      constructor
      · linarith
      · linarith
    · intro hleft hright
      rw [abs_lt]
      constructor
      · linarith
      · linarith

theorem Accepts.isNearest {b : Binary} (hb : b.IsDouble) {q : ℚ} (h : b.Accepts q) :
  b.IsNearest q
  := by
  intro b' hb' hne
  have hbelow := b.gapBelow_pos
  have hnear := abs_sub_le_of_gap (q := q) hbelow (hbelow.trans_le b.gapBelow_le) (gap hb hb' hne)
  rcases h with ⟨hleft, hright⟩ | ⟨heven, hleft, hright⟩
  · left
    apply hnear.2 hleft hright
  · rcases (hnear.1 hleft hright).lt_or_eq with hlt | heq
    · exact .inl hlt
    · exact .inr ⟨heq, heven⟩

end Binary

/-! ### Comparisons -/

theorem pow_toNat (base : ℕ) (hbase : base ≠ 0) (e : ℤ) :
  (base : ℚ) ^ e * base ^ (-e).toNat = base ^ e.toNat
  := by
  have hne : (base : ℚ) ≠ 0 := by exact_mod_cast hbase
  rw [← zpow_natCast, ← zpow_natCast, ← zpow_add₀ hne]
  congr 1
  omega

/-- A decimal and a binary number are compared by their values. -/
theorem Scaled.compare_iff (s : Scaled) (significand : ℕ) (power : ℤ) :
  (s.compare significand power = .lt ↔ s.value < significand * 2 ^ power) ∧
    (s.compare significand power = .gt ↔ (significand * 2 ^ power : ℚ) < s.value)
  := by
  let factor : ℚ := 10 ^ (-s.exponent).toNat * 2 ^ (-power).toNat
  have hfactor : 0 < factor := by positivity
  have hleft : ((s.coefficient * Nat.pow 10 s.exponent.toNat * Nat.pow 2 (-power).toNat : ℕ) : ℚ)
      = s.value * factor := by
    have hten := pow_toNat 10 (by decide) s.exponent
    push_cast [Nat.pow_eq] at hten ⊢
    rw [← hten, value]
    ring
  have hright : ((significand * Nat.pow 2 power.toNat * Nat.pow 10 (-s.exponent).toNat : ℕ) : ℚ)
      = significand * 2 ^ power * factor := by
    have htwo := pow_toNat 2 (by decide) power
    push_cast [Nat.pow_eq] at htwo ⊢
    rw [← htwo]
    ring
  have hscale (q r : ℚ) : q < r ↔ q * factor < r * factor :=
    (mul_lt_mul_iff_of_pos_right hfactor).symm
  rw [hscale s.value, hscale _ s.value, ← hleft, ← hright, Nat.cast_lt, Nat.cast_lt, Scaled.compare,
    compare_lt_iff_lt, compare_gt_iff_gt]
  exact ⟨Iff.rfl, Iff.rfl⟩

namespace Binary

theorem lowerEnd_eq {b : Binary} (h : b.significand ≠ 0) :
  b.lowerEnd * (2 : ℚ) ^ (b.exponent - 2) = b.magnitude - b.gapBelow
  := by
  have hquarter : (2 : ℚ) ^ (b.exponent - 2) = 2 ^ b.exponent / 4 := by
    rw [zpow_sub₀ two_ne_zero]
    norm_num
  have hleast : b.significand = leastNormal ∧ leastExponent < b.exponent
      ↔ b.significand = 2 ^ 52 ∧ -1074 < b.exponent := Iff.rfl
  rw [hquarter, lowerEnd, gapBelow, magnitude]
  by_cases hb : b.significand = 2 ^ 52 ∧ -1074 < b.exponent
  · rw [if_pos (hleast.mpr hb), if_pos hb, Nat.cast_sub (by omega)]
    push_cast
    ring
  · rw [if_neg (hleast.not.mpr hb), if_neg hb, Nat.cast_sub (by omega)]
    push_cast
    ring

theorem upperEnd_eq (b : Binary) :
  b.upperEnd * (2 : ℚ) ^ (b.exponent - 2) = b.magnitude + b.gapAbove
  := by
  rw [zpow_sub₀ two_ne_zero, upperEnd, magnitude, gapAbove]
  push_cast
  ring

theorem isRoundedFrom_iff {b : Binary} (h : b.significand ≠ 0) (s : Scaled) :
  b.isRoundedFrom s = true ↔ b.Accepts s.value
  := by
  have hlow := s.compare_iff b.lowerEnd (b.exponent - 2)
  have hhigh := s.compare_iff b.upperEnd (b.exponent - 2)
  rw [lowerEnd_eq h] at hlow
  rw [upperEnd_eq] at hhigh
  unfold isRoundedFrom Accepts
  by_cases heven : b.significand % 2 = 0
  · simp only [heven, if_true, Bool.and_eq_true, bne_iff_ne, ne_eq, hlow.1, hhigh.2, not_lt,
      true_and]
    constructor
    · exact .inr
    · rintro (⟨hleft, hright⟩ | hclosed)
      · exact ⟨hleft.le, hright.le⟩
      · exact hclosed
  · simp only [heven, if_false, Bool.and_eq_true, beq_iff_eq, hlow.2, hhigh.1, false_and, or_false]

/-! ### Grids -/

end Binary

theorem lt_pow_digitCount (n : ℕ) :
  n < 10 ^ digitCount n
  := (Nat.length_toDigits_le_iff (by decide) Nat.length_toDigits_pos).mp le_rfl

theorem pow_digitCount_le {n : ℕ} (h : 0 < n) :
  10 ^ (digitCount n - 1) ≤ n
  := by
  rcases Nat.eq_zero_or_pos (digitCount n - 1) with hzero | hpos
  · rw [hzero]
    apply h
  · have hlength := Nat.length_toDigits_le_iff (b := 10) (n := n) (by decide) hpos
    have hlt : ¬ digitCount n ≤ digitCount n - 1 := by omega
    apply Nat.not_lt.mp (hlength.not.mp hlt)

/-- The leading decimal digit is not larger than the number. -/
theorem zpow_leadingExponent_le {num den : ℕ} (hnum : 0 < num) (hden : 0 < den) :
  (10 : ℚ) ^ leadingExponent num den ≤ num / den
  := by
  unfold leadingExponent
  split
  · rename_i hle
    have hcount : 0 < digitCount (num / den) := Nat.length_toDigits_pos
    have hexponent : (digitCount (num / den) : ℤ) - 1 = (digitCount (num / den) - 1 : ℕ) := by omega
    have hfloor : 10 ^ (digitCount (num / den) - 1) ≤ num / den :=
      pow_digitCount_le (Nat.div_pos hle hden)
    rw [hexponent, zpow_natCast]
    calc (10 : ℚ) ^ (digitCount (num / den) - 1)
      _ ≤ (num / den : ℕ) := by exact_mod_cast hfloor
      _ ≤ num / den := Nat.cast_div_le
  · have hlt := lt_pow_digitCount ((den - 1) / num)
    rw [Nat.div_lt_iff_lt_mul hnum] at hlt
    have hle : (den : ℚ) ≤ 10 ^ digitCount ((den - 1) / num) * num := by
      exact_mod_cast (by omega : den ≤ 10 ^ digitCount ((den - 1) / num) * num)
    rw [zpow_neg, zpow_natCast, inv_eq_one_div, div_le_div_iff₀ (by positivity) (by positivity)]
    linarith

theorem inUnits_eq (e : ℤ) (num den : ℕ) :
  ((inUnits e num den).1 : ℚ) / (inUnits e num den).2 * 10 ^ e = num / den
  := by
  have hten := pow_toNat 10 (by decide) e
  have hpos : (10 : ℚ) ^ e.toNat ≠ 0 := by positivity
  simp only [inUnits, Nat.pow_eq]
  push_cast at hten ⊢
  rw [div_mul_eq_mul_div, mul_assoc, mul_comm _ ((10 : ℚ) ^ e), hten, mul_div_mul_right _ _ hpos]

namespace Binary

theorem magnitude_eq (b : Binary) :
  b.magnitude = b.numerator / b.denominator
  := by
  have htwo := pow_toNat 2 (by decide) b.exponent
  have hpos : (2 : ℚ) ^ (-b.exponent).toNat ≠ 0 := by positivity
  simp only [magnitude, numerator, denominator, Nat.pow_eq]
  push_cast at htwo ⊢
  rw [eq_div_iff hpos, mul_assoc, htwo]

/-- With 17 digits the grid is finer than the gaps around a double. -/
theorem half_step_lt {b : Binary} (hb : b.IsDouble) {step : ℚ} (h : step * 10 ^ 16 ≤ b.magnitude) :
  step / 2 < b.gapBelow
  := by
  have hpos : (0 : ℚ) < 2 ^ b.exponent := by positivity
  unfold magnitude at h
  unfold gapBelow
  split
  · rename_i hleast
    rw [hleast.1] at h
    push_cast at h
    linarith
  · have hlt : (b.significand : ℚ) < 2 ^ 53 := by exact_mod_cast hb.lt
    nlinarith

/-- One of the neighbours of a double on a grid of 17 digits is accepted. -/
theorem exists_accepted {b : Binary} (hb : b.IsDouble) {num den : ℕ} (hden : 0 < den) {e : ℤ}
    (hvalue : (num : ℚ) / den * 10 ^ e = b.magnitude) (hgrid : 10 ^ e * 10 ^ 16 ≤ b.magnitude) :
  b.Accepts (Scaled.value ⟨num / den, e⟩) ∨ b.Accepts (Scaled.value ⟨num / den + 1, e⟩)
  := by
  have hstep : (0 : ℚ) < 10 ^ e := by positivity
  have hhalf := half_step_lt hb hgrid
  have hgap := b.gapBelow_le
  have hfloor : ((num / den : ℕ) : ℚ) ≤ num / den := Nat.cast_div_le
  have hceil : (num : ℚ) / den < (num / den : ℕ) + 1 := by
    have hlt := Nat.lt_mul_div_succ num hden
    rw [Nat.mul_comm] at hlt
    rw [div_lt_iff₀ (by positivity)]
    exact_mod_cast hlt
  unfold Accepts Scaled.value
  rw [← hvalue]
  push_cast
  rcases le_or_gt ((num : ℚ) / den - (num / den : ℕ)) (1 / 2) with hnear | hfar
  · left
    left
    constructor
    · nlinarith
    · nlinarith
  · right
    left
    constructor
    · nlinarith
    · nlinarith

/-- With `n` digits a decimal is found that rounds to the magnitude, unless neither of the two
neighbours does. -/
theorem shortestWith?_cases (b : Binary) (n : ℕ) :
  let e := leadingExponent b.numerator b.denominator - ((n : ℤ) - 1)
  let units := inUnits e b.numerator b.denominator
  (∃ s, b.shortestWith? n = some s ∧ b.isRoundedFrom s = true) ∨
    b.shortestWith? n = none ∧ b.isRoundedFrom ⟨units.1 / units.2, e⟩ = false ∧
      b.isRoundedFrom ⟨units.1 / units.2 + 1, e⟩ = false
  := by
  unfold shortestWith?
  dsimp only
  split
  · rename_i hbelow habove
    exact .inr ⟨rfl, hbelow, habove⟩
  · rename_i hbelow _
    exact .inl ⟨_, rfl, hbelow⟩
  · rename_i _ habove
    exact .inl ⟨_, rfl, habove⟩
  · rename_i hbelow habove
    left
    split
    · exact ⟨_, rfl, hbelow⟩
    · exact ⟨_, rfl, habove⟩
    · split
      · exact ⟨_, rfl, hbelow⟩
      · exact ⟨_, rfl, habove⟩

/-- A decimal with 17 digits is found for every double but zero. -/
theorem shortestWith?_ne_none {b : Binary} (hb : b.IsDouble) (h : b.significand ≠ 0) :
  b.shortestWith? 17 ≠ none
  := by
  have hnum : 0 < b.numerator := Nat.mul_pos (Nat.pos_of_ne_zero h) (Nat.two_pow_pos _)
  have hden : 0 < b.denominator := Nat.two_pow_pos _
  let e : ℤ := leadingExponent b.numerator b.denominator - ((17 : ℕ) - 1)
  have hunits : 0 < (inUnits e b.numerator b.denominator).2 :=
    Nat.mul_pos hden (Nat.pow_pos (by decide))
  have hvalue := inUnits_eq e b.numerator b.denominator
  have hgrid : (10 : ℚ) ^ e * 10 ^ 16 ≤ b.magnitude := by
    have hpow : (10 : ℚ) ^ e * 10 ^ 16 = 10 ^ leadingExponent b.numerator b.denominator := by
      rw [← zpow_natCast, ← zpow_add₀ (by norm_num)]
      congr 1
      simp [e]
    rw [hpow, magnitude_eq]
    apply zpow_leadingExponent_le hnum hden
  rw [← magnitude_eq] at hvalue
  have haccepted := exists_accepted hb hunits hvalue hgrid
  rw [← isRoundedFrom_iff h, ← isRoundedFrom_iff h] at haccepted
  rcases b.shortestWith?_cases 17 with ⟨s, hs, -⟩ | ⟨-, hbelow, habove⟩
  · rw [hs]
    apply Option.some_ne_none
  · rcases haccepted with haccepted | haccepted
    · cases hbelow.symm.trans haccepted
    · cases habove.symm.trans haccepted

theorem accepts_shortest {b : Binary} (hb : b.IsDouble) :
  b.Accepts b.shortest.value
  := by
  unfold shortest
  by_cases h : b.significand = 0
  · have hbelow := b.gapBelow_pos
    have habove := hbelow.trans_le b.gapBelow_le
    rw [if_pos h]
    left
    simp only [Scaled.value, magnitude, h, Nat.cast_zero, zero_mul]
    constructor
    · linarith
    · linarith
  · rw [if_neg h]
    cases hfound : (List.range' 1 17).findSome? b.shortestWith? with
    | none =>
      rw [List.findSome?_eq_none_iff] at hfound
      cases shortestWith?_ne_none hb h (hfound 17 (by decide))
    | some s =>
      obtain ⟨n, -, hn⟩ := List.exists_of_findSome?_eq_some hfound
      rcases b.shortestWith?_cases n with ⟨s', hs', hrounded⟩ | ⟨hnone, -⟩
      · obtain rfl := Option.some.inj (hs'.symm.trans hn)
        apply (isRoundedFrom_iff h s').mp hrounded
      · cases hnone.symm.trans hn

end Binary

end ClippedCylinder.Decimal
