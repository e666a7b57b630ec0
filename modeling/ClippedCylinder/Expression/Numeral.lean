/-!
# Numerals

A numeral is written with digits on at least one side of an optional point, and an
optional exponent with at least one digit.  `Numeral.scan` reads the longest numeral at
the beginning of a text.
-/

namespace ClippedCylinder

/-- A decimal digit. -/
abbrev Digit := Fin 10

namespace Digit

/-- The character of a digit. -/
def char (d : Digit) : Char :=
  Char.ofNat (48 + d.val)

/-- The digit of a character. -/
def ofChar? (c : Char) : Option Digit :=
  if h : 48 ≤ c.toNat ∧ c.toNat < 58 then some ⟨c.toNat - 48, by omega⟩ else none

@[simp]
theorem ofChar?_char (d : Digit) :
  ofChar? d.char = some d
  := by
  revert d
  decide

/-- The digits at the beginning of a text, and the rest of it. -/
def scan : List Char → List Digit × List Char
  | [] => ([], [])
  | c :: cs =>
    match ofChar? c with
    | none => ([], c :: cs)
    | some d => (d :: (scan cs).1, (scan cs).2)

theorem scan_length (cs : List Char) :
  (scan cs).1.length + (scan cs).2.length = cs.length
  := by
  fun_induction scan cs with
  | case1 => rfl
  | case2 => simp
  | case3 c cs d h ih =>
    simp only [List.length_cons]
    omega

end Digit

/-- The part of a numeral before the exponent. -/
inductive Mantissa where
  /-- Digits. -/
  | whole (first : Digit) (rest : List Digit)
  /-- Digits, the point, and possibly more digits. -/
  | pointed (first : Digit) (rest fraction : List Digit)
  /-- The point and digits. -/
  | fractional (first : Digit) (rest : List Digit)
deriving DecidableEq, Repr

/-- The exponent of a numeral: a letter, an optional sign, and digits. -/
structure Exponent where
  upperCase : Bool
  /-- The sign, if one is written: whether it is a minus. -/
  sign : Option Bool
  first : Digit
  rest : List Digit
deriving DecidableEq, Repr

/-- A numeral. -/
structure Numeral where
  mantissa : Mantissa
  exponent : Option Exponent
deriving DecidableEq, Repr

/-! ### Writing -/

/-- The characters of a mantissa. -/
def Mantissa.chars : Mantissa → List Char
  | .whole d ds => (d :: ds).map Digit.char
  | .pointed d ds fs => (d :: ds).map Digit.char ++ '.' :: fs.map Digit.char
  | .fractional d ds => '.' :: (d :: ds).map Digit.char

/-- The characters of an exponent. -/
def Exponent.chars (e : Exponent) : List Char :=
  let letter := if e.upperCase then 'E' else 'e'
  let sign :=
    match e.sign with
    | none => []
    | some true => ['-']
    | some false => ['+']
  letter :: sign ++ (e.first :: e.rest).map Digit.char

/-- The characters of a numeral. -/
def Numeral.chars (n : Numeral) : List Char :=
  n.mantissa.chars ++ (n.exponent.map Exponent.chars).getD []

/-! ### Values -/

/-- The number with the given digits. -/
def digitsValue (ds : List Digit) : Nat :=
  ds.foldl (fun n d => 10 * n + d.val) 0

/-- The digits of a mantissa without the point. -/
def Mantissa.digits : Mantissa → List Digit
  | .whole d ds => d :: ds
  | .pointed d ds fs => d :: ds ++ fs
  | .fractional d ds => d :: ds

/-- The number of digits after the point. -/
def Mantissa.places : Mantissa → Nat
  | .whole _ _ => 0
  | .pointed _ _ fs => fs.length
  | .fractional _ ds => ds.length + 1

/-- The number that an exponent stands for. -/
def Exponent.value (e : Exponent) : Int :=
  let n : Int := digitsValue (e.first :: e.rest)
  if e.sign = some true then -n else n

/-- The coefficient of a numeral: it stands for `coefficient * 10 ^ scale`. -/
def Numeral.coefficient (n : Numeral) : Nat :=
  digitsValue n.mantissa.digits

/-- The power of ten of a numeral: it stands for `coefficient * 10 ^ scale`. -/
def Numeral.scale (n : Numeral) : Int :=
  (n.exponent.map Exponent.value).getD 0 - n.mantissa.places

/-! ### Reading -/

/-- The mantissa at the beginning of a text, and the rest of it. -/
def Mantissa.scan (cs : List Char) : Option (Mantissa × List Char) :=
  match Digit.scan cs with
  | (d :: ds, '.' :: rest) =>
    let (fs, rest) := Digit.scan rest
    some (.pointed d ds fs, rest)
  | (d :: ds, rest) => some (.whole d ds, rest)
  | ([], '.' :: rest) =>
    match Digit.scan rest with
    | (d :: ds, rest) => some (.fractional d ds, rest)
    | ([], _) => none
  | ([], _) => none

/-- The sign at the beginning of a text, and the rest of it. -/
def Exponent.scanSign : List Char → Option Bool × List Char
  | '-' :: rest => (some true, rest)
  | '+' :: rest => (some false, rest)
  | rest => (none, rest)

/-- The exponent at the beginning of a text, and the rest of it. -/
def Exponent.scan : List Char → Option (Exponent × List Char)
  | [] => none
  | c :: cs =>
    if c = 'e' ∨ c = 'E' then
      let (sign, rest) := scanSign cs
      match Digit.scan rest with
      | (d :: ds, rest) => some (⟨c = 'E', sign, d, ds⟩, rest)
      | ([], _) => none
    else none

/-- The longest numeral at the beginning of a text, and the rest of it. -/
def Numeral.scan (cs : List Char) : Option (Numeral × List Char) :=
  match Mantissa.scan cs with
  | none => none
  | some (m, rest) =>
    match Exponent.scan rest with
    | none => some (⟨m, none⟩, rest)
    | some (e, rest) => some (⟨m, some e⟩, rest)

/-! ### Reading shortens the text -/

theorem Mantissa.length_lt_of_scan {cs rest : List Char} {m : Mantissa}
    (h : scan cs = some (m, rest)) :
  rest.length < cs.length
  := by
  have hcs := Digit.scan_length cs
  simp only [scan] at h
  split at h
  · rename_i d ds r hd
    have hr := Digit.scan_length r
    simp only [hd, List.length_cons] at hcs
    simp only [Option.some.injEq, Prod.mk.injEq] at h
    rw [← h.2]
    omega
  · rename_i hd
    simp only [hd, List.length_cons] at hcs
    simp only [Option.some.injEq, Prod.mk.injEq] at h
    rw [← h.2]
    omega
  · rename_i r hd
    have hr := Digit.scan_length r
    simp only [hd, List.length_cons] at hcs
    split at h
    · rename_i hd'
      simp only [hd', List.length_cons] at hr
      simp only [Option.some.injEq, Prod.mk.injEq] at h
      rw [← h.2]
      omega
    · simp at h
  · simp at h

theorem Exponent.length_lt_of_scan {cs rest : List Char} {e : Exponent}
    (h : scan cs = some (e, rest)) :
  rest.length < cs.length
  := by
  cases cs with
  | nil => simp [scan] at h
  | cons c cs =>
    have hs : (scanSign cs).2.length ≤ cs.length := by
      unfold scanSign
      split <;> simp
    have hd := Digit.scan_length (scanSign cs).2
    simp only [scan] at h
    split at h
    · split at h
      · rename_i hd'
        rw [hd'] at hd
        simp only [List.length_cons] at hd ⊢
        simp only [Option.some.injEq, Prod.mk.injEq] at h
        rw [← h.2]
        omega
      · simp at h
    · simp at h

theorem Numeral.length_lt_of_scan {cs rest : List Char} {n : Numeral}
    (h : scan cs = some (n, rest)) :
  rest.length < cs.length
  := by
  simp only [scan] at h
  split at h
  · simp at h
  · rename_i hm
    have := Mantissa.length_lt_of_scan hm
    split at h
    · simp only [Option.some.injEq, Prod.mk.injEq] at h
      rw [← h.2]
      omega
    · rename_i he
      have := Exponent.length_lt_of_scan he
      simp only [Option.some.injEq, Prod.mk.injEq] at h
      rw [← h.2]
      omega

end ClippedCylinder
