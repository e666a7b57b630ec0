import ClippedCylinder.Decimal.Rounded

/-!
# Number texts

How a double is written.  A `Format` says which decimals are written positionally and
which with an exponent, and how the values are written that are no numbers.  `plain` is
the form used in messages, `json` the one used in summaries: both write the shortest
decimal.  `scientific` writes a fixed number of places and always an exponent.
-/

namespace ClippedCylinder.Decimal

/-! ### Digits -/

/-- The digits `d₁ d₂ … dₙ` of a decimal `d₁.d₂…dₙ * 10 ^ exponent`. -/
structure Digits where
  digits : List Char
  exponent : Int
deriving DecidableEq, Repr

/-- The digits of a decimal. -/
def Scaled.digits (s : Scaled) : Digits :=
  let ds := Nat.toDigits 10 s.coefficient
  ⟨ds, s.exponent + (ds.length - 1)⟩

namespace Digits

/-- The digits without the zeros at their end; the first digit stays. -/
def trimmed (d : Digits) : Digits :=
  match d.digits with
  | [] => d
  | first :: rest => ⟨first :: (rest.reverse.dropWhile (· == '0')).reverse, d.exponent⟩

/-- The first `n` digits, filled up with zeros. -/
def padded (n : Nat) (d : Digits) : Digits :=
  ⟨(d.digits ++ List.replicate n '0').take n, d.exponent⟩

/-- The digits with the point at its place, and at least one digit on each side of it. -/
def positional (d : Digits) : List Char :=
  match d.exponent with
  | .ofNat e =>
    let front := d.digits.take (e + 1)
    let back := d.digits.drop (e + 1)
    let zeros := List.replicate (e + 1 - front.length) '0'
    front ++ zeros ++ '.' :: if back.isEmpty then ['0'] else back
  | .negSucc e => '0' :: '.' :: List.replicate e '0' ++ d.digits

/-- The digits with the point after the first one, and the exponent with a sign and at
least two digits. -/
def withExponent (d : Digits) : List Char :=
  let sign := if d.exponent < 0 then '-' else '+'
  let exponent := Nat.toDigits 10 d.exponent.natAbs
  let mantissa :=
    match d.digits with
    | [] => []
    | [first] => [first]
    | first :: rest => first :: '.' :: rest
  mantissa ++ 'e' :: sign :: (List.replicate (2 - exponent.length) '0' ++ exponent)

end Digits

/-! ### Formats -/

/-- How doubles are written: with the point at its place when the exponent of the leading
digit is between `least` and `most`, with an exponent otherwise. -/
structure Format where
  least : Int
  most : Int
  infinity : String
  notANumber : String
deriving DecidableEq, Repr

namespace Format

/-- The format of messages. -/
def plain : Format := ⟨-4, 15, "inf", "nan"⟩

/-- The format of JSON documents. -/
def json : Format := ⟨-4, 15, "Infinity", "NaN"⟩

/-- The text of a double that is infinite or not a number. -/
def special (f : Format) (x : Float) : String :=
  if x.isNaN then f.notANumber else if x < 0 then "-" ++ f.infinity else f.infinity

/-- The sign of a number. -/
def sign (b : Binary) : List Char :=
  if b.negative then ['-'] else []

/-- The shortest decimal that stands for the double. -/
def write (f : Format) (x : Float) : String :=
  match Binary.ofFloat? x with
  | none => f.special x
  | some b =>
    let d := b.shortest.digits.trimmed
    let body := if f.least ≤ d.exponent ∧ d.exponent ≤ f.most then d.positional else d.withExponent
    String.ofList (sign b ++ body)

/-- The nearest decimal with the given number of places after the point, with an exponent. -/
def scientific (f : Format) (places : Nat) (x : Float) : String :=
  match Binary.ofFloat? x with
  | none => f.special x
  | some b =>
    String.ofList (sign b ++ ((b.rounded (places + 1)).digits.padded (places + 1)).withExponent)

end Format

end ClippedCylinder.Decimal
