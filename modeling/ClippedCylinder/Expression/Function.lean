import ClippedCylinder.Scalar.Checked

/-!
# Constants and functions

The names that expressions may use.  The case of their letters does not matter.
-/

namespace ClippedCylinder

/-- The functions of expressions. -/
inductive Function where
  | sqrt
  | sin
  | cos
  | tan
  | asin
  | acos
  | atan
  | atan2
  | abs
  | exp
  | log
  | min
  | max
deriving DecidableEq, Repr

namespace Function

/-- The functions, in order. -/
def all : List Function :=
  [sqrt, sin, cos, tan, asin, acos, atan, atan2, abs, exp, log, min, max]

/-- The name of a function. -/
def name : Function → String
  | sqrt => "sqrt"
  | sin => "sin"
  | cos => "cos"
  | tan => "tan"
  | asin => "asin"
  | acos => "acos"
  | atan => "atan"
  | atan2 => "atan2"
  | abs => "abs"
  | exp => "exp"
  | log => "log"
  | min => "min"
  | max => "max"

/-- The function with the given name in any letter case. -/
def ofName? (s : String) : Option Function :=
  all.find? fun f => f.name == s.toLower

/-- The number of arguments of a function. -/
def arity : Function → Nat
  | atan2 | min | max => 2
  | _ => 1

variable {K : Type} [Scalar K]

/-- The value of a function of one number; functions of two numbers have none. -/
def apply₁ (x : K) : Function → Option (Except ArithmeticFault K)
  | sqrt => some (Scalar.sqrt? x)
  | sin => some (Scalar.periodic? Scalar.sin x)
  | cos => some (Scalar.periodic? Scalar.cos x)
  | tan => some (Scalar.periodic? Scalar.tan x)
  | asin => some (Scalar.arc? Scalar.asin x)
  | acos => some (Scalar.arc? Scalar.acos x)
  | atan => some (.ok (Scalar.atan x))
  | abs => some (.ok (Scalar.abs x))
  | exp => some (Scalar.exp? x)
  | log => some (Scalar.log? x)
  | atan2 | min | max => none

/-- The value of a function of two numbers; functions of one number have none. -/
def apply₂ (x y : K) : Function → Option (Except ArithmeticFault K)
  | atan2 => some (.ok (Scalar.atan2 x y))
  | min => some (.ok (Scalar.min x y))
  | max => some (.ok (Scalar.max x y))
  | _ => none

/-- The value of a function of a list of numbers. -/
def apply (f : Function) (args : List K) : Except EvaluationFault K :=
  let value :=
    match args with
    | [x] => f.apply₁ x
    | [x, y] => f.apply₂ x y
    | _ => none
  match value with
  | some v => v.mapError .arithmetic
  | none => .error (.arity f.name f.arity args.length)

end Function

/-- The value of a constant, by its name in any letter case. -/
def constant? {K : Type} [Scalar K] (s : String) : Option K :=
  if s.toLower == "pi" then some Scalar.pi
  else if s.toLower == "e" then some Scalar.e
  else none

end ClippedCylinder
