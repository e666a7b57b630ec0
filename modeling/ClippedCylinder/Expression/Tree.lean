import ClippedCylinder.Expression.Token
import ClippedCylinder.Geometry.Vec3

/-!
# Expression trees

What an expression says once its parentheses and unary pluses are gone.
-/

namespace ClippedCylinder

/-- The operators between two expressions. -/
inductive Operator where
  | add
  | sub
  | mul
  | div
  | pow
deriving DecidableEq, Repr

/-- An expression. -/
inductive Expr where
  /-- A number as written. -/
  | numeral (n : Numeral)
  /-- The name of a constant. -/
  | symbol (name : String)
  /-- The name of a function with one or more arguments. -/
  | call (name : String) (first : Expr) (rest : List Expr)
  /-- The opposite of an expression. -/
  | neg (e : Expr)
  /-- Two expressions with an operator between them. -/
  | binary (op : Operator) (left right : Expr)
deriving Repr

/-- A bound of a half-space: a normal, a comparator and the value to compare with. -/
structure PlaneExpr where
  normal : Vec3 Expr
  comparator : Comparator
  value : Expr

end ClippedCylinder
