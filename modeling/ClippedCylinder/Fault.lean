import ClippedCylinder.Geometry.Vec3

/-!
# Causes of failure

Why a computation fails, by cause.  A `Fault` is the failure of any computation of the
library; all of them except the `geometry` ones say that the text at hand describes no
cylinder.  The wording is in `ClippedCylinder.Fault.Message`.
-/

namespace ClippedCylinder

/-! ### Expressions -/

/-- Why an arithmetic operation has no result. -/
inductive ArithmeticFault where
  /-- Division by zero. -/
  | divisionByZero
  /-- An argument outside the domain of the function. -/
  | domain
  /-- A result of an elementary function that is too large. -/
  | range
  /-- A power that is too large. -/
  | overflow
  /-- A negative power of zero. -/
  | zeroToNegative
  /-- A power of a negative number that is no real number. -/
  | notReal
  /-- A power of a negative number that is no real number and too large. -/
  | notRealOverflow
deriving DecidableEq, Repr

/-- Why an expression tree has no value. -/
inductive EvaluationFault where
  /-- A name that stands for no constant. -/
  | unknownSymbol (name : String)
  /-- A name that stands for no function. -/
  | unknownFunction (name : String)
  /-- A function applied to the wrong number of arguments. -/
  | arity (name : String) (expected given : Nat)
  /-- An operation that has no result. -/
  | arithmetic (cause : ArithmeticFault)
deriving DecidableEq, Repr

/-- The kinds of expressions. -/
inductive ExpressionKind where
  /-- A number. -/
  | scalar
  /-- A triple of numbers in parentheses. -/
  | vector
  /-- A half-space: a normal, a comparator and a number. -/
  | plane
deriving DecidableEq, Repr

/-- Why a text has no value as an expression. -/
inductive ExpressionFault where
  /-- The text is blank. -/
  | empty (kind : ExpressionKind)
  /-- The text is not written as an expression of the kind. -/
  | malformed (kind : ExpressionKind) (source : String)
  /-- The expression has no value. -/
  | failed (kind : ExpressionKind) (source : String) (cause : EvaluationFault)
  /-- A value is infinite or not a number. -/
  | notFinite (text : String)
  /-- The normal of a plane is too short to have a direction. -/
  | zeroNormal (source : String)
deriving DecidableEq, Repr

/-! ### Descriptors -/

/-- Why a text is not split into a type name and properties. -/
inductive HeaderFault where
  /-- There is no colon. -/
  | noHeader
  /-- Nothing stands before the first colon. -/
  | emptyTypeName
  /-- Nothing stands after the first colon. -/
  | noProperties
deriving DecidableEq, Repr

/-! ### Placement -/

/-- Why a frame cannot be completed from its axis. -/
inductive FrameFault where
  /-- Both frame vectors are given. -/
  | both
  /-- No frame vector is given. -/
  | neither
deriving DecidableEq, Repr

/-- The part that a vector plays in a placement. -/
inductive AxisRole where
  /-- The axis of the cylinder. -/
  | axis
  /-- The vector of a coordinate of an explicit frame. -/
  | frame (c : Coordinate)
deriving DecidableEq, Repr

/-- Why vectors give no invertible transformation. -/
inductive DegenerateFault (K : Type) where
  /-- A vector is too short to have a direction. -/
  | zeroLength (role : AxisRole) (v : Vec3 K)
  /-- A linear part has no inverse. -/
  | singular (determinant : K)
  /-- The vectors of a frame lie in a plane. -/
  | coplanar (determinant : K)
  /-- The transformation that places a cylinder has no inverse. -/
  | notInvertible (axis : Vec3 K)
deriving DecidableEq, Repr

/-! ### Geometry -/

/-- Why an operation on points, vectors, planes or transformations has no result. -/
inductive GeometryFault where
  /-- The square of a coordinate is too large. -/
  | overflow
  /-- A vector is divided by zero. -/
  | divisionByZero
  /-- The normal of a plane is too short to have a direction. -/
  | zeroNormal
  /-- A list of coordinates has not the length three. -/
  | coordinateCount (given : Nat)
  /-- There is no coordinate with the index. -/
  | coordinateIndex
  /-- An index is not a signed number of 64 bits. -/
  | indexSize
  /-- Something other than a vector is added to a point. -/
  | notAddable
  /-- Something other than a vector or a point is subtracted from a point. -/
  | notSubtractable
  /-- There is no coordinate with the name. -/
  | unknownCoordinate (name : String)
  /-- A shift has not three entries. -/
  | shiftSize (given : Nat)
  /-- A linear part is not a table of three rows and three columns. -/
  | linearShape (shape : List Nat)
  /-- The lists of a table have not one length, below the depth down to which the shape is
  known. -/
  | raggedTable (shape : List Nat)
  /-- The lists of a table are nested too deeply. -/
  | deepTable
  /-- The rows of a table of points have not three entries. -/
  | pointColumns (given : Nat)
  /-- There are no points to be measured. -/
  | noPoints
deriving DecidableEq, Repr

/-! ### All causes -/

/-- The failure of a computation. -/
inductive Fault (K : Type) where
  /-- A text is not split into a type name and properties. -/
  | header (cause : HeaderFault) (text : String)
  /-- A clause is not recognised. -/
  | unknownClause (text : String)
  /-- A text has no value as an expression. -/
  | expression (cause : ExpressionFault)
  /-- A frame cannot be completed. -/
  | frame (cause : FrameFault)
  /-- Vectors give no invertible transformation. -/
  | degenerate (cause : DegenerateFault K)
  /-- An operation on geometric values has no result. -/
  | geometry (cause : GeometryFault)
deriving DecidableEq, Repr

/-- Whether the failure says that a text describes no cylinder. -/
def Fault.isRejection {K : Type} : Fault K → Bool
  | .geometry _ => false
  | _ => true

end ClippedCylinder
