import ClippedCylinder.Fault
import ClippedCylinder.Decimal.Format
import ClippedCylinder.Text.Quoted

/-!
# The wording of failures

What is said to the user about each cause of failure.  Vectors are written as triples of
shortest decimals, determinants with three places.
-/

namespace ClippedCylinder

open Decimal

/-! ### Numbers in messages -/

/-- A number in a message. -/
def numberText (x : Float) : String :=
  Format.plain.write x

/-- A list of texts in parentheses. -/
def tupleText (items : List String) : String :=
  "(" ++ ", ".intercalate items ++ ")"

/-- A vector in a message. -/
def Vec3.text (v : Vec3 Float) : String :=
  tupleText (v.toList.map numberText)

/-- A point in a message. -/
def Point.text (p : Point Float) : String :=
  tupleText (p.toList.map numberText)

/-- The dimensions of a table; a single one is followed by a comma. -/
def shapeText : List Nat → String
  | [n] => "(" ++ toString n ++ ",)"
  | ns => tupleText (ns.map toString)

/-- A determinant in a message. -/
def determinantText (x : Float) : String :=
  Format.plain.scientific 3 x

/-! ### Messages -/

/-- The wording of a failed operation. -/
def ArithmeticFault.message : ArithmeticFault → String
  | .divisionByZero => "float division by zero"
  | .domain => "math domain error"
  | .range => "math range error"
  | .overflow => "(34, 'Numerical result out of range')"
  | .zeroToNegative => "0.0 cannot be raised to a negative power"
  | .notReal => "float() argument must be a string or a real number, not 'complex'"
  | .notRealOverflow => "complex exponentiation"

/-- The word for a kind of expressions. -/
def ExpressionKind.name : ExpressionKind → String
  | .scalar => "scalar"
  | .vector => "vector"
  | .plane => "plane"

/-- The wording of an expression without a value. -/
def ExpressionFault.message : ExpressionFault → String
  | .empty kind => s!"Empty {kind.name} expression."
  | .malformed kind source => s!"Malformed {kind.name} expression '{source}'."
  | .failed _ _ (.unknownSymbol name) => s!"Unknown symbol '{name}'."
  | .failed _ _ (.unknownFunction name) => s!"Unknown function '{name}'."
  | .failed _ _ (.arity name expected given) =>
    s!"Function '{name}' expects {expected} argument(s), got {given}."
  | .failed kind source (.arithmetic cause) =>
    s!"Cannot evaluate {kind.name} '{source}': {cause.message}"
  | .notFinite text => s!"Expression '{text}' does not evaluate to a finite number."
  | .zeroNormal source => s!"Plane clause '{source}' has a zero normal."

/-- The wording of a descriptor without a type name or properties. -/
def HeaderFault.message (text : String) : HeaderFault → String
  | .noHeader => s!"Descriptor '{text}' has no 'TypeName:' header."
  | .emptyTypeName => s!"Descriptor '{text}' has an empty type name."
  | .noProperties => s!"Descriptor '{text}' has no properties."

/-- The wording of an incomplete frame. -/
def FrameFault.message : FrameFault → String
  | .both => "Both a_x and a_y are given; supply only one of them."
  | .neither => "Neither a_x nor a_y is given; nothing to complete."

/-- The words for the part of a vector. -/
def AxisRole.name : AxisRole → String
  | .axis => "axis"
  | .frame .x => "frame axis a_x"
  | .frame .y => "frame axis a_y"
  | .frame .z => "frame axis a_z"

/-- The wording of a degenerate placement. -/
def DegenerateFault.message : DegenerateFault Float → String
  | .zeroLength role v => s!"The {role.name} {v.text} has zero length."
  | .singular determinant => s!"Linear part is singular (det={determinantText determinant})."
  | .coplanar determinant =>
    s!"Frame axes are coplanar (det={determinantText determinant}); cannot build a transform."
  | .notInvertible axis => s!"Transform for axis {axis.text} is not invertible."

/-- The wording of a failed geometric operation. -/
def GeometryFault.message : GeometryFault → String
  | .overflow => ArithmeticFault.overflow.message
  | .divisionByZero => ""
  | .zeroNormal => "Plane normal vector cannot be zero"
  | .coordinateCount given =>
    if given < 3 then s!"not enough values to unpack (expected 3, got {given})"
    else "too many values to unpack (expected 3)"
  | .coordinateIndex => "list assignment index out of range"
  | .indexSize => "cannot fit 'int' into an index-sized integer"
  | .notAddable => "Can only add a Vector to a Point."
  | .notSubtractable => "Can only subtract a Vector or Point to a Point."
  | .unknownCoordinate name => Text.quoted name
  | .shiftSize given => s!"cannot reshape array of size {given} into shape (3,)"
  | .linearShape shape => s!"Expected a 3x3 linear part, got {shapeText shape}."
  | .raggedTable shape =>
    "setting an array element with a sequence. The requested array has an inhomogeneous " ++
    s!"shape after {shape.length} dimensions. " ++
    s!"The detected shape was {shapeText shape} + inhomogeneous part."
  | .deepTable =>
    "setting an array element with a sequence. The requested array would exceed the maximum " ++
    "number of dimension of 64."
  | .pointColumns given =>
    "matmul: Input operand 1 has a mismatch in its core dimension 0, with gufunc signature " ++
    s!"(n?,k),(k,m?)->(n?,m?) (size 3 is different from {given})"
  | .noPoints => "operands could not be broadcast together with shapes (1,0) (3,) "

/-- The wording of a failure. -/
def Fault.message : Fault Float → String
  | .header cause text => cause.message text
  | .unknownClause text => s!"Unknown clause '{text}'."
  | .expression cause => cause.message
  | .frame cause => cause.message
  | .degenerate cause => cause.message
  | .geometry cause => cause.message

end ClippedCylinder
