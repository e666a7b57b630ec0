import ClippedCylinder.Expression.Evaluate
import ClippedCylinder.Geometry.Plane
import ClippedCylinder.Trace

/-!
# Half-spaces as expressions

A half-space is written with the keyword `r`, a vector, a comparator and a value.  The
vector, made a unit vector, is the normal of the plane and points away from what is kept;
the anchor is the multiple of the normal by the value for the comparators below, and by
the opposite of the value for the comparators above.
-/

namespace ClippedCylinder

variable {K : Type} [Scalar K]

/-- The normal, the comparator and the value of the written bound. -/
def PlaneExpr.eval (p : PlaneExpr) : Except EvaluationFault (Vec3 K × Comparator × K) := do
  let normal ← Expr.evalTriple p.normal
  let value ← p.value.eval
  return (normal, p.comparator, value)

/-- The multiple of the unit normal at which the plane of a bound lies. -/
def Comparator.offset (c : Comparator) (value : K) : K :=
  if c.isAbove then -value else value

/-- The plane that a text stands for. -/
def evaluatePlane (text : String) : Traced K (Plane K) := do
  let (normal, comparator, value) ←
    Traced.lift (evaluateAs .plane Token.scanPlane PlaneExpr.ofTokens? PlaneExpr.eval text)
  Traced.lift (requireFinite text value)
  Traced.lift (normal.toList.forM (requireFinite text))
  let source := Text.trim text
  if ← Traced.lift normal.isZero then
    Traced.fail (.expression (.zeroNormal source))
  else
    let unit ← Traced.lift normal.normalize
    let anchor := Point.zero.move (unit.scale (comparator.offset value))
    let plane ← Traced.lift (Plane.through anchor unit)
    Traced.note (.planeRead source anchor unit)
    return plane

end ClippedCylinder
