import ClippedCylinder.Clause.Classify
import ClippedCylinder.Expression.HalfSpace

/-!
# Interpreting clauses

The clauses of a property section are evaluated one after the other, and each changes the
cylinder described so far.  A later clause overrides an earlier one for the same slot, and
every bound adds a clipping plane.  A clause that is not recognised is skipped, or refused
when the interpretation is strict.
-/

namespace ClippedCylinder

variable {K : Type} [Scalar K]

/-! ### Bounds on coordinates -/

/-- The text of a bound on a coordinate as a half-space.  The normal is the unit vector of
the coordinate for the comparators below, and the opposite of it for those above. -/
def boundClause (c : Coordinate) (comparator value : String) : String :=
  let one := if comparator.toList.head? = some '>' then "-1" else "1"
  let entry (k : Coordinate) := if k = c then one else "0"
  s!"r({entry .x}, {entry .y}, {entry .z}) {comparator} {value}"

/-- The plane of a bound on a coordinate. -/
def boundPlane (c : Coordinate) (comparator value : String) : Traced K (Plane K) := do
  let clause := boundClause c comparator value
  Traced.note (.boundExpanded c.name comparator value clause)
  evaluatePlane clause

/-! ### Clauses -/

namespace CylinderSpec

/-- The cylinder changed by a clause of the given form. -/
def apply (s : CylinderSpec K) : ClauseForm → Traced K (CylinderSpec K)
  | .origin c value => do
    let x ← Traced.lift (evaluateScalar value)
    return { s with origin := s.origin.set c x }
  | .halfExtent c value => do
    let x ← Traced.lift (evaluateScalar value)
    return s.setHalfExtent c x
  | .radius value => do
    let x ← Traced.lift (evaluateScalar value)
    return { s with dx := x, dy := x }
  | .length value => do
    let x ← Traced.lift (evaluateScalar value)
    return { s with dz := x }
  | .axis value => do
    let v ← Traced.lift (evaluateVector value)
    return { s with axis := v }
  | .frame c value => do
    let v ← Traced.lift (evaluateVector value)
    return s.setFrame c v
  | .radialBound _ text => do
    let plane ← evaluatePlane text
    return s.clip plane
  | .axisBound c comparator value => do
    let plane ← boundPlane c comparator.text value
    return s.clip plane

/-- The cylinder changed by a clause; an unknown one is skipped, or refused if `strict`. -/
def applyClause (strict : Bool) (s : CylinderSpec K) (clause : Clause) :
    Traced K (CylinderSpec K) :=
  match clause.form with
  | some form => s.apply form
  | none =>
    if strict then Traced.fail (.unknownClause clause.text)
    else do
      Traced.note (.clauseSkipped clause.text)
      return s

/-- The cylinder changed by all clauses of a property section. -/
def interpret (strict : Bool) (s : CylinderSpec K) (properties : String) :
    Traced K (CylinderSpec K) :=
  (Clause.ofProperties properties).foldlM (applyClause strict) s

end CylinderSpec

end ClippedCylinder
