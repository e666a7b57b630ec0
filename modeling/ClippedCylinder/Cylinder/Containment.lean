import ClippedCylinder.Cylinder.Basic

/-!
# Containment

Whether a cylinder contains points of the world.  The points are carried to the coordinates
of the cylinder, and every inequality is tested with the same tolerance.  A cylinder without
width contains nothing.
-/

namespace ClippedCylinder.Cylinder

variable {K : Type} [Scalar K]

/-- Whether the cylinder has no width. -/
def isFlat (c : Cylinder K) : Bool :=
  Scalar.le c.spec.dx 0 || Scalar.le c.spec.dy 0

/-- Whether a point, in the coordinates of the cylinder, is in the cylinder without its
half-spaces. -/
def solidContains (c : Cylinder K) (tolerance : K) (p : Point K) : Bool :=
  let x := p.x / c.spec.dx
  let y := p.y / c.spec.dy
  Scalar.le (x * x + y * y) (1 + tolerance) && Scalar.le (Scalar.abs p.z) (c.spec.dz + tolerance)

/-- Whether the cylinder contains a point of the world. -/
def contains (c : Cylinder K) (tolerance : K) (p : Point K) : Except (Fault K) Bool := do
  if c.isFlat then return false
  else
    let toLocal ← c.placement.inverse
    let q := toLocal.applyPoint p
    return c.solidContains tolerance q && c.bounds.all (·.keeps tolerance q)

/-- Which of the points of the world the cylinder contains.  One half-space after the other
is tested on all points. -/
def mask (c : Cylinder K) (tolerance : K) (ps : List (Point K)) : Except (Fault K) (List Bool) := do
  if c.isFlat then return ps.map fun _ => false
  else
    let toLocal ← c.placement.inverse
    let qs := toLocal.applyPoints ps
    return c.bounds.foldl (fun inside h => inside.zipWith (· && ·) (h.mask tolerance qs))
      (qs.map (c.solidContains tolerance))

end ClippedCylinder.Cylinder
