import ClippedCylinder.Geometry.Length

/-!
# Planes

An oriented plane is given by a point on it and a normal, which points away from the side
that is kept.  The signed distance of a point is positive on the side of the normal.
-/

namespace ClippedCylinder

/-- An oriented plane. -/
@[ext]
structure Plane (K : Type) where
  anchor : Point K
  normal : Vec3 K
deriving BEq, DecidableEq, Repr

namespace Plane

variable {K : Type} [Scalar K]

/-- The plane through a point with a normal, which has to have a direction. -/
def through (anchor : Point K) (normal : Vec3 K) : Except (Fault K) (Plane K) := do
  if ← normal.isZero then .error (.geometry .zeroNormal) else return ⟨anchor, normal⟩

/-- How far the point is from the plane in units of the normal, positive on the side that
the normal points to. -/
def signedDistance (plane : Plane K) (p : Point K) : K :=
  plane.normal.dot (p.minus plane.anchor)

/-- The signed distances of points, measured from the anchor along the normal. -/
def signedDistances (plane : Plane K) (ps : List (Point K)) : List K :=
  ps.map fun p => (p.minus plane.anchor).dot plane.normal

end Plane

end ClippedCylinder
