import ClippedCylinder.Geometry.Elimination
import ClippedCylinder.Geometry.Plane

/-!
# Affine maps

Maps of space that consist of a linear part and a shift.  A plane is mapped together
with the side that it keeps: its anchor as a point, and its normal by the inverse transpose
of the linear part, made a unit vector.
-/

namespace ClippedCylinder

/-- The map that sends `p` to `linear * p + shift`. -/
@[ext]
structure AffineMap (K : Type) where
  linear : Matrix3 K
  shift : Vec3 K
deriving BEq, DecidableEq, Repr

namespace AffineMap

variable {K : Type} [Scalar K]

/-- The map that moves nothing. -/
def identity : AffineMap K :=
  ⟨Matrix3.identity, 0⟩

/-- The determinant of the linear part. -/
def determinant (t : AffineMap K) : K :=
  t.linear.det

/-- Whether the map has an inverse. -/
def isInvertible (t : AffineMap K) : Bool :=
  t.linear.isInvertible

/-- The inverse of the linear part, if the map has an inverse. -/
def inverseLinear (t : AffineMap K) : Except (Fault K) (Matrix3 K) :=
  if t.isInvertible then .ok t.linear.inverse
  else .error (.degenerate (.singular t.determinant))

/-- The inverse map. -/
def inverse (t : AffineMap K) : Except (Fault K) (AffineMap K) := do
  let linear ← t.inverseLinear
  return ⟨linear, (-linear).apply t.shift⟩

/-- The image of a point. -/
def applyPoint (t : AffineMap K) (p : Point K) : Point K :=
  .ofVec (t.linear.apply p.toVec + t.shift)

/-- The images of points, as the rows of a product with the transposed linear part. -/
def applyPoints (t : AffineMap K) (ps : List (Point K)) : List (Point K) :=
  ps.map fun p => .ofVec (t.linear.transpose.applyRow p.toVec + t.shift)

/-- The image of a vector, which is not shifted. -/
def applyVector (t : AffineMap K) (v : Vec3 K) : Vec3 K :=
  t.linear.apply v

end AffineMap

/-- The image of a plane together with the side that it keeps. -/
def Plane.mapped {K : Type} [Scalar K] (plane : Plane K) (t : AffineMap K) :
    Except (Fault K) (Plane K) := do
  let anchor := t.applyPoint plane.anchor
  let normal := (← t.inverseLinear).transpose.apply plane.normal
  through anchor (← normal.normalize)

end ClippedCylinder
