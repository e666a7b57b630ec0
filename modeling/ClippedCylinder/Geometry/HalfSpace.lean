import ClippedCylinder.Geometry.AffineMap

/-!
# Half-spaces

The side of an oriented plane that its normal points away from.  A tolerance widens the
half-space, or narrows it when negative.
-/

namespace ClippedCylinder

/-- The kept side of a plane. -/
@[ext]
structure HalfSpace (K : Type) where
  boundary : Plane K
deriving BEq, DecidableEq, Repr

namespace HalfSpace

variable {K : Type} [Scalar K]

/-- Whether the point is kept. -/
def keeps (h : HalfSpace K) (tolerance : K) (p : Point K) : Bool :=
  Scalar.le (h.boundary.signedDistance p) tolerance

/-- Which of the points are kept. -/
def mask (h : HalfSpace K) (tolerance : K) (ps : List (Point K)) : List Bool :=
  (h.boundary.signedDistances ps).map (Scalar.le · tolerance)

/-- Which of the points of a list are kept.  There have to be points: an empty list does not
tell that its points would have three coordinates. -/
def maskOfList (h : HalfSpace K) (tolerance : K) (ps : List (Point K)) :
    Except (Fault K) (List Bool) :=
  if ps.isEmpty then .error (.geometry .noPoints) else .ok (h.mask tolerance ps)

/-- The image of the half-space. -/
def mapped (h : HalfSpace K) (t : AffineMap K) : Except (Fault K) (HalfSpace K) := do
  return ⟨← h.boundary.mapped t⟩

end HalfSpace

end ClippedCylinder
