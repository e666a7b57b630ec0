import ClippedCylinder.Fault

/-!
# Directions

The unit vector in the direction of a vector, for the vectors of a placement.
-/

namespace ClippedCylinder

variable {K : Type} [Scalar K]

/-- The unit vector in the direction of a vector that plays the given part. -/
def Vec3.direction (role : AxisRole) (v : Vec3 K) : Except (Fault K) (Vec3 K) :=
  if Scalar.le v.norm Scalar.epsilon then .error (.degenerate (.zeroLength role v))
  else .ok (v.dividedBy v.norm)

end ClippedCylinder
