import ClippedCylinder.Geometry.Matrix3
import ClippedCylinder.Placement.Direction

/-!
# Rotations of the third axis

The rotation that carries the third coordinate axis to a given direction and turns about
the line perpendicular to both.  A direction too close to the third axis gives the unit
matrix, and one too close to its opposite the half turn about the first axis.
-/

namespace ClippedCylinder.Matrix3

variable {K : Type} [Scalar K]

/-- The matrix that maps a vector to the vector product of `k` with it. -/
def crossWith (k : Vec3 K) : Matrix3 K :=
  ⟨⟨0, -k.z, k.y⟩, ⟨k.z, 0, -k.x⟩, ⟨-k.y, k.x, 0⟩⟩

/-- The half turn about the first axis. -/
def halfTurn : Matrix3 K :=
  diagonal ⟨1, -1, -1⟩

/-- The rotation about the unit vector `k` by the angle with the given sine and cosine. -/
def rotationAbout (k : Vec3 K) (sine cosine : K) : Matrix3 K :=
  identity + scale sine (crossWith k) + scale (1 - cosine) ((crossWith k).mul (crossWith k))

/-- The rotation that carries the third axis to a unit vector. -/
def rotationTo (target : Vec3 K) : Matrix3 K :=
  let cosine := (Vec3.unit .z).dot target
  if Scalar.le (1 - Scalar.epsilon) cosine then identity
  else if Scalar.le cosine (-1 + Scalar.epsilon) then halfTurn
  else
    let k := (Vec3.unit .z).cross target
    rotationAbout (k.dividedBy k.norm) k.norm cosine

/-- The rotation that carries the third axis to the direction of a vector. -/
def rotationAligningZ (axis : Vec3 K) : Except (Fault K) (Matrix3 K) := do
  return rotationTo (← axis.direction .axis)

end ClippedCylinder.Matrix3
