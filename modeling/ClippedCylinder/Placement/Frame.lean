import ClippedCylinder.Geometry.Elimination
import ClippedCylinder.Placement.Direction
import ClippedCylinder.Trace

/-!
# Frames

The three vectors of the coordinates of a cylinder, in world coordinates.  From the axis,
which is the third one, and one more vector the missing one is found as a vector product.
The vectors need not be perpendicular.
-/

namespace ClippedCylinder

/-- The vectors that the three coordinates of a cylinder run along. -/
@[ext]
structure Frame (K : Type) where
  x : Vec3 K
  y : Vec3 K
  z : Vec3 K
deriving BEq, DecidableEq, Repr

namespace Frame

variable {K : Type} [Scalar K]

/-- The frame with the given axis and exactly one of the other vectors.  The missing vector
is the vector product of the given one with the axis. -/
def complete (axis : Vec3 K) : Option (Vec3 K) → Option (Vec3 K) → Except FrameFault (Frame K)
  | some x, none => .ok ⟨x, x.cross axis, axis⟩
  | none, some y => .ok ⟨y.cross axis, y, axis⟩
  | some _, some _ => .error .both
  | none, none => .error .neither

/-- The completed frame, with a note. -/
def ofAxis (axis : Vec3 K) (x y : Option (Vec3 K)) : Traced K (Frame K) := do
  let frame ← Traced.lift ((complete axis x y).mapError .frame)
  Traced.note (.frameCompleted frame.x frame.y frame.z)
  return frame

/-- The matrix that carries the unit vectors of the coordinates to the directions of the
frame; the directions must not lie in a plane. -/
def matrix (frame : Frame K) : Except (Fault K) (Matrix3 K) := do
  let x ← frame.x.direction (.frame .x)
  let y ← frame.y.direction (.frame .y)
  let z ← frame.z.direction (.frame .z)
  let m := Matrix3.ofColumns x y z
  if Scalar.le (Scalar.abs m.det) Scalar.epsilon then .error (.degenerate (.coplanar m.det))
  else return m

end Frame

end ClippedCylinder
