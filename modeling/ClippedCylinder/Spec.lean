import ClippedCylinder.Geometry.Plane

/-!
# What a descriptor says about a cylinder

The position, the size, the orientation and the clipping planes of a cylinder, before they
are turned into a placement.  The planes are in world coordinates and in the order in which
they were given.
-/

namespace ClippedCylinder

/-- One of the two coordinates across the axis of a cylinder. -/
inductive Lateral where
  | x
  | y
deriving DecidableEq, Repr

/-- A cylinder as described. -/
structure CylinderSpec (K : Type) where
  /-- The centre. -/
  origin : Point K
  /-- Half of the width in the direction of the own first coordinate. -/
  dx : K
  /-- Half of the width in the direction of the own second coordinate. -/
  dy : K
  /-- Half of the length. -/
  dz : K
  /-- The direction of the length. -/
  axis : Vec3 K
  /-- The direction of the own first coordinate, if given. -/
  frameX : Option (Vec3 K)
  /-- The direction of the own second coordinate, if given. -/
  frameY : Option (Vec3 K)
  /-- The planes that clip the cylinder. -/
  planes : List (Plane K)
deriving BEq, DecidableEq, Repr

namespace CylinderSpec

variable {K : Type}

/-- The cylinder of no size at the origin of space along the third coordinate axis. -/
def initial [Scalar K] : CylinderSpec K :=
  ⟨Point.zero, 0, 0, 0, Vec3.unit .z, none, none, []⟩

/-- Whether a frame vector is given. -/
def hasFrame (s : CylinderSpec K) : Bool :=
  s.frameX.isSome || s.frameY.isSome

/-- The half widths and the half length. -/
def extents (s : CylinderSpec K) : Vec3 K :=
  ⟨s.dx, s.dy, s.dz⟩

/-- The cylinder with another half width. -/
def setHalfExtent (s : CylinderSpec K) (c : Lateral) (value : K) : CylinderSpec K :=
  match c with
  | .x => { s with dx := value }
  | .y => { s with dy := value }

/-- The cylinder with another frame vector. -/
def setFrame (s : CylinderSpec K) (c : Lateral) (v : Vec3 K) : CylinderSpec K :=
  match c with
  | .x => { s with frameX := some v }
  | .y => { s with frameY := some v }

/-- The cylinder clipped by one more plane. -/
def clip (s : CylinderSpec K) (plane : Plane K) : CylinderSpec K :=
  { s with planes := s.planes ++ [plane] }

end CylinderSpec

end ClippedCylinder
