import ClippedCylinder.Clause.Interpret
import ClippedCylinder.Descriptor
import ClippedCylinder.Geometry.HalfSpace
import ClippedCylinder.Placement.Basic
import ClippedCylinder.TypeName

/-!
# Clipped cylinders

A compiled cylinder.  In its own coordinates it consists of the points `(x, y, z)` with
`(x / dx) ^ 2 + (y / dy) ^ 2 ≤ 1` and `|z| ≤ dz` that lie in all of its half-spaces; its
placement carries these coordinates to the world.  A cylinder is compiled from a
descriptor: the clauses are interpreted, the placement is built, and the clipping planes
are carried from the world to the coordinates of the cylinder.
-/

namespace ClippedCylinder

/-- A cylinder with its place in the world and the half-spaces that clip it, which are in
its own coordinates. -/
structure Cylinder (K : Type) where
  typeName : String
  spec : CylinderSpec K
  placement : AffineMap K
  bounds : List (HalfSpace K)
deriving BEq, DecidableEq, Repr

namespace Cylinder

variable {K : Type}

/-- The member of the cylinder family. -/
def kind (c : Cylinder K) : CylinderKind :=
  TypeName.kind c.typeName

variable [Scalar K]

/-! ### Compiling -/

/-- The clipping planes of a described cylinder as half-spaces in its own coordinates, in
the same order. -/
def localBounds (s : CylinderSpec K) (placement : AffineMap K) :
    Except (Fault K) (List (HalfSpace K)) := do
  let toLocal ← placement.inverse
  s.planes.mapM fun plane => do
    return ⟨← plane.mapped toLocal⟩

/-- The cylinder with the given type name and description. -/
def assemble (typeName : String) (s : CylinderSpec K) : Traced K (Cylinder K) := do
  let placement ← s.placement
  let bounds ← Traced.lift (localBounds s placement)
  return ⟨typeName, s, placement, bounds⟩

/-- The cylinder that a descriptor stands for.  Clauses that are not recognised are skipped,
or refused if `strict`. -/
def compile (strict : Bool) (descriptor : String) : Traced K (Cylinder K) := do
  let d ← Traced.lift (Descriptor.parse descriptor)
  let initial := { CylinderSpec.initial with axis := TypeName.axis d.typeName }
  let s ← initial.interpret strict d.properties
  let c ← assemble d.typeName s
  Traced.note (.compiled c.typeName s.origin s.extents c.bounds.length)
  return c

/-! ### Planes in the world -/

/-- The clipping planes carried back to the world, in the same order. -/
def worldPlanes (c : Cylinder K) : Except (Fault K) (List (Plane K)) :=
  c.bounds.mapM fun h => do
    return (← h.mapped c.placement).boundary

end Cylinder

end ClippedCylinder
