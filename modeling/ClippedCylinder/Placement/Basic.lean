import ClippedCylinder.Geometry.AffineMap
import ClippedCylinder.Placement.Frame
import ClippedCylinder.Placement.Rotation
import ClippedCylinder.Spec

/-!
# Placements

The affine map that carries a cylinder from its own coordinates, in which it stands on the
third axis around the origin, to its place in the world.  Its linear part comes from the
explicit frame if a frame vector is given, and from the axis alone otherwise.
-/

namespace ClippedCylinder.CylinderSpec

variable {K : Type} [Scalar K]

/-- The linear part of the placement. -/
def orientation (s : CylinderSpec K) : Traced K (Matrix3 K) := do
  if s.hasFrame then
    let frame ← Frame.ofAxis s.axis s.frameX s.frameY
    let m ← Traced.lift frame.matrix
    Traced.note .explicitFrame
    return m
  else
    let m ← Traced.lift (Matrix3.rotationAligningZ s.axis)
    Traced.note (.singleAxis s.axis)
    return m

/-- The placement, which has to have an inverse. -/
def placement (s : CylinderSpec K) : Traced K (AffineMap K) := do
  let linear ← s.orientation
  let map : AffineMap K := ⟨linear, s.origin.toVec⟩
  if map.isInvertible then return map
  else Traced.fail (.degenerate (.notInvertible s.axis))

end ClippedCylinder.CylinderSpec
