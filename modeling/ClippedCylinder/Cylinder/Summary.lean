import ClippedCylinder.Cylinder.Basic
import ClippedCylinder.Fault.Message
import ClippedCylinder.Scalar.Double
import ClippedCylinder.Text.Quoted

/-!
# Summaries

A cylinder as a JSON document on a single line.  How numbers are written is left to the
caller.
-/

namespace ClippedCylinder

namespace Summary

/-- The items as a JSON array. -/
def array (items : List String) : String :=
  "[" ++ ", ".intercalate items ++ "]"

/-- The fields as a JSON object. -/
def object (fields : List (String × String)) : String :=
  let texts := fields.map fun (name, value) => Text.jsonQuoted name ++ ": " ++ value
  "\x7b" ++ ", ".intercalate texts ++ "\x7d"

variable (number : Float → String)

/-- A vector as an array. -/
def ofVec (v : Vec3 Float) : String :=
  array (v.toList.map number)

/-- A point as an array. -/
def ofPoint (p : Point Float) : String :=
  array (p.toList.map number)

/-- A plane as an object. -/
def ofPlane (plane : Plane Float) : String :=
  object [("anchor", ofPoint number plane.anchor), ("normal", ofVec number plane.normal)]

/-- An affine map as an object. -/
def ofMap (t : AffineMap Float) : String :=
  object
    [("linear", array (t.linear.rows.map (ofVec number))),
      ("translation", ofVec number t.shift)]

end Summary

/-- The summary of a cylinder. -/
def Cylinder.summary (number : Float → String) (c : Cylinder Float) : String :=
  Summary.object
    [("kind", Text.jsonQuoted c.kind.name), ("type_name", Text.jsonQuoted c.typeName),
      ("origin", Summary.ofPoint number c.spec.origin),
      ("axis", Summary.ofVec number c.spec.axis),
      ("dx", number c.spec.dx), ("dy", number c.spec.dy), ("dz", number c.spec.dz),
      ("transform", Summary.ofMap number c.placement),
      ("bounds", Summary.array (c.bounds.map fun h => Summary.ofPlane number h.boundary))]

/-- An affine map in a message. -/
def AffineMap.text (t : AffineMap Float) : String :=
  let linear := Summary.array (t.linear.rows.map (Summary.ofVec numberText))
  s!"AffineTransform(linear={linear}, translation={Summary.ofVec numberText t.shift})"

end ClippedCylinder
