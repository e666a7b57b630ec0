import ClippedCylinder.Geometry.Vec3
import ClippedCylinder.Text.Blank

/-!
# Type names

What the name of a type says about a cylinder: an ending that names a coordinate sets the
axis, and the beginning tells elliptic cylinders from circular ones.  Neither depends on
the case of the letters.
-/

namespace ClippedCylinder

/-- The members of the cylinder family. -/
inductive CylinderKind where
  | circular
  | elliptic
deriving DecidableEq, Repr

/-- The name of a member of the cylinder family. -/
def CylinderKind.name : CylinderKind → String
  | .circular => "cylinder"
  | .elliptic => "elliptic_cylinder"

namespace TypeName

/-- The characters of a type name that count: trimmed and in lower case. -/
def normalized (typeName : String) : List Char :=
  (Text.trimChars typeName.toList).map Char.toLower

/-- The member of the family: elliptic if the type name begins with `ellipt`. -/
def kind (typeName : String) : CylinderKind :=
  if ['e', 'l', 'l', 'i', 'p', 't'].isPrefixOf (normalized typeName) then .elliptic
  else .circular

/-- The coordinate that the type name ends with, after an underscore; the third one if it
ends otherwise. -/
def coordinate (typeName : String) : Coordinate :=
  match (normalized typeName).reverse with
  | 'x' :: '_' :: _ => .x
  | 'y' :: '_' :: _ => .y
  | _ => .z

/-- The axis of a cylinder whose clauses set none. -/
def axis {K : Type} [Scalar K] (typeName : String) : Vec3 K :=
  Vec3.unit (coordinate typeName)

end TypeName

end ClippedCylinder
