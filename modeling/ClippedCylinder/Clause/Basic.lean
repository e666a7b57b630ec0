import ClippedCylinder.Expression.Token
import ClippedCylinder.Spec

/-!
# Clauses

A clause sets one slot of a cylinder or clips it.  A recognised clause has a form, which
holds the slot and the text of the value; the value is not evaluated yet.
-/

namespace ClippedCylinder

/-- The coordinate with a one-letter name. -/
def Coordinate.ofChar? : Char → Option Coordinate
  | 'x' => some .x
  | 'y' => some .y
  | 'z' => some .z
  | _ => none

/-- The name of a coordinate. -/
def Coordinate.name : Coordinate → String
  | .x => "x"
  | .y => "y"
  | .z => "z"

/-- The coordinate with the name. -/
def Coordinate.ofName {K : Type} (s : String) : Except (Fault K) Coordinate :=
  match s.toList with
  | [c] =>
    match ofChar? c with
    | some k => .ok k
    | none => .error (.geometry (.unknownCoordinate s))
  | _ => .error (.geometry (.unknownCoordinate s))

/-- The name of a coordinate across the axis. -/
def Lateral.name : Lateral → String
  | .x => "x"
  | .y => "y"

/-- The coordinate across the axis with a one-letter name. -/
def Lateral.ofChar? : Char → Option Lateral
  | 'x' => some .x
  | 'y' => some .y
  | _ => none

/-- The kinds of clauses. -/
inductive ClauseKind where
  | origin
  | halfExtent
  | radius
  | length
  | axis
  | radialBound
  | frame
  | axisBound
  | unknown
deriving DecidableEq, Repr

/-- The name of a kind of clauses. -/
def ClauseKind.name : ClauseKind → String
  | .origin => "origin"
  | .halfExtent => "half_extent"
  | .radius => "radius"
  | .length => "length"
  | .axis => "axis"
  | .radialBound => "radial_bound"
  | .frame => "frame"
  | .axisBound => "axis_bound"
  | .unknown => "unknown"

/-- What a recognised clause does, with the text of its value. -/
inductive ClauseForm where
  /-- A coordinate of the centre. -/
  | origin (c : Coordinate) (value : String)
  /-- A half width. -/
  | halfExtent (c : Lateral) (value : String)
  /-- Both half widths. -/
  | radius (value : String)
  /-- The half length. -/
  | length (value : String)
  /-- The direction of the length. -/
  | axis (value : String)
  /-- A half-space, as a whole text. -/
  | radialBound (comparator : Comparator) (text : String)
  /-- A frame vector. -/
  | frame (c : Lateral) (value : String)
  /-- A bound on a coordinate. -/
  | axisBound (c : Coordinate) (comparator : Comparator) (value : String)
deriving DecidableEq, Repr

/-- A clause; it has a form when it is recognised. -/
structure Clause where
  text : String
  form : Option ClauseForm
deriving DecidableEq, Repr

/-! ### The parts of a form -/

namespace ClauseForm

/-- The kind of a form. -/
def kind : ClauseForm → ClauseKind
  | origin _ _ => .origin
  | halfExtent _ _ => .halfExtent
  | radius _ => .radius
  | length _ => .length
  | axis _ => .axis
  | radialBound _ _ => .radialBound
  | frame _ _ => .frame
  | axisBound _ _ _ => .axisBound

/-- The keyword of a form. -/
def key : ClauseForm → String
  | origin c _ => c.name
  | halfExtent c _ => "d" ++ c.name
  | radius _ => "r"
  | length _ => "l"
  | axis _ => "axis"
  | radialBound _ _ => "r"
  | frame c _ => "a_" ++ c.name
  | axisBound c _ _ => c.name

/-- The sign between the keyword and the value, if the form has one. -/
def operator : ClauseForm → String
  | origin _ _ | halfExtent _ _ | radius _ | length _ => "="
  | axis _ | frame _ _ => ""
  | radialBound comparator _ | axisBound _ comparator _ => comparator.text

/-- The text of the value. -/
def value : ClauseForm → String
  | origin _ v | halfExtent _ v | radius v | length v | axis v | radialBound _ v | frame _ v
  | axisBound _ _ v => v

end ClauseForm

namespace Clause

/-- The kind of a clause. -/
def kind (c : Clause) : ClauseKind :=
  (c.form.map ClauseForm.kind).getD .unknown

/-- The keyword of a clause; an unknown clause has none. -/
def key (c : Clause) : String :=
  (c.form.map ClauseForm.key).getD ""

/-- The sign between the keyword and the value; an unknown clause has none. -/
def operator (c : Clause) : String :=
  (c.form.map ClauseForm.operator).getD ""

/-- The text of the value; an unknown clause has none. -/
def value (c : Clause) : String :=
  (c.form.map ClauseForm.value).getD ""

end Clause

end ClippedCylinder
