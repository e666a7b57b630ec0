import ClippedCylinder.Geometry.AffineMap

/-!
# Tables of numbers

Numbers in nested lists, as they are handed in from outside, and the affine maps and the
points that they describe.  A table is read by its shape, which are the lengths of its lists
from the outermost on; all lists of one depth have to have one length.
-/

namespace ClippedCylinder

/-- A number or a list of tables. -/
inductive Table (K : Type) where
  | number (x : K)
  | list (items : List (Table K))

namespace Table

variable {K : Type}

mutual

/-- The numbers of a table, in order. -/
def numbers : Table K → List K
  | number x => [x]
  | list items => numbersOfAll items

/-- The numbers of a list of tables, in order. -/
def numbersOfAll : List (Table K) → List K
  | [] => []
  | t :: ts => numbers t ++ numbersOfAll ts

end

/-! ### Shapes -/

/-- The longest list that both lists begin with. -/
def commonStart : List Nat → List Nat → List Nat
  | m :: ms, n :: ns => if m = n then m :: commonStart ms ns else []
  | _, _ => []

mutual

/-- The lengths of the lists of a table, as far down as all lists of one depth have one
length and none of them stands beside a number. -/
def shape : Table K → List Nat
  | number _ => []
  | list items => items.length :: shapeOfAll items

/-- What the shapes of all tables begin with. -/
def shapeOfAll : List (Table K) → List Nat
  | [] => []
  | [t] => shape t
  | t :: ts => commonStart (shape t) (shapeOfAll ts)

end

mutual

/-- Whether the table has the shape all the way down to its numbers. -/
def hasShape : Table K → List Nat → Bool
  | number _, ns => ns.isEmpty
  | list items, n :: ns => items.length == n && allHaveShape items ns
  | list _, [] => false

/-- Whether all tables have the shape. -/
def allHaveShape : List (Table K) → List Nat → Bool
  | [], _ => true
  | t :: ts, ns => hasShape t ns && allHaveShape ts ns

end

/-- The depth down to which lists may be nested. -/
def maxDepth : Nat := 64

/-- The shape and the numbers of a table in which lists of one depth have one length. -/
def read (t : Table K) : Except (Fault K) (List Nat × List K) :=
  if t.hasShape t.shape && t.shape.length ≤ maxDepth then .ok (t.shape, t.numbers)
  else if maxDepth ≤ t.shape.length then .error (.geometry .deepTable)
  else .error (.geometry (.raggedTable t.shape))

/-! ### Points -/

/-- The points whose coordinates follow one another in a list. -/
def pointsOfNumbers : List K → List (Point K)
  | x :: y :: z :: rest => ⟨x, y, z⟩ :: pointsOfNumbers rest
  | _ => []

/-- The points that the rows of a table are.  A list of numbers is one row, and a number
alone is a row of one entry. -/
def points (t : Table K) : Except (Fault K) (List (Point K)) := do
  let (shape, xs) ← t.read
  let columns := shape.getLast?.getD 1
  if columns = 3 then return pointsOfNumbers xs else .error (.geometry (.pointColumns columns))

end Table

/-- The affine map with the linear part and the shift given by tables; the entries of the
shift count, whatever lists they are in. -/
def AffineMap.ofTables {K : Type} (linear shift : Table K) : Except (Fault K) (AffineMap K) := do
  let (shape, entries) ← linear.read
  let (_, offsets) ← shift.read
  match offsets with
  | [tx, ty, tz] =>
    match shape, entries with
    | [3, 3], [a, b, c, d, e, f, g, h, i] =>
      return ⟨⟨⟨a, b, c⟩, ⟨d, e, f⟩, ⟨g, h, i⟩⟩, ⟨tx, ty, tz⟩⟩
    | _, _ => .error (.geometry (.linearShape shape))
  | _ => .error (.geometry (.shiftSize offsets.length))

end ClippedCylinder
