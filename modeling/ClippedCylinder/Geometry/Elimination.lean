import ClippedCylinder.Geometry.Matrix3

/-!
# Elimination

A matrix is brought into upper triangular form by exchanging rows and by subtracting
multiples of one row from those below it.  The columns are treated one after the other: a
column first undergoes what was done to the columns before it, then its entry of the largest
magnitude among those not yet used is moved up, and the entries below become multiples of
it.  The form yields the determinant and the solutions of linear equations.

A pivot without a reciprocal is not used: the entries of its column stay where they are.
The sums of products start from zero.
-/

namespace ClippedCylinder

/-- The outcome of an elimination: the exchanges of rows, the multiples that were
subtracted, and the upper triangular rows. -/
structure Elimination (K : Type) where
  /-- The row that was exchanged with the first one. -/
  first : Coordinate
  /-- Whether the last two rows were exchanged after that. -/
  isLastExchanged : Bool
  /-- Whether a pivot was zero. -/
  isSingular : Bool
  /-- The multiple of the first row in the second. -/
  yx : K
  /-- The multiple of the first row in the third. -/
  zx : K
  /-- The multiple of the second row in the third. -/
  zy : K
  /-- The first row. -/
  x : Vec3 K
  /-- The last two entries of the second row. -/
  y : K × K
  /-- The last entry of the third row. -/
  z : K

namespace Elimination

variable {K : Type} [Scalar K]

/-- Whether the second number has the larger magnitude. -/
def isLarger (x y : K) : Bool :=
  Scalar.lt (Scalar.abs x) (Scalar.abs y)

/-- The topmost row of a column whose entry no other entry is larger than.  Failed results
are not larger than anything, and nothing is larger than they are. -/
def pivotRow (column : Vec3 K) : Coordinate :=
  if isLarger column.x column.y || isLarger column.x column.z then
    if isLarger column.y column.z then .z else .y
  else .x

/-- The multiple of the pivot that an entry is.  A pivot so large that its reciprocal is
zero has only the multiple zero. -/
def multiple (pivot entry : K) : K :=
  let reciprocal := 1 / pivot
  if reciprocal == 0 then 0 else entry * reciprocal

/-- The elimination of a matrix. -/
def ofMatrix (m : Matrix3 K) : Elimination K :=
  let columns := m.transpose
  let first := pivotRow columns.x
  let px := columns.x.get first
  let a :=
    if Scalar.hasReciprocal px then
      let a := columns.x.exchangeFirst first
      ⟨a.x, multiple px a.y, multiple px a.z⟩
    else columns.x
  let b := columns.y.exchangeFirst first
  let by₀ := b.y - (0 + a.y * b.x)
  let bz₀ := b.z - (0 + a.z * b.x)
  let isLastExchanged := isLarger by₀ bz₀
  let py := if isLastExchanged then bz₀ else by₀
  let (yx, zx, yy, zy) :=
    if !Scalar.hasReciprocal py then (a.y, a.z, by₀, bz₀)
    else if isLastExchanged then (a.z, a.y, bz₀, multiple py by₀)
    else (a.y, a.z, by₀, multiple py bz₀)
  let c := (columns.z.exchangeFirst first).exchangeLast isLastExchanged
  let yz := c.y - (0 + yx * c.x)
  let zz := c.z - ((0 + zx * c.x) + zy * yz)
  { first, isLastExchanged, isSingular := px == 0 || py == 0 || zz == 0
    yx, zx, zy, x := ⟨a.x, b.x, c.x⟩, y := (yy, yz), z := zz }

/-- The diagonal of the triangular form. -/
def pivots (e : Elimination K) : List K :=
  [e.x.x, e.y.1, e.z]

/-- Whether an odd number of exchanges was made. -/
def isOdd (e : Elimination K) : Bool :=
  e.first != .x ^^ e.isLastExchanged

/-- The sign of the determinant: of the exchanges of rows and of the pivots. -/
def sign (e : Elimination K) : K :=
  e.pivots.foldl (fun s p => if Scalar.lt p 0 then -s else s) (if e.isOdd then -1 else 1)

/-- The determinant: zero if a pivot is zero.  Its magnitude is the product of those of the
pivots and is computed from their logarithms, so that no partial product is too large. -/
def determinant (e : Elimination K) : K :=
  if e.isSingular then 0
  else
    let logs := e.pivots.map fun p => Scalar.log (Scalar.abs p)
    e.sign * Scalar.exp (logs.foldl (· + ·) 0)

/-- The solution `v` of the equation in which the matrix maps `v` to the given vector. -/
def solve (e : Elimination K) (w : Vec3 K) : Vec3 K :=
  let w := (w.exchangeFirst e.first).exchangeLast e.isLastExchanged
  let y := w.y - w.x * e.yx
  let z := w.z - ((0 + e.zx * w.x) + e.zy * y)
  let vz := z * (1 / e.z)
  let vy := (y - (0 + e.y.2 * vz)) * (1 / e.y.1)
  let vx := ((w.x - (0 + e.x.z * vz)) - vy * e.x.y) * (1 / e.x.x)
  ⟨vx, vy, vz⟩

end Elimination

namespace Matrix3

variable {K : Type} [Scalar K]

/-- The determinant. -/
def det (m : Matrix3 K) : K :=
  (Elimination.ofMatrix m).determinant

/-- The inverse of a matrix without a zero pivot: its columns solve the equations for the
unit vectors. -/
def inverse (m : Matrix3 K) : Matrix3 K :=
  let e := Elimination.ofMatrix m
  ofColumns (e.solve (Vec3.unit .x)) (e.solve (Vec3.unit .y)) (e.solve (Vec3.unit .z))

/-- Whether the determinant is far enough from zero for the matrix to have an inverse. -/
def isInvertible (m : Matrix3 K) : Bool :=
  Scalar.lt Scalar.epsilon (Scalar.abs m.det)

end Matrix3

end ClippedCylinder
