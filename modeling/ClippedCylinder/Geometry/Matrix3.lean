import ClippedCylinder.Geometry.Vec3

/-!
# Matrices

Matrices with three rows and three columns.  The row `x` of a matrix gives the first
coordinate of an image, so `m.x.y` is the entry in the first row and the second column.
-/

namespace ClippedCylinder

/-- A matrix, by its rows. -/
@[ext]
structure Matrix3 (K : Type) where
  x : Vec3 K
  y : Vec3 K
  z : Vec3 K
deriving BEq, DecidableEq, Repr

namespace Matrix3

variable {K : Type}

/-- The rows, in order. -/
def rows (m : Matrix3 K) : List (Vec3 K) :=
  [m.x, m.y, m.z]

/-- The matrix with the given columns. -/
def ofColumns (a b c : Vec3 K) : Matrix3 K :=
  ⟨⟨a.x, b.x, c.x⟩, ⟨a.y, b.y, c.y⟩, ⟨a.z, b.z, c.z⟩⟩

/-- The matrix with rows and columns exchanged. -/
def transpose (m : Matrix3 K) : Matrix3 K :=
  ofColumns m.x m.y m.z

/-- The third column: the image of the third unit vector. -/
def columnZ (m : Matrix3 K) : Vec3 K :=
  ⟨m.x.z, m.y.z, m.z.z⟩

variable [Scalar K]

/-- The matrix with the given entries on the diagonal and zeros elsewhere. -/
def diagonal (v : Vec3 K) : Matrix3 K :=
  ⟨⟨v.x, 0, 0⟩, ⟨0, v.y, 0⟩, ⟨0, 0, v.z⟩⟩

/-- The unit matrix. -/
def identity : Matrix3 K :=
  diagonal ⟨1, 1, 1⟩

instance : Add (Matrix3 K) := ⟨fun m n => ⟨m.x + n.x, m.y + n.y, m.z + n.z⟩⟩

instance : Neg (Matrix3 K) := ⟨fun m => ⟨-m.x, -m.y, -m.z⟩⟩

/-- The multiple of a matrix. -/
def scale (c : K) (m : Matrix3 K) : Matrix3 K :=
  ⟨m.x.scale c, m.y.scale c, m.z.scale c⟩

/-- The image of a vector.  Its sums of products start from zero, so that no coordinate of
an image is a negative zero. -/
def apply (m : Matrix3 K) (v : Vec3 K) : Vec3 K :=
  ⟨0 + m.x.dot v, 0 + m.y.dot v, 0 + m.z.dot v⟩

/-- The product of a row and a matrix: the combination of the rows of the matrix that the
row gives. -/
def applyRow (m : Matrix3 K) (v : Vec3 K) : Vec3 K :=
  m.x.scale v.x + m.y.scale v.y + m.z.scale v.z

/-- The product of two matrices. -/
def mul (m n : Matrix3 K) : Matrix3 K :=
  let t := n.transpose
  ⟨⟨m.x.dot t.x, m.x.dot t.y, m.x.dot t.z⟩, ⟨m.y.dot t.x, m.y.dot t.y, m.y.dot t.z⟩,
    ⟨m.z.dot t.x, m.z.dot t.y, m.z.dot t.z⟩⟩

@[simp]
theorem add_def (m n : Matrix3 K) :
  m + n = ⟨m.x + n.x, m.y + n.y, m.z + n.z⟩
  := rfl

@[simp]
theorem neg_def (m : Matrix3 K) :
  -m = ⟨-m.x, -m.y, -m.z⟩
  := rfl

end Matrix3

end ClippedCylinder
