import ClippedCylinder.Scalar.Basic

/-!
# Vectors and points

Vectors and points of space, by their three coordinates.  The operations here always
have a result; those that can fail are in `ClippedCylinder.Geometry.Length`.
-/

namespace ClippedCylinder

/-- A triple of things, one for each coordinate; over scalars, a vector. -/
@[ext]
structure Vec3 (α : Type) where
  x : α
  y : α
  z : α
deriving BEq, DecidableEq, Repr

/-- A point of space. -/
@[ext]
structure Point (K : Type) where
  x : K
  y : K
  z : K
deriving BEq, DecidableEq, Repr

/-- One of the three coordinates. -/
inductive Coordinate where
  | x
  | y
  | z
deriving DecidableEq, Repr

namespace Vec3

variable {α β : Type}

/-- The triple of the images. -/
def map (f : α → β) (v : Vec3 α) : Vec3 β :=
  ⟨f v.x, f v.y, f v.z⟩

/-- The three entries, in order. -/
def toList (v : Vec3 α) : List α :=
  [v.x, v.y, v.z]

/-- The entry of a coordinate. -/
def get (v : Vec3 α) : Coordinate → α
  | .x => v.x
  | .y => v.y
  | .z => v.z

/-- The triple with its first entry and that of the coordinate exchanged. -/
def exchangeFirst (v : Vec3 α) : Coordinate → Vec3 α
  | .x => v
  | .y => ⟨v.y, v.x, v.z⟩
  | .z => ⟨v.z, v.y, v.x⟩

/-- The triple with its last two entries exchanged, if that is asked for. -/
def exchangeLast (v : Vec3 α) (isExchanged : Bool) : Vec3 α :=
  if isExchanged then ⟨v.x, v.z, v.y⟩ else v

variable {K : Type} [Scalar K]

instance : Add (Vec3 K) := ⟨fun v w => ⟨v.x + w.x, v.y + w.y, v.z + w.z⟩⟩

instance : Sub (Vec3 K) := ⟨fun v w => ⟨v.x - w.x, v.y - w.y, v.z - w.z⟩⟩

instance : Neg (Vec3 K) := ⟨fun v => ⟨-v.x, -v.y, -v.z⟩⟩

instance : Zero (Vec3 K) := ⟨⟨0, 0, 0⟩⟩

/-- The multiple of a vector. -/
def scale (v : Vec3 K) (c : K) : Vec3 K :=
  ⟨v.x * c, v.y * c, v.z * c⟩

/-- The vector with every coordinate divided by the number. -/
def dividedBy (v : Vec3 K) (c : K) : Vec3 K :=
  ⟨v.x / c, v.y / c, v.z / c⟩

/-- The scalar product. -/
def dot (v w : Vec3 K) : K :=
  v.x * w.x + v.y * w.y + v.z * w.z

/-- The vector product. -/
def cross (v w : Vec3 K) : Vec3 K :=
  ⟨v.y * w.z - v.z * w.y, v.z * w.x - v.x * w.z, v.x * w.y - v.y * w.x⟩

/-- The Euclidean length. -/
def norm (v : Vec3 K) : K :=
  Scalar.sqrt (v.dot v)

/-- The unit vector of a coordinate. -/
def unit : Coordinate → Vec3 K
  | .x => ⟨1, 0, 0⟩
  | .y => ⟨0, 1, 0⟩
  | .z => ⟨0, 0, 1⟩

@[simp]
theorem add_def (v w : Vec3 K) :
  v + w = ⟨v.x + w.x, v.y + w.y, v.z + w.z⟩
  := rfl

@[simp]
theorem sub_def (v w : Vec3 K) :
  v - w = ⟨v.x - w.x, v.y - w.y, v.z - w.z⟩
  := rfl

@[simp]
theorem neg_def (v : Vec3 K) :
  -v = ⟨-v.x, -v.y, -v.z⟩
  := rfl

@[simp]
theorem zero_def :
  (0 : Vec3 K) = ⟨0, 0, 0⟩
  := rfl

end Vec3

namespace Point

variable {K : Type}

/-- The three coordinates, in order. -/
def toList (p : Point K) : List K :=
  [p.x, p.y, p.z]

/-- The point with one coordinate replaced. -/
def set (p : Point K) (c : Coordinate) (value : K) : Point K :=
  match c with
  | .x => { p with x := value }
  | .y => { p with y := value }
  | .z => { p with z := value }

/-- The vector from the origin of space to the point. -/
def toVec (p : Point K) : Vec3 K :=
  ⟨p.x, p.y, p.z⟩

/-- The point that a vector leads to from the origin of space. -/
def ofVec (v : Vec3 K) : Point K :=
  ⟨v.x, v.y, v.z⟩

variable [Scalar K]

/-- The origin of space. -/
def zero : Point K :=
  ⟨0, 0, 0⟩

/-- The point moved by a vector. -/
def move (p : Point K) (v : Vec3 K) : Point K :=
  ⟨p.x + v.x, p.y + v.y, p.z + v.z⟩

/-- The point moved by the opposite of a vector. -/
def moveBack (p : Point K) (v : Vec3 K) : Point K :=
  ⟨p.x - v.x, p.y - v.y, p.z - v.z⟩

/-- The vector from `q` to `p`. -/
def minus (p q : Point K) : Vec3 K :=
  ⟨p.x - q.x, p.y - q.y, p.z - q.z⟩

end Point

end ClippedCylinder
