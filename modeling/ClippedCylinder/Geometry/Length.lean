import ClippedCylinder.Scalar.Checked

/-!
# Lengths and directions

The operations on vectors and points that can fail: the length of a vector, whose squares
may be too large; the direction of a vector, which a vector of no length lacks; and the
reading of coordinates from lists.
-/

namespace ClippedCylinder

variable {K : Type}

namespace Vec3

/-- The vector with the coordinates of a list. -/
def ofList? : List K → Except (Fault K) (Vec3 K)
  | [x, y, z] => .ok ⟨x, y, z⟩
  | xs => .error (.geometry (.coordinateCount xs.length))

variable [Scalar K]

/-- The quotient of a vector and a number other than zero. -/
def divide (v : Vec3 K) (c : K) : Except (Fault K) (Vec3 K) :=
  if c == 0 then .error (.geometry .divisionByZero) else .ok (v.dividedBy c)

/-- The square of a coordinate. -/
def squareOf (x : K) : Except (Fault K) K :=
  (Scalar.square? x).mapError fun _ => .geometry .overflow

/-- The length of the vector. -/
def length (v : Vec3 K) : Except (Fault K) K := do
  let x ← squareOf v.x
  let y ← squareOf v.y
  let z ← squareOf v.z
  return Scalar.sqrt (x + y + z)

/-- Whether the vector is too short to have a direction. -/
def isZero (v : Vec3 K) : Except (Fault K) Bool :=
  return Scalar.le (← v.length) Scalar.epsilon

/-- The vector of length one with the same direction; the zero vector for a vector that
is too short to have one. -/
def normalize (v : Vec3 K) : Except (Fault K) (Vec3 K) := do
  let length ← v.length
  if Scalar.le length Scalar.epsilon then return 0 else v.divide length

end Vec3

/-! ### Points -/

/-- What stands on the right of a sum or a difference of a point. -/
inductive Operand (K : Type) where
  /-- A vector. -/
  | vector (v : Vec3 K)
  /-- A point. -/
  | point (p : Point K)
  /-- A number. -/
  | number (x : K)
deriving DecidableEq, Repr

/-- The coordinate with an index: 0, 1 and 2 from the front, -1, -2 and -3 from the
back. -/
def Coordinate.ofIndex? : Int → Option Coordinate
  | 0 => some .x
  | 1 => some .y
  | 2 => some .z
  | -1 => some .z
  | -2 => some .y
  | -3 => some .x
  | _ => none

namespace Point

/-- The point with the coordinates of a list. -/
def ofList? (xs : List K) : Except (Fault K) (Point K) :=
  return ofVec (← Vec3.ofList? xs)

/-- The point with the coordinate of an index replaced.  The index has to be a signed number
of 64 bits. -/
def setIndex (p : Point K) (index : Int) (value : K) : Except (Fault K) (Point K) :=
  match Coordinate.ofIndex? index with
  | some c => .ok (p.set c value)
  | none =>
    if -9223372036854775808 ≤ index ∧ index ≤ 9223372036854775807 then
      .error (.geometry .coordinateIndex)
    else .error (.geometry .indexSize)

variable [Scalar K]

/-- The point moved by an operand, which has to be a vector. -/
def add (p : Point K) : Operand K → Except (Fault K) (Point K)
  | .vector v => .ok (p.move v)
  | _ => .error (.geometry .notAddable)

/-- The difference of a point and an operand: a point for a vector, a vector for a
point. -/
def sub (p : Point K) : Operand K → Except (Fault K) (Point K ⊕ Vec3 K)
  | .vector v => .ok (.inl (p.moveBack v))
  | .point q => .ok (.inr (p.minus q))
  | .number _ => .error (.geometry .notSubtractable)

end Point

end ClippedCylinder
