import ClippedCylinder.Fault

/-!
# Computations that take notes

A `Traced` computation has an outcome, which is a value or a failure, and the notes that
were taken on the way; the notes of a failed computation are kept.  The outcome does not
depend on the notes.
-/

namespace ClippedCylinder

/-- What is worth noting while a descriptor is compiled. -/
inductive Note (K : Type) where
  /-- A bound on a coordinate was written as a half-space. -/
  | boundExpanded (coordinate comparator value clause : String)
  /-- A half-space was read. -/
  | planeRead (source : String) (anchor : Point K) (normal : Vec3 K)
  /-- A clause was not recognised. -/
  | clauseSkipped (text : String)
  /-- The missing vector of a frame was found. -/
  | frameCompleted (x y z : Vec3 K)
  /-- The placement follows an explicit frame. -/
  | explicitFrame
  /-- The placement follows an axis. -/
  | singleAxis (axis : Vec3 K)
  /-- A descriptor was compiled. -/
  | compiled (typeName : String) (origin : Point K) (extents : Vec3 K) (bounds : Nat)
deriving DecidableEq, Repr

/-- A computation with its notes. -/
structure Traced (K α : Type) where
  notes : List (Note K)
  outcome : Except (Fault K) α

namespace Traced

variable {K α β : Type}

/-- A value without notes. -/
protected def pure (a : α) : Traced K α :=
  ⟨[], .ok a⟩

/-- The second computation goes on with the value of the first and adds its notes. -/
protected def bind (x : Traced K α) (f : α → Traced K β) : Traced K β :=
  match x.outcome with
  | .error e => ⟨x.notes, .error e⟩
  | .ok a => ⟨x.notes ++ (f a).notes, (f a).outcome⟩

instance : Monad (Traced K) where
  pure := Traced.pure
  bind := Traced.bind

/-- An outcome without notes. -/
def lift (x : Except (Fault K) α) : Traced K α :=
  ⟨[], x⟩

instance : MonadLift (Except (Fault K)) (Traced K) := ⟨lift⟩

/-- The failure as a computation. -/
def fail (e : Fault K) : Traced K α :=
  ⟨[], .error e⟩

/-- Takes a note. -/
def note (n : Note K) : Traced K Unit :=
  ⟨[n], .ok ()⟩

/-! ### Outcomes -/

@[simp]
theorem outcome_pure (a : α) :
  (pure a : Traced K α).outcome = .ok a
  := rfl

@[simp]
theorem outcome_lift (x : Except (Fault K) α) :
  (lift x).outcome = x
  := rfl

@[simp]
theorem outcome_fail (e : Fault K) :
  (fail e : Traced K α).outcome = .error e
  := rfl

@[simp]
theorem outcome_note (n : Note K) :
  (note n).outcome = .ok ()
  := rfl

/-- The outcome of two computations in a row is that of the outcomes. -/
@[simp]
theorem outcome_bind (x : Traced K α) (f : α → Traced K β) :
  (x >>= f).outcome = x.outcome >>= fun a => (f a).outcome
  := by
  cases x with
  | mk notes outcome =>
  cases outcome
  · rfl
  · rfl

end Traced

end ClippedCylinder
