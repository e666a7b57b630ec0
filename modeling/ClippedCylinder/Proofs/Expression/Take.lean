import ClippedCylinder.Expression.Parser

/-!
# Parsers without bounds

The parsers of sums, products and so on with the tokens that are left as a plain list, and the
equations that say how they call one another.
-/

namespace ClippedCylinder.Expr

/-- The terms that follow the first ones of a sum, with the tokens that are left. -/
def takeSumTail (e : Expr) (ts : List Token) : Option (Expr × List Token) :=
  (sumTail e ts).map fun (e, rest) => (e, rest.val)

/-- A product with the tokens that are left. -/
def takeProduct (ts : List Token) : Option (Expr × List Token) :=
  (parseProduct ts).map fun (e, rest) => (e, rest.val)

/-- The factors that follow the first ones of a product, with the tokens that are left. -/
def takeProductTail (e : Expr) (ts : List Token) : Option (Expr × List Token) :=
  (productTail e ts).map fun (e, rest) => (e, rest.val)

/-- A signed power with the tokens that are left. -/
def takeUnary (ts : List Token) : Option (Expr × List Token) :=
  (parseUnary ts).map fun (e, rest) => (e, rest.val)

/-- A power with the tokens that are left. -/
def takePower (ts : List Token) : Option (Expr × List Token) :=
  (parsePower ts).map fun (e, rest) => (e, rest.val)

/-- An atom with the tokens that are left. -/
def takeAtom (ts : List Token) : Option (Expr × List Token) :=
  (parseAtom ts).map fun (e, rest) => (e, rest.val)

/-- The arguments after the first one and the closing parenthesis, with the tokens that are
left. -/
def takeArgumentsTail (ts : List Token) : Option (List Expr × List Token) :=
  (argumentsTail ts).map fun (es, rest) => (es, rest.val)

/-! ### Sums -/

theorem takeSum_eq (ts : List Token) :
  takeSum ts = (takeProduct ts).bind fun (e, ts) => takeSumTail e ts
  := by
  rw [takeSum, parseSum, takeProduct]
  cases parseProduct ts with
  | none => rfl
  | some r =>
    obtain ⟨e, ts₁, h₁⟩ := r
    simp only [Option.map_some, Option.bind_some, takeSumTail]
    cases sumTail e ts₁ with
    | none => rfl
    | some r => rfl

theorem takeSumTail_nil (e : Expr) :
  takeSumTail e [] = some (e, [])
  := by
  rw [takeSumTail, sumTail]
  rfl

theorem takeSumTail_cons (e : Expr) (t : Token) (ts : List Token) :
  takeSumTail e (t :: ts) =
    match t.sumOperator? with
    | none => some (e, t :: ts)
    | some op => (takeProduct ts).bind fun (e', ts) => takeSumTail (.binary op e e') ts
  := by
  rw [takeSumTail, sumTail, takeProduct]
  cases t.sumOperator? with
  | none => rfl
  | some op =>
    cases parseProduct ts with
    | none => rfl
    | some r =>
      obtain ⟨e', ts₁, h₁⟩ := r
      simp only [Option.map_some, Option.bind_some, takeSumTail]
      cases sumTail (.binary op e e') ts₁ with
      | none => rfl
      | some r => rfl

/-! ### Products -/

theorem takeProduct_eq (ts : List Token) :
  takeProduct ts = (takeUnary ts).bind fun (e, ts) => takeProductTail e ts
  := by
  rw [takeProduct, parseProduct, takeUnary]
  cases parseUnary ts with
  | none => rfl
  | some r =>
    obtain ⟨e, ts₁, h₁⟩ := r
    simp only [Option.map_some, Option.bind_some, takeProductTail]
    cases productTail e ts₁ with
    | none => rfl
    | some r => rfl

theorem takeProductTail_nil (e : Expr) :
  takeProductTail e [] = some (e, [])
  := by
  rw [takeProductTail, productTail]
  rfl

theorem takeProductTail_cons (e : Expr) (t : Token) (ts : List Token) :
  takeProductTail e (t :: ts) =
    match t.productOperator? with
    | none => some (e, t :: ts)
    | some op => (takeUnary ts).bind fun (e', ts) => takeProductTail (.binary op e e') ts
  := by
  rw [takeProductTail, productTail, takeUnary]
  cases t.productOperator? with
  | none => rfl
  | some op =>
    cases parseUnary ts with
    | none => rfl
    | some r =>
      obtain ⟨e', ts₁, h₁⟩ := r
      simp only [Option.map_some, Option.bind_some, takeProductTail]
      cases productTail (.binary op e e') ts₁ with
      | none => rfl
      | some r => rfl

/-! ### Signs and powers -/

theorem takeUnary_minus (ts : List Token) :
  takeUnary (.minus :: ts) = (takeUnary ts).map fun (e, ts) => (.neg e, ts)
  := by
  rw [takeUnary, parseUnary, takeUnary]
  cases parseUnary ts with
  | none => rfl
  | some r => rfl

theorem takeUnary_plus (ts : List Token) :
  takeUnary (.plus :: ts) = takeUnary ts
  := by
  rw [takeUnary, parseUnary, takeUnary]
  cases parseUnary ts with
  | none => rfl
  | some r => rfl

/-- Without a sign, a signed power is a power. -/
theorem takeUnary_of_ne {ts : List Token} (hm : ts.head? ≠ some .minus)
    (hp : ts.head? ≠ some .plus) :
  takeUnary ts = takePower ts
  := by
  rw [takeUnary, parseUnary, takePower]
  · intro ts₁ h
    simp [h] at hm
  · intro ts₁ h
    simp [h] at hp

/-- After an atom, a caret goes on with the exponent. -/
theorem takePower_eq (ts : List Token) :
  takePower ts = (takeAtom ts).bind fun (e, ts) =>
    match ts with
    | .caret :: ts₁ => (takeUnary ts₁).map fun (e', ts₂) => (.binary .pow e e', ts₂)
    | _ => some (e, ts)
  := by
  rw [takePower, parsePower, takeAtom]
  cases parseAtom ts with
  | none => rfl
  | some r =>
    obtain ⟨e, _ | ⟨t, ts₁⟩, h₁⟩ := r
    · rfl
    · cases t with
      | caret =>
        simp only [Option.map_some, Option.bind_some, takeUnary]
        cases parseUnary ts₁ with
        | none => rfl
        | some r => rfl
      | _ => rfl

theorem takePower_of_ne {ts ts₁ : List Token} {e : Expr} (h : takeAtom ts = some (e, ts₁))
    (hc : ts₁.head? ≠ some .caret) :
  takePower ts = some (e, ts₁)
  := by
  rw [takePower_eq, h, Option.bind_some]
  cases ts₁ with
  | nil => rfl
  | cons t ts₁ => cases t <;> simp_all

/-! ### Atoms and arguments -/

theorem takeAtom_numeral (n : Numeral) (ts : List Token) :
  takeAtom (.numeral n :: ts) = some (.numeral n, ts)
  := by
  rw [takeAtom, parseAtom]
  rfl

/-- The first argument and those that follow it, with the closing parenthesis. -/
def takeArguments (ts : List Token) : Option ((Expr × List Expr) × List Token) :=
  (takeSum ts).bind fun (e, ts) => (takeArgumentsTail ts).map fun (es, ts) => ((e, es), ts)

theorem takeArguments_of_takeSum {ts ts₁ : List Token} {e : Expr} (h : takeSum ts = some (e, ts₁)) :
  takeArguments ts = (takeArgumentsTail ts₁).map fun (es, ts) => ((e, es), ts)
  := by
  rw [takeArguments, h, Option.bind_some]

theorem takeAtom_call (name : String) (ts : List Token) :
  takeAtom (.name name :: .leftParen :: ts)
    = (takeArguments ts).map fun (es, ts) => (.call name es.1 es.2, ts)
  := by
  rw [takeAtom, parseAtom, takeArguments, takeSum]
  cases parseSum ts with
  | none => rfl
  | some r =>
    obtain ⟨e, ts₁, h₁⟩ := r
    simp only [Option.map_some, Option.bind_some, takeArgumentsTail]
    cases argumentsTail ts₁ with
    | none => rfl
    | some r => rfl

/-- A name without a parenthesis after it is a constant. -/
theorem takeAtom_symbol (name : String) {ts : List Token} (h : ts.head? ≠ some .leftParen) :
  takeAtom (.name name :: ts) = some (.symbol name, ts)
  := by
  rw [takeAtom, parseAtom]
  · rfl
  · intro ts₁ h₁
    simp [h₁] at h

theorem takeAtom_leftParen (ts : List Token) :
  takeAtom (.leftParen :: ts) = (takeSum ts).bind fun (e, ts) =>
    match ts with
    | .rightParen :: ts => some (e, ts)
    | _ => none
  := by
  rw [takeAtom, parseAtom, takeSum]
  cases parseSum ts with
  | none => rfl
  | some r =>
    obtain ⟨e, _ | ⟨t, ts₁⟩, h₁⟩ := r
    · rfl
    · cases t with
      | _ => rfl

theorem takeArgumentsTail_rightParen (ts : List Token) :
  takeArgumentsTail (.rightParen :: ts) = some ([], ts)
  := by
  rw [takeArgumentsTail, argumentsTail]
  rfl

theorem takeArgumentsTail_comma (ts : List Token) :
  takeArgumentsTail (.comma :: ts)
    = (takeArguments ts).map fun (es, ts) => (es.1 :: es.2, ts)
  := by
  rw [takeArgumentsTail, argumentsTail, takeArguments, takeSum]
  cases parseSum ts with
  | none => rfl
  | some r =>
    obtain ⟨e, ts₁, h₁⟩ := r
    simp only [Option.map_some, Option.bind_some, takeArgumentsTail]
    cases argumentsTail ts₁ with
    | none => rfl
    | some r => rfl

end ClippedCylinder.Expr
