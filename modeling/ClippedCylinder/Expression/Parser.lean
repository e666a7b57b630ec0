import ClippedCylinder.Expression.Tree

/-!
# Parsing expressions

The parsers take tokens from the front and give a tree with the tokens that are left.
Sums and products associate to the left.  A power binds tighter than a sign before it, its
exponent may carry signs, and powers associate to the right.  Every parser consumes at
least one token, so parsing ends.
-/

namespace ClippedCylinder

/-- The tokens that are left after at least one of the given ones was consumed. -/
abbrev Token.After (ts : List Token) := { rest : List Token // rest.length < ts.length }

/-- The tokens that are left after some or none of the given ones were consumed. -/
abbrev Token.From (ts : List Token) := { rest : List Token // rest.length ≤ ts.length }

namespace Token

/-- The operator of a token between the terms of a sum. -/
def sumOperator? : Token → Option Operator
  | plus => some .add
  | minus => some .sub
  | _ => none

/-- The operator of a token between the factors of a product. -/
def productOperator? : Token → Option Operator
  | times => some .mul
  | slash => some .div
  | _ => none

end Token

namespace Expr

mutual

/-- A sum of products. -/
def parseSum (ts : List Token) : Option (Expr × Token.After ts) :=
  match parseProduct ts with
  | none => none
  | some (e, ⟨ts₁, h₁⟩) =>
    match sumTail e ts₁ with
    | none => none
    | some (e, ⟨ts₂, h₂⟩) => some (e, ⟨ts₂, by omega⟩)
termination_by (ts.length, 4)

/-- The terms that follow the first ones of a sum. -/
def sumTail (e : Expr) (ts : List Token) : Option (Expr × Token.From ts) :=
  match ts with
  | [] => some (e, ⟨[], Nat.le_refl _⟩)
  | t :: ts₁ =>
    match t.sumOperator? with
    | none => some (e, ⟨t :: ts₁, Nat.le_refl _⟩)
    | some op =>
      match parseProduct ts₁ with
      | none => none
      | some (e', ⟨ts₂, h₂⟩) =>
        match sumTail (.binary op e e') ts₂ with
        | none => none
        | some (e, ⟨ts₃, h₃⟩) => some (e, ⟨ts₃, by simp only [List.length_cons]; omega⟩)
termination_by (ts.length, 0)

/-- A product of signed powers. -/
def parseProduct (ts : List Token) : Option (Expr × Token.After ts) :=
  match parseUnary ts with
  | none => none
  | some (e, ⟨ts₁, h₁⟩) =>
    match productTail e ts₁ with
    | none => none
    | some (e, ⟨ts₂, h₂⟩) => some (e, ⟨ts₂, by omega⟩)
termination_by (ts.length, 3)

/-- The factors that follow the first ones of a product. -/
def productTail (e : Expr) (ts : List Token) : Option (Expr × Token.From ts) :=
  match ts with
  | [] => some (e, ⟨[], Nat.le_refl _⟩)
  | t :: ts₁ =>
    match t.productOperator? with
    | none => some (e, ⟨t :: ts₁, Nat.le_refl _⟩)
    | some op =>
      match parseUnary ts₁ with
      | none => none
      | some (e', ⟨ts₂, h₂⟩) =>
        match productTail (.binary op e e') ts₂ with
        | none => none
        | some (e, ⟨ts₃, h₃⟩) => some (e, ⟨ts₃, by simp only [List.length_cons]; omega⟩)
termination_by (ts.length, 0)

/-- A power with any number of signs before it. -/
def parseUnary (ts : List Token) : Option (Expr × Token.After ts) :=
  match ts with
  | .minus :: ts₁ =>
    match parseUnary ts₁ with
    | none => none
    | some (e, ⟨ts₂, h₂⟩) => some (.neg e, ⟨ts₂, by simp only [List.length_cons]; omega⟩)
  | .plus :: ts₁ =>
    match parseUnary ts₁ with
    | none => none
    | some (e, ⟨ts₂, h₂⟩) => some (e, ⟨ts₂, by simp only [List.length_cons]; omega⟩)
  | ts => parsePower ts
termination_by (ts.length, 2)

/-- An atom, or an atom raised to a signed power. -/
def parsePower (ts : List Token) : Option (Expr × Token.After ts) :=
  match parseAtom ts with
  | none => none
  | some (e, ⟨.caret :: ts₁, h₁⟩) =>
    have : ts₁.length < ts.length := by
      simp only [List.length_cons] at h₁
      omega
    match parseUnary ts₁ with
    | none => none
    | some (e', ⟨ts₂, h₂⟩) => some (.binary .pow e e', ⟨ts₂, by omega⟩)
  | some (e, rest) => some (e, rest)
termination_by (ts.length, 1)

/-- A numeral, a constant, a function with its arguments, or a sum in parentheses. -/
def parseAtom (ts : List Token) : Option (Expr × Token.After ts) :=
  match ts with
  | .numeral n :: ts₁ => some (.numeral n, ⟨ts₁, by simp⟩)
  | .name f :: .leftParen :: ts₁ =>
    match parseSum ts₁ with
    | none => none
    | some (e, ⟨ts₂, h₂⟩) =>
      match argumentsTail ts₂ with
      | none => none
      | some (es, ⟨ts₃, h₃⟩) =>
        some (.call f e es, ⟨ts₃, by simp only [List.length_cons]; omega⟩)
  | .name s :: ts₁ => some (.symbol s, ⟨ts₁, by simp⟩)
  | .leftParen :: ts₁ =>
    match parseSum ts₁ with
    | some (e, ⟨.rightParen :: ts₂, h₂⟩) =>
      some (e, ⟨ts₂, by simp only [List.length_cons] at h₂ ⊢; omega⟩)
    | _ => none
  | _ => none
termination_by (ts.length, 0)

/-- The arguments after the first one, and the closing parenthesis. -/
def argumentsTail (ts : List Token) : Option (List Expr × Token.After ts) :=
  match ts with
  | .rightParen :: ts₁ => some ([], ⟨ts₁, by simp⟩)
  | .comma :: ts₁ =>
    match parseSum ts₁ with
    | none => none
    | some (e, ⟨ts₂, h₂⟩) =>
      match argumentsTail ts₂ with
      | none => none
      | some (es, ⟨ts₃, h₃⟩) => some (e :: es, ⟨ts₃, by simp only [List.length_cons]; omega⟩)
  | _ => none
termination_by (ts.length, 0)

end

/-! ### Whole expressions -/

/-- A sum with the tokens that are left. -/
def takeSum (ts : List Token) : Option (Expr × List Token) :=
  (parseSum ts).map fun (e, rest) => (e, rest.val)

/-- Three sums in parentheses, with the tokens that are left. -/
def takeTriple (ts : List Token) : Option (Vec3 Expr × List Token) :=
  match ts with
  | .leftParen :: ts =>
    match takeSum ts with
    | some (x, .comma :: ts) =>
      match takeSum ts with
      | some (y, .comma :: ts) =>
        match takeSum ts with
        | some (z, .rightParen :: ts) => some (⟨x, y, z⟩, ts)
        | _ => none
      | _ => none
    | _ => none
  | _ => none

/-- The tokens as a scalar: a sum. -/
def ofTokens? (ts : List Token) : Option Expr :=
  match takeSum ts with
  | some (e, []) => some e
  | _ => none

/-- The tokens as a vector: three sums in parentheses. -/
def tripleOfTokens? (ts : List Token) : Option (Vec3 Expr) :=
  match takeTriple ts with
  | some (v, []) => some v
  | _ => none

end Expr

/-- The tokens as a plane: the keyword, a vector, a comparator and a sum. -/
def PlaneExpr.ofTokens? (ts : List Token) : Option PlaneExpr :=
  match ts with
  | .radial :: ts =>
    match Expr.takeTriple ts with
    | some (normal, .comparator c :: ts) => (Expr.ofTokens? ts).map fun value => ⟨normal, c, value⟩
    | _ => none
  | _ => none

end ClippedCylinder
