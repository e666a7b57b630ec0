import ClippedCylinder.Expression.Tree

/-!
# The grammar of expressions

The derivations of the grammar, with one constructor for each production.  A derivation has the
tokens that it derives and the tree that it stands for, in which its parentheses and unary
pluses are gone.
-/

namespace ClippedCylinder

/-- The categories of the grammar.  Scalars, vectors and planes are what a text can be. -/
inductive Category where
  | scalar
  | vector
  | plane
  | sum
  | product
  | unary
  | power
  | atom
  | arguments
deriving DecidableEq, Repr

/-- The trees that the derivations of a category stand for.  Arguments are one or more. -/
abbrev Category.Tree : Category → Type
  | .scalar | .sum | .product | .unary | .power | .atom => Expr
  | .vector => Vec3 Expr
  | .plane => PlaneExpr
  | .arguments => Expr × List Expr

/-- The derivations of the grammar:

* `scalar: sum`
* `vector: "(" sum "," sum "," sum ")"`
* `plane: "r" vector COMPARATOR sum`
* `sum: product | sum "+" product | sum "-" product`
* `product: unary | product "*" unary | product "/" unary`
* `unary: power | "-" unary | "+" unary`
* `power: atom | atom "^" unary`
* `atom: NUMBER | NAME "(" arguments ")" | NAME | "(" sum ")"`
* `arguments: sum ("," sum)*`, as `sum | sum "," arguments` -/
inductive Derivation : Category → Type where
  | scalar (s : Derivation .sum) : Derivation .scalar
  | vector (x y z : Derivation .sum) : Derivation .vector
  | plane (normal : Derivation .vector) (c : Comparator) (value : Derivation .sum) :
      Derivation .plane
  | product (p : Derivation .product) : Derivation .sum
  | add (s : Derivation .sum) (p : Derivation .product) : Derivation .sum
  | sub (s : Derivation .sum) (p : Derivation .product) : Derivation .sum
  | unary (u : Derivation .unary) : Derivation .product
  | mul (p : Derivation .product) (u : Derivation .unary) : Derivation .product
  | div (p : Derivation .product) (u : Derivation .unary) : Derivation .product
  | power (p : Derivation .power) : Derivation .unary
  | neg (u : Derivation .unary) : Derivation .unary
  | pos (u : Derivation .unary) : Derivation .unary
  | atom (a : Derivation .atom) : Derivation .power
  | pow (a : Derivation .atom) (u : Derivation .unary) : Derivation .power
  | number (n : Numeral) : Derivation .atom
  | call (name : String) (as : Derivation .arguments) : Derivation .atom
  | symbol (name : String) : Derivation .atom
  | parens (s : Derivation .sum) : Derivation .atom
  | last (s : Derivation .sum) : Derivation .arguments
  | next (s : Derivation .sum) (as : Derivation .arguments) : Derivation .arguments

namespace Derivation

/-- The tokens that a derivation derives. -/
def tokens : {c : Category} → Derivation c → List Token
  | _, scalar s => s.tokens
  | _, vector x y z =>
    .leftParen :: (x.tokens ++ .comma :: (y.tokens ++ .comma :: (z.tokens ++ [.rightParen])))
  | _, plane normal c value => .radial :: (normal.tokens ++ .comparator c :: value.tokens)
  | _, product p => p.tokens
  | _, add s p => s.tokens ++ .plus :: p.tokens
  | _, sub s p => s.tokens ++ .minus :: p.tokens
  | _, unary u => u.tokens
  | _, mul p u => p.tokens ++ .times :: u.tokens
  | _, div p u => p.tokens ++ .slash :: u.tokens
  | _, power p => p.tokens
  | _, neg u => .minus :: u.tokens
  | _, pos u => .plus :: u.tokens
  | _, atom a => a.tokens
  | _, pow a u => a.tokens ++ .caret :: u.tokens
  | _, number n => [.numeral n]
  | _, call name as => .name name :: .leftParen :: (as.tokens ++ [.rightParen])
  | _, symbol name => [.name name]
  | _, parens s => .leftParen :: (s.tokens ++ [.rightParen])
  | _, last s => s.tokens
  | _, next s as => s.tokens ++ .comma :: as.tokens

/-- The tree that a derivation stands for, without parentheses and unary pluses. -/
def tree : {c : Category} → Derivation c → c.Tree
  | _, scalar s => s.tree
  | _, vector x y z => ⟨x.tree, y.tree, z.tree⟩
  | _, plane normal c value => ⟨normal.tree, c, value.tree⟩
  | _, product p => p.tree
  | _, add s p => .binary .add s.tree p.tree
  | _, sub s p => .binary .sub s.tree p.tree
  | _, unary u => u.tree
  | _, mul p u => .binary .mul p.tree u.tree
  | _, div p u => .binary .div p.tree u.tree
  | _, power p => p.tree
  | _, neg u => .neg u.tree
  | _, pos u => u.tree
  | _, atom a => a.tree
  | _, pow a u => .binary .pow a.tree u.tree
  | _, number n => .numeral n
  | _, call name as => .call name as.tree.1 as.tree.2
  | _, symbol name => .symbol name
  | _, parens s => s.tree
  | _, last s => (s.tree, [])
  | _, next s as => (s.tree, as.tree.1 :: as.tree.2)

/-! ### Tokens followed by others -/

section

variable (ts : List Token)

theorem tokens_vector_append (x y z : Derivation .sum) :
  (vector x y z).tokens ++ ts
    = .leftParen :: (x.tokens ++ .comma :: (y.tokens ++ .comma :: (z.tokens ++ .rightParen :: ts)))
  := by
  change Token.leftParen :: (x.tokens ++ .comma :: (y.tokens ++ .comma :: (z.tokens ++ [.rightParen])))
    ++ ts = _
  simp only [List.cons_append, List.append_assoc, List.nil_append]

theorem tokens_plane_append (normal : Derivation .vector) (c : Comparator)
    (value : Derivation .sum) :
  (plane normal c value).tokens ++ ts
    = .radial :: (normal.tokens ++ .comparator c :: (value.tokens ++ ts))
  := congrArg (Token.radial :: ·) (List.append_assoc _ _ _)

theorem tokens_add_append (s : Derivation .sum) (p : Derivation .product) :
  (add s p).tokens ++ ts = s.tokens ++ .plus :: (p.tokens ++ ts)
  := List.append_assoc _ _ _

theorem tokens_sub_append (s : Derivation .sum) (p : Derivation .product) :
  (sub s p).tokens ++ ts = s.tokens ++ .minus :: (p.tokens ++ ts)
  := List.append_assoc _ _ _

theorem tokens_mul_append (p : Derivation .product) (u : Derivation .unary) :
  (mul p u).tokens ++ ts = p.tokens ++ .times :: (u.tokens ++ ts)
  := List.append_assoc _ _ _

theorem tokens_div_append (p : Derivation .product) (u : Derivation .unary) :
  (div p u).tokens ++ ts = p.tokens ++ .slash :: (u.tokens ++ ts)
  := List.append_assoc _ _ _

theorem tokens_pow_append (a : Derivation .atom) (u : Derivation .unary) :
  (pow a u).tokens ++ ts = a.tokens ++ .caret :: (u.tokens ++ ts)
  := List.append_assoc _ _ _

theorem tokens_call_append (name : String) (as : Derivation .arguments) :
  (call name as).tokens ++ ts = .name name :: .leftParen :: (as.tokens ++ .rightParen :: ts)
  := congrArg (Token.name name :: Token.leftParen :: ·) (List.append_assoc _ _ _)

theorem tokens_parens_append (s : Derivation .sum) :
  (parens s).tokens ++ ts = .leftParen :: (s.tokens ++ .rightParen :: ts)
  := congrArg (Token.leftParen :: ·) (List.append_assoc _ _ _)

theorem tokens_next_append (s : Derivation .sum) (as : Derivation .arguments) :
  (next s as).tokens ++ ts = s.tokens ++ .comma :: (as.tokens ++ ts)
  := List.append_assoc _ _ _

end

/-- Nothing is derived without a token. -/
theorem tokens_ne_nil {c : Category} (d : Derivation c) :
  d.tokens ≠ []
  := by
  induction d <;> simp [tokens, *]

theorem length_lt {c : Category} (d : Derivation c) (ts : List Token) :
  ts.length < (d.tokens ++ ts).length
  := by
  have h := List.length_pos_iff.mpr d.tokens_ne_nil
  rw [List.length_append]
  omega

/-- The tokens of a power do not start with a sign. -/
theorem head_power_tokens (p : Derivation .power) (ts : List Token) :
  (p.tokens ++ ts).head? ≠ some .minus ∧ (p.tokens ++ ts).head? ≠ some .plus
  := by
  have head_atom_tokens (a : Derivation .atom) (ts : List Token) :
      (a.tokens ++ ts).head? ≠ some .minus ∧ (a.tokens ++ ts).head? ≠ some .plus := by
    cases a with
    | _ => exact ⟨nofun, nofun⟩
  cases p with
  | atom a => apply head_atom_tokens
  | pow a u =>
    rw [tokens_pow_append]
    apply head_atom_tokens

end Derivation

/-! ### Continuations -/

/-- How far out a token goes on with what stands before it: a parenthesis with a name, an
operator with its left side, a comma with the arguments before it, and other tokens with
nothing. -/
def Token.rank : Token → Nat
  | leftParen => 0
  | caret => 1
  | times | slash => 2
  | plus | minus => 3
  | comma => 4
  | _ => 5

/-- The tokens do not go on with anything below a rank. -/
def Token.StopAt (n : Nat) (ts : List Token) : Prop :=
  ∀ t ∈ ts.head?, n ≤ t.rank

namespace Token

@[simp]
theorem stopAt_nil (n : Nat) :
  StopAt n []
  := by
  simp [StopAt]

@[simp]
theorem stopAt_cons (n : Nat) (t : Token) (ts : List Token) :
  StopAt n (t :: ts) ↔ n ≤ t.rank
  := by
  simp [StopAt]

theorem StopAt.mono {m n : Nat} {ts : List Token} (h : StopAt n ts) (hmn : m ≤ n) :
  StopAt m ts
  := by
  intro t ht
  apply Nat.le_trans hmn (h t ht)

end Token

end ClippedCylinder
