import ClippedCylinder.Proofs.Expression.Completeness
import ClippedCylinder.Proofs.Expression.Soundness
import ClippedCylinder.Proofs.Expression.Unambiguity

/-!
# Parsing and the grammar

The parsers accept exactly the tokens that the grammar derives, all of them, and build the tree
of the only derivation (`parse_iff_derivation`).  How tight operators bind and to which side
they associate follows from the grammar.
-/

namespace ClippedCylinder

/-! ### Start rules -/

theorem Expr.ofTokens?_eq_some_iff {ts : List Token} {e : Expr} :
  ofTokens? ts = some e ↔ ∃ d : Derivation .scalar, d.tokens = ts ∧ d.tree = e
  := by
  constructor
  · intro h
    obtain ⟨d, hd, he⟩ := (ofTokens?_reads h).scalar
    rw [List.append_nil] at hd
    use d, hd, he
  · rintro ⟨d, rfl, rfl⟩
    apply d.isRead

theorem Expr.tripleOfTokens?_eq_some_iff {ts : List Token} {v : Vec3 Expr} :
  tripleOfTokens? ts = some v ↔ ∃ d : Derivation .vector, d.tokens = ts ∧ d.tree = v
  := by
  constructor
  · intro h
    obtain ⟨d, hd, hv⟩ := tripleOfTokens?_reads h
    rw [List.append_nil] at hd
    use d, hd, hv
  · rintro ⟨d, rfl, rfl⟩
    have h := d.isRead []
    rw [List.append_nil] at h
    rw [tripleOfTokens?, h]

theorem PlaneExpr.ofTokens?_eq_some_iff {ts : List Token} {p : PlaneExpr} :
  ofTokens? ts = some p ↔ ∃ d : Derivation .plane, d.tokens = ts ∧ d.tree = p
  := by
  constructor
  · intro h
    obtain ⟨d, hd, hp⟩ := ofTokens?_reads h
    rw [List.append_nil] at hd
    use d, hd, hp
  · rintro ⟨d, rfl, rfl⟩
    apply d.isRead

/-! ### Operators -/

/-- The operators of sums, which are also the signs. -/
inductive Sign where
  | plus
  | minus

/-- The operators of products. -/
inductive Scale where
  | times
  | slash

/-- The token of a sign. -/
def Sign.token : Sign → Token
  | plus => .plus
  | minus => .minus

/-- The operator of a sign between two terms. -/
def Sign.operator : Sign → Operator
  | plus => .add
  | minus => .sub

/-- The expression with a sign before it. -/
def Sign.apply : Sign → Expr → Expr
  | plus, e => e
  | minus, e => .neg e

/-- The token of an operator between two factors. -/
def Scale.token : Scale → Token
  | times => .times
  | slash => .slash

/-- The operator between two factors. -/
def Scale.operator : Scale → Operator
  | times => .mul
  | slash => .div

theorem Sign.sumOperator?_token (o : Sign) :
  o.token.sumOperator? = some o.operator
  := by
  cases o <;> rfl

theorem Scale.productOperator?_token (o : Scale) :
  o.token.productOperator? = some o.operator
  := by
  cases o <;> rfl

namespace Category.Reads

theorem ofTokens? {ts : List Token} {e : Expr} (h : Reads .sum e ts []) :
  Expr.ofTokens? ts = some e
  := by
  obtain ⟨d, hd, he⟩ := h.scalar
  rw [List.append_nil] at hd
  apply Expr.ofTokens?_eq_some_iff.mpr ⟨d, hd, he⟩

theorem self {c : Category} (d : Derivation c) (ts : List Token) :
  c.Reads d.tree (d.tokens ++ ts) ts
  := ⟨d, rfl, rfl⟩

theorem whole {c : Category} (d : Derivation c) :
  c.Reads d.tree d.tokens []
  := ⟨d, List.append_nil _, rfl⟩

/-- Signs before a signed power. -/
theorem signs {ts rest : List Token} {e : Expr} (h : Reads .unary e ts rest) (os : List Sign) :
  Reads .unary (os.foldr Sign.apply e) (os.map Sign.token ++ ts) rest
  := by
  induction os with
  | nil => apply h
  | cons o os ih =>
    cases o with
    | plus => apply ih.pos
    | minus => apply ih.neg

end Category.Reads

/-- Sums associate to the left. -/
theorem ofTokens?_sum (s : Derivation .sum) (p p' : Derivation .product) (o o' : Sign) :
  Expr.ofTokens? (s.tokens ++ o.token :: (p.tokens ++ o'.token :: p'.tokens))
    = some (.binary o'.operator (.binary o.operator s.tree p.tree) p'.tree)
  := by
  have h := Category.Reads.self s (o.token :: (p.tokens ++ o'.token :: p'.tokens))
  have h₁ := h.term o.sumOperator?_token (.self p _)
  have h₂ := h₁.term o'.sumOperator?_token (.whole p')
  apply h₂.ofTokens?

/-- Products associate to the left. -/
theorem ofTokens?_product (p : Derivation .product) (u u' : Derivation .unary) (o o' : Scale) :
  Expr.ofTokens? (p.tokens ++ o.token :: (u.tokens ++ o'.token :: u'.tokens))
    = some (.binary o'.operator (.binary o.operator p.tree u.tree) u'.tree)
  := by
  have h := Category.Reads.self p (o.token :: (u.tokens ++ o'.token :: u'.tokens))
  have h₁ := h.factor o.productOperator?_token (.self u _)
  have h₂ := h₁.factor o'.productOperator?_token (.whole u')
  apply h₂.product.ofTokens?

/-- Powers associate to the right. -/
theorem ofTokens?_pow (a a' : Derivation .atom) (u : Derivation .unary) :
  Expr.ofTokens? (a.tokens ++ .caret :: (a'.tokens ++ .caret :: u.tokens))
    = some (.binary .pow a.tree (.binary .pow a'.tree u.tree))
  := by
  have h := (Category.Reads.self a' (.caret :: u.tokens)).pow (.whole u)
  have h₁ := (Category.Reads.self a _).pow h.power
  apply h₁.power.unary.product.ofTokens?

/-- Signs before a power apply to the power, and signs after the caret to the exponent. -/
theorem ofTokens?_signs (os os' : List Sign) (a : Derivation .atom) (p : Derivation .power) :
  Expr.ofTokens? (os.map Sign.token ++ (a.tokens ++ .caret :: (os'.map Sign.token ++ p.tokens)))
    = some (os.foldr Sign.apply (.binary .pow a.tree (os'.foldr Sign.apply p.tree)))
  := by
  have h := (Category.Reads.whole p).power.signs os'
  have h₁ := ((Category.Reads.self a _).pow h).power.signs os
  apply h₁.unary.product.ofTokens?

/-- The parsers of scalars, vectors and planes accept exactly the tokens that the grammar
derives and build the trees of their derivations, which are unique.  So sums and products
associate to the left and powers to the right, and powers bind tighter than the signs before
them and take any number of signs after the caret. -/
theorem parse_iff_derivation :
  ((∀ ts e, Expr.ofTokens? ts = some e
        ↔ ∃ d : Derivation .scalar, d.tokens = ts ∧ d.tree = e) ∧
      (∀ ts v, Expr.tripleOfTokens? ts = some v
        ↔ ∃ d : Derivation .vector, d.tokens = ts ∧ d.tree = v) ∧
      (∀ ts p, PlaneExpr.ofTokens? ts = some p
        ↔ ∃ d : Derivation .plane, d.tokens = ts ∧ d.tree = p)) ∧
    (∀ c : Category, Function.Injective (Derivation.tokens : Derivation c → List Token)) ∧
    (∀ (s : Derivation .sum) (p p' : Derivation .product) (o o' : Sign),
      Expr.ofTokens? (s.tokens ++ o.token :: (p.tokens ++ o'.token :: p'.tokens))
        = some (.binary o'.operator (.binary o.operator s.tree p.tree) p'.tree)) ∧
    (∀ (p : Derivation .product) (u u' : Derivation .unary) (o o' : Scale),
      Expr.ofTokens? (p.tokens ++ o.token :: (u.tokens ++ o'.token :: u'.tokens))
        = some (.binary o'.operator (.binary o.operator p.tree u.tree) u'.tree)) ∧
    (∀ (a a' : Derivation .atom) (u : Derivation .unary),
      Expr.ofTokens? (a.tokens ++ .caret :: (a'.tokens ++ .caret :: u.tokens))
        = some (.binary .pow a.tree (.binary .pow a'.tree u.tree))) ∧
    (∀ (os os' : List Sign) (a : Derivation .atom) (p : Derivation .power),
      Expr.ofTokens? (os.map Sign.token ++
          (a.tokens ++ .caret :: (os'.map Sign.token ++ p.tokens)))
        = some (os.foldr Sign.apply (.binary .pow a.tree (os'.foldr Sign.apply p.tree))))
  := by
  refine ⟨⟨?_, ?_, ?_⟩, ?_, ?_, ?_, ?_, ?_⟩
  · intro ts e
    apply Expr.ofTokens?_eq_some_iff
  · intro ts v
    apply Expr.tripleOfTokens?_eq_some_iff
  · intro ts p
    apply PlaneExpr.ofTokens?_eq_some_iff
  · intro c
    apply Derivation.tokens_injective
  · apply ofTokens?_sum
  · apply ofTokens?_product
  · apply ofTokens?_pow
  · apply ofTokens?_signs

end ClippedCylinder
