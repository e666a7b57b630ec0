import Mathlib.Tactic.Use
import ClippedCylinder.Proofs.Expression.Grammar
import ClippedCylinder.Proofs.Expression.Take

/-!
# Soundness of the parsers

Whatever a parser reads is derived from its category, and the tree that it builds is that of the
derivation.  The productions of the grammar become rules for what is read, and the parsers apply
these rules.
-/

namespace ClippedCylinder

/-- A derivation of the category with the given tree derives the tokens before the rest. -/
def Category.Reads (c : Category) (e : c.Tree) (ts rest : List Token) : Prop :=
  ∃ d : Derivation c, d.tokens ++ rest = ts ∧ d.tree = e

namespace Category.Reads

variable {e e' : Expr} {ts us rest : List Token}

theorem length_lt {c : Category} {e : c.Tree} (h : c.Reads e ts rest) :
  rest.length < ts.length
  := by
  obtain ⟨d, rfl, -⟩ := h
  apply d.length_lt

/-! ### Productions -/

theorem product (h : Reads .product e ts rest) :
  Reads .sum e ts rest
  := by
  obtain ⟨p, hp, he⟩ := h
  use .product p, hp, he

/-- One more term of a sum. -/
theorem term {t : Token} {op : Operator} (ht : t.sumOperator? = some op)
    (h : Reads .sum e ts (t :: us)) (h' : Reads .product e' us rest) :
  Reads .sum (.binary op e e') ts rest
  := by
  obtain ⟨s, rfl, rfl⟩ := h
  obtain ⟨p, rfl, rfl⟩ := h'
  cases t with
  | plus =>
    obtain rfl := Option.some.inj ht
    exact ⟨.add s p, Derivation.tokens_add_append _ _ _, rfl⟩
  | minus =>
    obtain rfl := Option.some.inj ht
    exact ⟨.sub s p, Derivation.tokens_sub_append _ _ _, rfl⟩
  | _ => cases ht

theorem unary (h : Reads .unary e ts rest) :
  Reads .product e ts rest
  := by
  obtain ⟨u, hu, he⟩ := h
  use .unary u, hu, he

/-- One more factor of a product. -/
theorem factor {t : Token} {op : Operator} (ht : t.productOperator? = some op)
    (h : Reads .product e ts (t :: us)) (h' : Reads .unary e' us rest) :
  Reads .product (.binary op e e') ts rest
  := by
  obtain ⟨p, rfl, rfl⟩ := h
  obtain ⟨u, rfl, rfl⟩ := h'
  cases t with
  | times =>
    obtain rfl := Option.some.inj ht
    exact ⟨.mul p u, Derivation.tokens_mul_append _ _ _, rfl⟩
  | slash =>
    obtain rfl := Option.some.inj ht
    exact ⟨.div p u, Derivation.tokens_div_append _ _ _, rfl⟩
  | _ => cases ht

theorem power (h : Reads .power e ts rest) :
  Reads .unary e ts rest
  := by
  obtain ⟨p, hp, he⟩ := h
  use .power p, hp, he

theorem neg (h : Reads .unary e ts rest) :
  Reads .unary (.neg e) (.minus :: ts) rest
  := by
  obtain ⟨u, rfl, rfl⟩ := h
  exact ⟨.neg u, rfl, rfl⟩

theorem pos (h : Reads .unary e ts rest) :
  Reads .unary e (.plus :: ts) rest
  := by
  obtain ⟨u, rfl, rfl⟩ := h
  exact ⟨.pos u, rfl, rfl⟩

theorem atom (h : Reads .atom e ts rest) :
  Reads .power e ts rest
  := by
  obtain ⟨a, ha, he⟩ := h
  use .atom a, ha, he

theorem pow (h : Reads .atom e ts (.caret :: us)) (h' : Reads .unary e' us rest) :
  Reads .power (.binary .pow e e') ts rest
  := by
  obtain ⟨a, rfl, rfl⟩ := h
  obtain ⟨u, rfl, rfl⟩ := h'
  exact ⟨.pow a u, Derivation.tokens_pow_append _ _ _, rfl⟩

theorem call {es : Expr × List Expr} (name : String)
    (h : Reads .arguments es ts (.rightParen :: rest)) :
  Reads .atom (.call name es.1 es.2) (.name name :: .leftParen :: ts) rest
  := by
  obtain ⟨as, rfl, rfl⟩ := h
  exact ⟨.call name as, Derivation.tokens_call_append _ _ _, rfl⟩

theorem parens (h : Reads .sum e ts (.rightParen :: rest)) :
  Reads .atom e (.leftParen :: ts) rest
  := by
  obtain ⟨s, rfl, rfl⟩ := h
  exact ⟨.parens s, Derivation.tokens_parens_append _ _, rfl⟩

theorem last (h : Reads .sum e ts rest) :
  Reads .arguments (e, []) ts rest
  := by
  obtain ⟨s, rfl, rfl⟩ := h
  exact ⟨.last s, rfl, rfl⟩

theorem next {es : Expr × List Expr} (h : Reads .sum e ts (.comma :: us))
    (h' : Reads .arguments es us rest) :
  Reads .arguments (e, es.1 :: es.2) ts rest
  := by
  obtain ⟨s, rfl, rfl⟩ := h
  obtain ⟨as, rfl, rfl⟩ := h'
  exact ⟨.next s as, Derivation.tokens_next_append _ _ _, rfl⟩

theorem scalar (h : Reads .sum e ts rest) :
  Reads .scalar e ts rest
  := by
  obtain ⟨s, hs, he⟩ := h
  use .scalar s, hs, he

theorem vector {x y z : Expr} {us' : List Token} (hx : Reads .sum x ts (.comma :: us))
    (hy : Reads .sum y us (.comma :: us')) (hz : Reads .sum z us' (.rightParen :: rest)) :
  Reads .vector ⟨x, y, z⟩ (.leftParen :: ts) rest
  := by
  obtain ⟨x, rfl, rfl⟩ := hx
  obtain ⟨y, rfl, rfl⟩ := hy
  obtain ⟨z, rfl, rfl⟩ := hz
  exact ⟨.vector x y z, Derivation.tokens_vector_append _ _ _ _, rfl⟩

theorem plane {normal : Vec3 Expr} (c : Comparator)
    (h : Reads .vector normal ts (.comparator c :: us)) (h' : Reads .sum e us rest) :
  Reads .plane ⟨normal, c, e⟩ (.radial :: ts) rest
  := by
  obtain ⟨normal, rfl, rfl⟩ := h
  obtain ⟨s, rfl, rfl⟩ := h'
  exact ⟨.plane normal c s, Derivation.tokens_plane_append _ _ _ _, rfl⟩

end Category.Reads

/-! ### Parsers -/

namespace Expr

/-- What holds of the operands so far and the tokens after them holds where the operands end, if
one more operand keeps it: the induction of the terms of sums and the factors of products. -/
theorem tail_induction {tail : Expr → List Token → Option (Expr × List Token)}
    {take : List Token → Option (Expr × List Token)} {operator? : Token → Option Operator}
    (P : Expr → List Token → Prop) {n : Nat}
    (hnil : ∀ e, tail e [] = some (e, []))
    (hcons : ∀ e t ts, tail e (t :: ts) =
      match operator? t with
      | none => some (e, t :: ts)
      | some op => (take ts).bind fun (e', ts) => tail (.binary op e e') ts)
    (hnext : ∀ {t op e e' ts rest}, ts.length < n → operator? t = some op → P e (t :: ts) →
      take ts = some (e', rest) → rest.length < ts.length ∧ P (.binary op e e') rest)
    {e e' : Expr} {ts rest : List Token} (hle : ts.length ≤ n) (he : P e ts)
    (h : tail e ts = some (e', rest)) :
  P e' rest
  := by
  induction hm : ts.length using Nat.strongRecOn generalizing e ts with
  | ind m ih =>
    cases ts with
    | nil =>
      rw [hnil] at h
      obtain ⟨rfl, rfl⟩ := h
      apply he
    | cons t ts =>
      rw [hcons] at h
      split at h
      · obtain ⟨rfl, rfl⟩ := h
        apply he
      · rename_i op hop
        rw [Option.bind_eq_some_iff] at h
        obtain ⟨⟨e₁, ts₁⟩, htake, ht⟩ := h
        obtain ⟨hlt, hbinary⟩ := hnext hle hop he htake
        rw [List.length_cons] at hle hm
        apply ih ts₁.length (by omega) (by omega) hbinary ht rfl

/-- The parsers of sums, products, signed powers and arguments read what is derived, from fewer
tokens than the bound. -/
structure IsSoundBelow (n : Nat) : Prop where
  sum {ts rest : List Token} {e : Expr} (hlt : ts.length < n)
    (h : takeSum ts = some (e, rest)) : Category.Reads .sum e ts rest
  product {ts rest : List Token} {e : Expr} (hlt : ts.length < n)
    (h : takeProduct ts = some (e, rest)) : Category.Reads .product e ts rest
  unary {ts rest : List Token} {e : Expr} (hlt : ts.length < n)
    (h : takeUnary ts = some (e, rest)) : Category.Reads .unary e ts rest
  arguments {ts rest : List Token} {es : Expr × List Expr} (hlt : ts.length < n)
    (h : takeArguments ts = some (es, rest)) :
    Category.Reads .arguments es ts (.rightParen :: rest)

namespace IsSoundBelow

variable {n : Nat} {ts us rest : List Token} {e e' : Expr}

theorem atom (ih : IsSoundBelow n) (hle : ts.length ≤ n) (h : takeAtom ts = some (e, rest)) :
  Category.Reads .atom e ts rest
  := by
  cases ts with
  | nil => simp [takeAtom, parseAtom] at h
  | cons t ts =>
    cases t with
    | numeral m =>
      rw [takeAtom_numeral] at h
      obtain ⟨rfl, rfl⟩ := h
      exact ⟨.number m, rfl, rfl⟩
    | name name =>
      by_cases hp : ts.head? = some .leftParen
      · obtain ⟨ts, rfl⟩ := List.head?_eq_some_iff.mp hp
        rw [takeAtom_call, Option.map_eq_some_iff] at h
        obtain ⟨⟨es, ts₁⟩, hs, ⟨⟩⟩ := h
        have hread := ih.arguments (Nat.lt_of_succ_lt hle) hs
        apply hread.call
      · rw [takeAtom_symbol name hp] at h
        obtain ⟨rfl, rfl⟩ := h
        exact ⟨.symbol name, rfl, rfl⟩
    | leftParen =>
      rw [takeAtom_leftParen, Option.bind_eq_some_iff] at h
      obtain ⟨⟨e₁, ts₁⟩, hs, ht⟩ := h
      dsimp only at ht
      split at ht
      · obtain ⟨rfl, rfl⟩ := ht
        apply (ih.sum hle hs).parens
      · cases ht
    | _ => simp [takeAtom, parseAtom] at h

theorem power (ih : IsSoundBelow n) (hle : ts.length ≤ n) (h : takePower ts = some (e, rest)) :
  Category.Reads .power e ts rest
  := by
  rw [takePower_eq, Option.bind_eq_some_iff] at h
  obtain ⟨⟨e₁, ts₁⟩, ha, ht⟩ := h
  have hread := ih.atom hle ha
  have hlt := Nat.lt_of_lt_of_le hread.length_lt hle
  dsimp only at ht
  split at ht
  · rw [Option.map_eq_some_iff] at ht
    obtain ⟨⟨e₂, ts₂⟩, hu, ⟨⟩⟩ := ht
    apply hread.pow (ih.unary (Nat.lt_of_succ_lt hlt) hu)
  · obtain ⟨rfl, rfl⟩ := ht
    apply hread.atom

/-- Signed powers are read from as many tokens as the bound, too. -/
theorem unary_of_le (ih : IsSoundBelow n) (hle : ts.length ≤ n)
    (h : takeUnary ts = some (e, rest)) :
  Category.Reads .unary e ts rest
  := by
  by_cases hm : ts.head? = some .minus
  · obtain ⟨ts, rfl⟩ := List.head?_eq_some_iff.mp hm
    rw [takeUnary_minus, Option.map_eq_some_iff] at h
    obtain ⟨⟨e₁, ts₁⟩, hu, ⟨⟩⟩ := h
    apply (ih.unary hle hu).neg
  by_cases hp : ts.head? = some .plus
  · obtain ⟨ts, rfl⟩ := List.head?_eq_some_iff.mp hp
    rw [takeUnary_plus] at h
    apply (ih.unary hle h).pos
  rw [takeUnary_of_ne hm hp] at h
  apply (ih.power hle h).power

/-- The factors that are read after a product go on with it. -/
theorem productTail (ih : IsSoundBelow n) (hp : Category.Reads .product e us ts)
    (hle : ts.length ≤ n) (h : takeProductTail e ts = some (e', rest)) :
  Category.Reads .product e' us rest
  := by
  refine tail_induction (fun e ts => Category.Reads .product e us ts) takeProductTail_nil
    takeProductTail_cons ?_ hle hp h
  intro t op e e₁ ts rest hlt hop hp hu
  have hread := ih.unary hlt hu
  exact ⟨hread.length_lt, hp.factor hop hread⟩

theorem product_of_le (ih : IsSoundBelow n) (hle : ts.length ≤ n)
    (h : takeProduct ts = some (e, rest)) :
  Category.Reads .product e ts rest
  := by
  rw [takeProduct_eq, Option.bind_eq_some_iff] at h
  obtain ⟨⟨e₁, ts₁⟩, hu, ht⟩ := h
  have hread := ih.unary_of_le hle hu
  have hlt := hread.length_lt
  apply ih.productTail hread.unary (by omega) ht

/-- The terms that are read after a sum go on with it. -/
theorem sumTail (ih : IsSoundBelow n) (hs : Category.Reads .sum e us ts) (hle : ts.length ≤ n)
    (h : takeSumTail e ts = some (e', rest)) :
  Category.Reads .sum e' us rest
  := by
  refine tail_induction (fun e ts => Category.Reads .sum e us ts) takeSumTail_nil
    takeSumTail_cons ?_ hle hs h
  intro t op e e₁ ts rest hlt hop hs hp
  have hread := ih.product hlt hp
  exact ⟨hread.length_lt, hs.term hop hread⟩

theorem sum_of_le (ih : IsSoundBelow n) (hle : ts.length ≤ n)
    (h : takeSum ts = some (e, rest)) :
  Category.Reads .sum e ts rest
  := by
  rw [takeSum_eq, Option.bind_eq_some_iff] at h
  obtain ⟨⟨e₁, ts₁⟩, hp, ht⟩ := h
  have hread := ih.product_of_le hle hp
  have hlt := hread.length_lt
  apply ih.sumTail hread.product (by omega) ht

theorem arguments_of_le {es : Expr × List Expr} (ih : IsSoundBelow n) (hle : ts.length ≤ n)
    (h : takeArguments ts = some (es, rest)) :
  Category.Reads .arguments es ts (.rightParen :: rest)
  := by
  rw [takeArguments, Option.bind_eq_some_iff] at h
  obtain ⟨⟨e, ts₁⟩, hs, ht⟩ := h
  rw [Option.map_eq_some_iff] at ht
  obtain ⟨⟨es, ts₂⟩, ht, ⟨⟩⟩ := ht
  have hread := ih.sum_of_le hle hs
  have hlt := Nat.lt_of_lt_of_le hread.length_lt hle
  cases ts₁ with
  | nil => simp [takeArgumentsTail, argumentsTail] at ht
  | cons t ts₁ =>
    cases t with
    | rightParen =>
      rw [takeArgumentsTail_rightParen] at ht
      obtain ⟨rfl, rfl⟩ := ht
      apply hread.last
    | comma =>
      rw [takeArgumentsTail_comma, Option.map_eq_some_iff] at ht
      obtain ⟨⟨es, ts₃⟩, hes, ⟨⟩⟩ := ht
      apply hread.next (ih.arguments (Nat.lt_of_succ_lt hlt) hes)
    | _ => simp [takeArgumentsTail, argumentsTail] at ht

end IsSoundBelow

/-- The parsers are sound, by induction on the number of the tokens: where the tokens do not get
fewer, the category comes further down in the grammar. -/
theorem isSoundBelow (n : Nat) :
  IsSoundBelow n
  := by
  induction n with
  | zero =>
    constructor
    all_goals
      intro ts rest _ hlt
      cases Nat.not_lt_zero _ hlt
  | succ n ih =>
    constructor
    · intro ts rest e hlt
      apply ih.sum_of_le (Nat.le_of_lt_succ hlt)
    · intro ts rest e hlt
      apply ih.product_of_le (Nat.le_of_lt_succ hlt)
    · intro ts rest e hlt
      apply ih.unary_of_le (Nat.le_of_lt_succ hlt)
    · intro ts rest es hlt
      apply ih.arguments_of_le (Nat.le_of_lt_succ hlt)

theorem sum_reads {ts rest : List Token} {e : Expr} (h : takeSum ts = some (e, rest)) :
  Category.Reads .sum e ts rest
  := by
  apply (isSoundBelow ts.length).sum_of_le (Nat.le_refl _) h

theorem triple_reads {ts rest : List Token} {v : Vec3 Expr}
    (h : takeTriple ts = some (v, rest)) :
  Category.Reads .vector v ts rest
  := by
  unfold takeTriple at h
  split at h
  · split at h
    · rename_i hx
      split at h
      · rename_i hy
        split at h
        · rename_i hz
          obtain ⟨rfl, rfl⟩ := h
          apply (sum_reads hx).vector (sum_reads hy) (sum_reads hz)
        · cases h
      · cases h
    · cases h
  · cases h

theorem ofTokens?_reads {ts : List Token} {e : Expr} (h : ofTokens? ts = some e) :
  Category.Reads .sum e ts []
  := by
  unfold ofTokens? at h
  split at h
  · rename_i hs
    obtain rfl := Option.some.inj h
    apply sum_reads hs
  · cases h

theorem tripleOfTokens?_reads {ts : List Token} {v : Vec3 Expr}
    (h : tripleOfTokens? ts = some v) :
  Category.Reads .vector v ts []
  := by
  unfold tripleOfTokens? at h
  split at h
  · rename_i hv
    obtain rfl := Option.some.inj h
    apply triple_reads hv
  · cases h

end Expr

theorem PlaneExpr.ofTokens?_reads {ts : List Token} {p : PlaneExpr}
    (h : PlaneExpr.ofTokens? ts = some p) :
  Category.Reads .plane p ts []
  := by
  unfold PlaneExpr.ofTokens? at h
  split at h
  · split at h
    · rename_i hv
      rw [Option.map_eq_some_iff] at h
      obtain ⟨e, he, rfl⟩ := h
      apply (Expr.triple_reads hv).plane _ (Expr.ofTokens?_reads he)
    · cases h
  · cases h

end ClippedCylinder
