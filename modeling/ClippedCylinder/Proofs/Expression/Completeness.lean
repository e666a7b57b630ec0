import ClippedCylinder.Proofs.Expression.Grammar
import ClippedCylinder.Proofs.Expression.Take

/-!
# Completeness of the parsers

The parsers read the tokens of every derivation and build its tree, if the tokens after it do
not go on with it.  A sum and a product may be gone on with: their parsers then do what the
parsers of the following terms and factors do with the tree so far.
-/

namespace ClippedCylinder

open ClippedCylinder.Expr Token

/-- The parser of the category reads the tokens of the derivation and builds its tree. -/
def Derivation.IsRead : {c : Category} → Derivation c → Prop
  | .scalar, d => Expr.ofTokens? d.tokens = some d.tree
  | .vector, d => ∀ ts, takeTriple (d.tokens ++ ts) = some (d.tree, ts)
  | .plane, d => PlaneExpr.ofTokens? d.tokens = some d.tree
  | .sum, d => ∀ ts, StopAt 3 ts → takeSum (d.tokens ++ ts) = takeSumTail d.tree ts
  | .product, d => ∀ ts, StopAt 2 ts → takeProduct (d.tokens ++ ts) = takeProductTail d.tree ts
  | .unary, d => ∀ ts, StopAt 2 ts → takeUnary (d.tokens ++ ts) = some (d.tree, ts)
  | .power, d => ∀ ts, StopAt 2 ts → takePower (d.tokens ++ ts) = some (d.tree, ts)
  | .atom, d => ∀ ts, StopAt 1 ts → takeAtom (d.tokens ++ ts) = some (d.tree, ts)
  | .arguments, d => ∀ ts, takeArguments (d.tokens ++ .rightParen :: ts) = some (d.tree, ts)

/-! ### Where the tails stop -/

theorem Expr.takeSumTail_of_stopAt (e : Expr) {ts : List Token} (h : StopAt 4 ts) :
  takeSumTail e ts = some (e, ts)
  := by
  cases ts with
  | nil => apply takeSumTail_nil
  | cons t ts =>
    rw [takeSumTail_cons]
    cases t <;> simp_all [Token.rank, sumOperator?]

theorem Expr.takeProductTail_of_stopAt (e : Expr) {ts : List Token} (h : StopAt 3 ts) :
  takeProductTail e ts = some (e, ts)
  := by
  cases ts with
  | nil => apply takeProductTail_nil
  | cons t ts =>
    rw [takeProductTail_cons]
    cases t <;> simp_all [Token.rank, productOperator?]

namespace Derivation

/-- Where nothing goes on with a sum, its parser stops after it. -/
theorem IsRead.takeSum {s : Derivation .sum} (h : s.IsRead) {ts : List Token} (ht : StopAt 4 ts) :
  takeSum (s.tokens ++ ts) = some (s.tree, ts)
  := by
  rw [h ts (ht.mono (by decide)), takeSumTail_of_stopAt s.tree ht]

/-- Where nothing goes on with a product, its parser stops after it. -/
theorem IsRead.takeProduct {p : Derivation .product} (h : p.IsRead) {ts : List Token}
    (ht : StopAt 3 ts) :
  takeProduct (p.tokens ++ ts) = some (p.tree, ts)
  := by
  rw [h ts (ht.mono (by decide)), takeProductTail_of_stopAt p.tree ht]

/-- One more term of a sum. -/
theorem IsRead.takeSum_term {s : Derivation .sum} {p : Derivation .product} (hs : s.IsRead)
    (hp : p.IsRead) {t : Token} {op : Operator} (ht : t.sumOperator? = some op)
    (hrank : t.rank = 3) {ts : List Token} (hts : StopAt 3 ts) :
  Expr.takeSum (s.tokens ++ t :: (p.tokens ++ ts)) = takeSumTail (.binary op s.tree p.tree) ts
  := by
  have hstop : StopAt 3 (t :: (p.tokens ++ ts)) := by simp [hrank]
  rw [hs _ hstop, takeSumTail_cons, ht]
  simp only [hp.takeProduct hts, Option.bind_some]

/-- One more factor of a product. -/
theorem IsRead.takeProduct_factor {p : Derivation .product} {u : Derivation .unary}
    (hp : p.IsRead) (hu : u.IsRead) {t : Token} {op : Operator}
    (ht : t.productOperator? = some op) (hrank : t.rank = 2) {ts : List Token}
    (hts : StopAt 2 ts) :
  Expr.takeProduct (p.tokens ++ t :: (u.tokens ++ ts))
    = takeProductTail (.binary op p.tree u.tree) ts
  := by
  have hstop : StopAt 2 (t :: (u.tokens ++ ts)) := by simp [hrank]
  rw [hp _ hstop, takeProductTail_cons, ht]
  simp only [hu ts hts, Option.bind_some]

/-- The parsers are complete, by induction on the derivation. -/
theorem isRead {c : Category} (d : Derivation c) :
  d.IsRead
  := by
  induction d with
  | scalar s hs =>
    have h := hs.takeSum (stopAt_nil 4)
    rw [List.append_nil] at h
    change Expr.ofTokens? s.tokens = some s.tree
    rw [Expr.ofTokens?, h]
  | vector x y z hx hy hz =>
    intro ts
    have hcomma (us : List Token) : StopAt 4 (.comma :: us) := by simp [Token.rank]
    have hparen (us : List Token) : StopAt 4 (.rightParen :: us) := by simp [Token.rank]
    rw [tokens_vector_append]
    simp only [takeTriple, hx.takeSum (hcomma _), hy.takeSum (hcomma _), hz.takeSum (hparen _)]
    rfl
  | plane normal c value hnormal hvalue =>
    have h := hvalue.takeSum (stopAt_nil 4)
    rw [List.append_nil] at h
    change PlaneExpr.ofTokens? (.radial :: (normal.tokens ++ .comparator c :: value.tokens)) = _
    simp only [PlaneExpr.ofTokens?, Expr.ofTokens?, hnormal _, h]
    rfl
  | product p hp =>
    intro ts hts
    have h := hp.takeProduct hts
    change takeSum (p.tokens ++ ts) = takeSumTail p.tree ts
    rw [takeSum_eq, h, Option.bind_some]
  | add s p hs hp =>
    intro ts hts
    rw [tokens_add_append]
    apply hs.takeSum_term hp rfl rfl hts
  | sub s p hs hp =>
    intro ts hts
    rw [tokens_sub_append]
    apply hs.takeSum_term hp rfl rfl hts
  | unary u hu =>
    intro ts hts
    have h := hu ts hts
    change takeProduct (u.tokens ++ ts) = takeProductTail u.tree ts
    rw [takeProduct_eq, h, Option.bind_some]
  | mul p u hp hu =>
    intro ts hts
    rw [tokens_mul_append]
    apply hp.takeProduct_factor hu rfl rfl hts
  | div p u hp hu =>
    intro ts hts
    rw [tokens_div_append]
    apply hp.takeProduct_factor hu rfl rfl hts
  | power p hp =>
    intro ts hts
    obtain ⟨hminus, hplus⟩ := head_power_tokens p ts
    apply (takeUnary_of_ne hminus hplus).trans (hp ts hts)
  | neg u hu =>
    intro ts hts
    apply (takeUnary_minus (u.tokens ++ ts)).trans
    rw [hu ts hts]
    rfl
  | pos u hu =>
    intro ts hts
    apply (takeUnary_plus (u.tokens ++ ts)).trans (hu ts hts)
  | atom a ha =>
    intro ts hts
    have hread := ha ts (hts.mono (by decide))
    apply takePower_of_ne hread
    intro h
    have hrank := hts .caret h
    simp [Token.rank] at hrank
  | pow a u ha hu =>
    intro ts hts
    have hcaret : StopAt 1 (.caret :: (u.tokens ++ ts)) := by simp [Token.rank]
    rw [tokens_pow_append, takePower_eq, ha _ hcaret]
    simp only [Option.bind_some, hu ts hts]
    rfl
  | number n =>
    intro ts _
    apply takeAtom_numeral
  | call name as has =>
    intro ts _
    rw [tokens_call_append, takeAtom_call, has ts]
    rfl
  | symbol name =>
    intro ts hts
    apply takeAtom_symbol
    intro h
    have hrank := hts .leftParen h
    simp [Token.rank] at hrank
  | parens s hs =>
    intro ts _
    have hparen : StopAt 4 (.rightParen :: ts) := by simp [Token.rank]
    rw [tokens_parens_append, takeAtom_leftParen, hs.takeSum hparen]
    rfl
  | last s hs =>
    intro ts
    have hparen : StopAt 4 (.rightParen :: ts) := by simp [Token.rank]
    apply (takeArguments_of_takeSum (hs.takeSum hparen)).trans
    rw [takeArgumentsTail_rightParen]
    rfl
  | next s as hs has =>
    intro ts
    have hcomma : StopAt 4 (.comma :: (as.tokens ++ .rightParen :: ts)) := by simp [Token.rank]
    rw [tokens_next_append, takeArguments_of_takeSum (hs.takeSum hcomma), takeArgumentsTail_comma,
      has ts]
    rfl

end Derivation

end ClippedCylinder
