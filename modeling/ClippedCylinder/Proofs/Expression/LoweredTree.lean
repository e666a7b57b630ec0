import Mathlib
import ClippedCylinder.Proofs.Expression.Evaluation
import ClippedCylinder.Proofs.Expression.Lowering
import ClippedCylinder.Proofs.Expression.Parsing

/-!
# Trees in lower case

Parsing and evaluating tokens is natural in the case of letters.  The grammar derives tokens in
lower case exactly if it derives the tokens themselves, and the tree is in lower case too
(`parse_map_lowered`).  The value of a tree in lower case is the value of the tree, and its failure
quotes names in lower case (`Expr.eval_lowered`): the tables of names are looked up in lower case,
and the letter of an exponent is no part of the value of a numeral.
-/

namespace ClippedCylinder

open Text

/-! ### Trees -/

mutual

/-- The expression with its names and numerals in lower case. -/
def Expr.lowered : Expr → Expr
  | numeral n => numeral n.lowered
  | symbol name => symbol name.toLower
  | call name first rest => call name.toLower first.lowered (Expr.loweredAll rest)
  | neg e => neg e.lowered
  | binary op left right => binary op left.lowered right.lowered

/-- The expressions with their names and numerals in lower case. -/
def Expr.loweredAll : List Expr → List Expr
  | [] => []
  | e :: es => e.lowered :: loweredAll es

end

/-- The bound with its names and numerals in lower case. -/
def PlaneExpr.lowered (p : PlaneExpr) : PlaneExpr :=
  ⟨p.normal.map Expr.lowered, p.comparator, p.value.lowered⟩

/-- The tree of a category with its names and numerals in lower case. -/
def Category.lowered : (c : Category) → c.Tree → c.Tree
  | .scalar, e | .sum, e | .product, e | .unary, e | .power, e | .atom, e => Expr.lowered e
  | .vector, v => v.map Expr.lowered
  | .plane, p => p.lowered
  | .arguments, (e, es) => (e.lowered, Expr.loweredAll es)

namespace Derivation

/-- The derivation of the tokens in lower case. -/
def lowered : {c : Category} → Derivation c → Derivation c
  | _, scalar s => scalar s.lowered
  | _, vector x y z => vector x.lowered y.lowered z.lowered
  | _, plane normal c value => plane normal.lowered c value.lowered
  | _, product p => product p.lowered
  | _, add s p => add s.lowered p.lowered
  | _, sub s p => sub s.lowered p.lowered
  | _, unary u => unary u.lowered
  | _, mul p u => mul p.lowered u.lowered
  | _, div p u => div p.lowered u.lowered
  | _, power p => power p.lowered
  | _, neg u => neg u.lowered
  | _, pos u => pos u.lowered
  | _, atom a => atom a.lowered
  | _, pow a u => pow a.lowered u.lowered
  | _, number n => number n.lowered
  | _, call name as => call name.toLower as.lowered
  | _, symbol name => symbol name.toLower
  | _, parens s => parens s.lowered
  | _, last s => last s.lowered
  | _, next s as => next s.lowered as.lowered

theorem tokens_lowered {c : Category} (d : Derivation c) :
  d.lowered.tokens = d.tokens.map Token.lowered
  := by
  induction d <;> simp [lowered, tokens, Token.lowered, *]

theorem tree_lowered {c : Category} (d : Derivation c) :
  d.lowered.tree = c.lowered d.tree
  := by
  induction d <;>
    simp [lowered, tree, Category.lowered, Expr.lowered, Expr.loweredAll, PlaneExpr.lowered,
      Vec3.map, *]

end Derivation

/-! ### Parsing -/

namespace Token

/-- Tokens other than numerals and names have no letters that could be in another case. -/
def isFixed : Token → Bool
  | numeral _ | name _ => false
  | _ => true

theorem lowered_eq_iff {t u : Token} (hu : u.isFixed = true) :
  t.lowered = u ↔ t = u
  := by
  cases u with
  | numeral => cases hu
  | name => cases hu
  | _ => cases t <;> simp [lowered]

theorem exists_eq_numeral {t : Token} {n : Numeral} (h : t.lowered = numeral n) :
  ∃ m, t = numeral m
  := by
  cases t with
  | numeral m => exact ⟨m, rfl⟩
  | _ => cases h

theorem exists_eq_name {t : Token} {text : String} (h : t.lowered = name text) :
  ∃ text', t = name text'
  := by
  cases t with
  | name text' => exact ⟨text', rfl⟩
  | _ => cases h

theorem exists_eq_cons {ts vs : List Token} {u : Token} (hu : u.isFixed = true)
    (h : ts.map lowered = u :: vs) :
  ∃ vs', ts = u :: vs' ∧ vs'.map lowered = vs
  := by
  obtain ⟨u', vs', rfl, hu', hvs⟩ := List.map_eq_cons_iff.mp h
  rw [lowered_eq_iff hu] at hu'
  exact ⟨vs', by rw [hu'], hvs⟩

/-- A fixed token among tokens in lower case stands among the tokens themselves. -/
theorem exists_eq_append_cons {ts us vs : List Token} {u : Token} (hu : u.isFixed = true)
    (h : ts.map lowered = us ++ u :: vs) :
  ∃ us' vs', ts = us' ++ u :: vs' ∧ us'.map lowered = us ∧ vs'.map lowered = vs
  := by
  obtain ⟨us', rest, rfl, hus, hrest⟩ := List.map_eq_append_iff.mp h
  obtain ⟨vs', rfl, hvs⟩ := exists_eq_cons hu hrest
  exact ⟨us', vs', rfl, hus, hvs⟩

theorem exists_eq_append_singleton {ts us : List Token} {u : Token} (hu : u.isFixed = true)
    (h : ts.map lowered = us ++ [u]) :
  ∃ us', ts = us' ++ [u] ∧ us'.map lowered = us
  := by
  obtain ⟨us', vs', rfl, hus, hvs⟩ := exists_eq_append_cons hu h
  obtain rfl := List.map_eq_nil_iff.mp hvs
  exact ⟨us', rfl, hus⟩

end Token

namespace Derivation

open Token

/-- Two derivations with a fixed token between their tokens. -/
theorem exists_tokens_append_cons {c c' : Category} {ts us vs : List Token} {u : Token}
    (hu : u.isFixed = true)
    (hus : ∀ {ts}, ts.map Token.lowered = us → ∃ d : Derivation c, d.tokens = ts)
    (hvs : ∀ {ts}, ts.map Token.lowered = vs → ∃ d : Derivation c', d.tokens = ts)
    (h : ts.map Token.lowered = us ++ u :: vs) :
  ∃ (d : Derivation c) (d' : Derivation c'), d.tokens ++ u :: d'.tokens = ts
  := by
  obtain ⟨us', vs', rfl, hus', hvs'⟩ := exists_eq_append_cons hu h
  obtain ⟨d, rfl⟩ := hus hus'
  obtain ⟨d', rfl⟩ := hvs hvs'
  exact ⟨d, d', rfl⟩

/-- Tokens are derived if the tokens in lower case are. -/
theorem exists_tokens_eq {c : Category} (d : Derivation c) {ts : List Token}
    (h : ts.map Token.lowered = d.tokens) :
  ∃ d' : Derivation c, d'.tokens = ts
  := by
  induction d generalizing ts with
  | scalar s hs =>
    obtain ⟨s, rfl⟩ := hs h
    exact ⟨scalar s, rfl⟩
  | vector x y z hx hy hz =>
    obtain ⟨ts, rfl, hts⟩ := exists_eq_cons rfl h
    obtain ⟨xs, ts, rfl, hxs, hts'⟩ := exists_eq_append_cons rfl hts
    obtain ⟨ys, ts, rfl, hys, hts''⟩ := exists_eq_append_cons rfl hts'
    obtain ⟨zs, rfl, hzs⟩ := exists_eq_append_singleton rfl hts''
    obtain ⟨x, rfl⟩ := hx hxs
    obtain ⟨y, rfl⟩ := hy hys
    obtain ⟨z, rfl⟩ := hz hzs
    exact ⟨vector x y z, rfl⟩
  | plane normal c value hnormal hvalue =>
    obtain ⟨ts, rfl, hts⟩ := exists_eq_cons rfl h
    obtain ⟨normal, value, rfl⟩ := exists_tokens_append_cons rfl hnormal hvalue hts
    exact ⟨plane normal c value, rfl⟩
  | product p hp =>
    obtain ⟨p, rfl⟩ := hp h
    exact ⟨product p, rfl⟩
  | add s p hs hp =>
    obtain ⟨s, p, rfl⟩ := exists_tokens_append_cons rfl hs hp h
    exact ⟨add s p, rfl⟩
  | sub s p hs hp =>
    obtain ⟨s, p, rfl⟩ := exists_tokens_append_cons rfl hs hp h
    exact ⟨sub s p, rfl⟩
  | unary u hu =>
    obtain ⟨u, rfl⟩ := hu h
    exact ⟨unary u, rfl⟩
  | mul p u hp hu =>
    obtain ⟨p, u, rfl⟩ := exists_tokens_append_cons rfl hp hu h
    exact ⟨mul p u, rfl⟩
  | div p u hp hu =>
    obtain ⟨p, u, rfl⟩ := exists_tokens_append_cons rfl hp hu h
    exact ⟨div p u, rfl⟩
  | power p hp =>
    obtain ⟨p, rfl⟩ := hp h
    exact ⟨power p, rfl⟩
  | neg u hu =>
    obtain ⟨us, rfl, hus⟩ := exists_eq_cons rfl h
    obtain ⟨u, rfl⟩ := hu hus
    exact ⟨neg u, rfl⟩
  | pos u hu =>
    obtain ⟨us, rfl, hus⟩ := exists_eq_cons rfl h
    obtain ⟨u, rfl⟩ := hu hus
    exact ⟨pos u, rfl⟩
  | atom a ha =>
    obtain ⟨a, rfl⟩ := ha h
    exact ⟨atom a, rfl⟩
  | pow a u ha hu =>
    obtain ⟨a, u, rfl⟩ := exists_tokens_append_cons rfl ha hu h
    exact ⟨pow a u, rfl⟩
  | number n =>
    obtain ⟨t, rfl, ht⟩ := List.map_eq_singleton_iff.mp h
    obtain ⟨m, rfl⟩ := exists_eq_numeral ht
    exact ⟨number m, rfl⟩
  | call name as has =>
    obtain ⟨t, ts, rfl, ht, hts⟩ := List.map_eq_cons_iff.mp h
    obtain ⟨text, rfl⟩ := exists_eq_name ht
    obtain ⟨ts, rfl, hts'⟩ := exists_eq_cons rfl hts
    obtain ⟨us, rfl, hus⟩ := exists_eq_append_singleton rfl hts'
    obtain ⟨as, rfl⟩ := has hus
    exact ⟨call text as, rfl⟩
  | symbol name =>
    obtain ⟨t, rfl, ht⟩ := List.map_eq_singleton_iff.mp h
    obtain ⟨text, rfl⟩ := exists_eq_name ht
    exact ⟨symbol text, rfl⟩
  | parens s hs =>
    obtain ⟨ts, rfl, hts⟩ := exists_eq_cons rfl h
    obtain ⟨us, rfl, hus⟩ := exists_eq_append_singleton rfl hts
    obtain ⟨s, rfl⟩ := hs hus
    exact ⟨parens s, rfl⟩
  | last s hs =>
    obtain ⟨s, rfl⟩ := hs h
    exact ⟨last s, rfl⟩
  | next s as hs has =>
    obtain ⟨s, as, rfl⟩ := exists_tokens_append_cons rfl hs has h
    exact ⟨next s as, rfl⟩

end Derivation

/-- Parsing is natural in the case of letters: the tokens in lower case are parsed as the tree in
lower case, and not at all if the tokens themselves are not. -/
theorem parse_map_lowered {c : Category} {parse : List Token → Option c.Tree}
    (hparse : ∀ {ts e}, parse ts = some e ↔ ∃ d : Derivation c, d.tokens = ts ∧ d.tree = e)
    (ts : List Token) :
  parse (ts.map Token.lowered) = (parse ts).map c.lowered
  := by
  cases h : parse ts with
  | some e =>
    obtain ⟨d, rfl, rfl⟩ := hparse.mp h
    apply hparse.mpr ⟨d.lowered, d.tokens_lowered, d.tree_lowered⟩
  | none =>
    rw [Option.map_none, Option.eq_none_iff_forall_ne_some]
    -- A derivation of the tokens in lower case gives one of the tokens themselves.
    intro e he
    obtain ⟨d, hd, -⟩ := hparse.mp he
    obtain ⟨d', hd'⟩ := d.exists_tokens_eq hd.symm
    rw [hparse.mpr ⟨d', hd', rfl⟩] at h
    cases h

/-! ### Names -/

/-- The failure with the name that it quotes in lower case. -/
def EvaluationFault.lowered : EvaluationFault → EvaluationFault
  | unknownSymbol name => unknownSymbol name.toLower
  | unknownFunction name => unknownFunction name.toLower
  | fault => fault

section

variable {K : Type} [Scalar K]

theorem constant?_toLower (name : String) :
  (constant? name.toLower : Option K) = constant? name
  := by
  rw [constant?, constant?, toLower_toLower]

theorem Function.ofName?_toLower (name : String) :
  ofName? name.toLower = ofName? name
  := by
  rw [ofName?, ofName?, toLower_toLower]

theorem Numeral.value_lowered (n : Numeral) :
  (n.lowered.value : K) = n.value
  := by
  obtain ⟨m, exponent⟩ := n
  cases exponent with
  | none => rfl
  | some e => rfl

/-- The failure of an operation quotes no name of a text. -/
theorem EvaluationFault.mapError_arithmetic {α : Type} (x : Except ArithmeticFault α) :
  (x.mapError .arithmetic).mapError lowered = x.mapError .arithmetic
  := by
  cases x with
  | error cause => rfl
  | ok a => rfl

theorem Function.mapError_apply (f : Function) (xs : List K) :
  (f.apply xs).mapError EvaluationFault.lowered = f.apply xs
  := by
  simp only [Function.apply]
  split
  · apply EvaluationFault.mapError_arithmetic
  · rfl

/-! ### Values -/

mutual

/-- The value of an expression does not depend on letter case, and its failure only in the names
that it quotes. -/
theorem Expr.eval_lowered : ∀ e : Expr,
    (e.lowered.eval : Except EvaluationFault K) = e.eval.mapError EvaluationFault.lowered
  | numeral n => by
    rw [lowered, eval, eval, Numeral.value_lowered]
    rfl
  | symbol name => by
    rw [lowered, eval, eval, constant?_toLower]
    cases (constant? name : Option K) with
    | none => rfl
    | some x => rfl
  | call name first rest => by
    rw [lowered, eval, eval, Function.ofName?_toLower, Expr.eval_lowered first,
      Expr.evalAll_lowered rest, Outcome.mapError_bind]
    congr 1
    funext x
    rw [Outcome.mapError_bind]
    congr 1
    funext xs
    cases Function.ofName? name with
    | none => rfl
    | some f => exact (f.mapError_apply (x :: xs)).symm
  | neg e => by
    rw [lowered, eval, eval, Expr.eval_lowered e, Outcome.mapError_bind]
    rfl
  | binary op left right => by
    rw [lowered, eval, eval, Expr.eval_lowered left, Expr.eval_lowered right,
      Outcome.mapError_bind]
    congr 1
    funext x
    rw [Outcome.mapError_bind]
    congr 1
    funext y
    exact (EvaluationFault.mapError_arithmetic (op.apply x y)).symm

/-- The values of expressions do not depend on letter case. -/
theorem Expr.evalAll_lowered : ∀ es : List Expr,
    (Expr.evalAll (loweredAll es) : Except EvaluationFault (List K))
      = (Expr.evalAll es).mapError EvaluationFault.lowered
  | [] => rfl
  | e :: es => by
    rw [loweredAll, evalAll, evalAll, Expr.eval_lowered e, Expr.evalAll_lowered es,
      Outcome.mapError_bind]
    congr 1
    funext x
    rw [Outcome.mapError_bind]
    rfl

end

theorem Expr.evalTriple_lowered (v : Vec3 Expr) :
  (evalTriple (v.map Expr.lowered) : Except EvaluationFault (Vec3 K))
    = (evalTriple v).mapError EvaluationFault.lowered
  := by
  simp only [evalTriple, Vec3.map, Expr.eval_lowered, Outcome.mapError_bind]
  rfl

theorem PlaneExpr.eval_lowered (p : PlaneExpr) :
  (p.lowered.eval : Except EvaluationFault (Vec3 K × Comparator × K))
    = p.eval.mapError EvaluationFault.lowered
  := by
  simp only [PlaneExpr.eval, PlaneExpr.lowered, Expr.evalTriple_lowered, Expr.eval_lowered,
    Outcome.mapError_bind]
  rfl

end

end ClippedCylinder
