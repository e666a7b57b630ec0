import Mathlib
import ClippedCylinder.Proofs.Expression.Evaluation
import ClippedCylinder.Proofs.Expression.Layout
import ClippedCylinder.Proofs.Expression.Parsing
import ClippedCylinder.Scalar.Double

/-!
# Written expressions

An expression can be written in many ways: every operand has a place that asks for an operand of
some level, an operand of a lower level has to stand in parentheses, and any operand may have
more parentheses and pluses before it (`Expr.Written`).  However an expression is written, and
whatever gaps are left between its tokens, its text evaluates to the value of the expression
(`evaluate_layout`).  Conversely, what is parsed from a text has a derivation whose tokens are laid
out in the text (`exists_derivation_of_parse`).
-/

namespace ClippedCylinder

/-! ### Levels -/

/-- The token of an operator. -/
def Operator.token : Operator → Token
  | add => .plus
  | sub => .minus
  | mul => .times
  | div => .slash
  | pow => .caret

/-- How tightly an operator binds.  A sign binds at level 3, and what is no operation at
level 5. -/
def Operator.level : Operator → Nat
  | add | sub => 1
  | mul | div => 2
  | pow => 4

/-- The level of the left operand: sums and products associate to the left. -/
def Operator.leftLevel : Operator → Nat
  | add | sub => 1
  | mul | div => 2
  | pow => 5

/-- The level of the right operand: powers associate to the right, and exponents may have
signs. -/
def Operator.rightLevel : Operator → Nat
  | add | sub => 2
  | mul | div | pow => 3

namespace Expr

mutual

/-- `Written l e ts`: the tokens `ts` write the expression `e` in a place of level `l`.  An
operation stands there without parentheses only if it binds at least that tightly; parentheses
are possible anywhere, and pluses wherever signs are. -/
inductive Written : Nat → Expr → List Token → Prop where
  | numeral {l : Nat} (n : Numeral) : Written l (.numeral n) [.numeral n]
  | symbol {l : Nat} (name : String) : Written l (.symbol name) [.name name]
  | call {l : Nat} {first : Expr} {rest : List Expr} {ts : List Token} (name : String)
      (h : WrittenArguments first rest ts) :
      Written l (.call name first rest) (.name name :: .leftParen :: (ts ++ [.rightParen]))
  | neg {l : Nat} {e : Expr} {ts : List Token} (hl : l ≤ 3) (h : Written 3 e ts) :
      Written l (.neg e) (.minus :: ts)
  | binary {l : Nat} {left right : Expr} {ts us : List Token} (op : Operator) (hl : l ≤ op.level)
      (hleft : Written op.leftLevel left ts) (hright : Written op.rightLevel right us) :
      Written l (.binary op left right) (ts ++ op.token :: us)
  | parens {l : Nat} {e : Expr} {ts : List Token} (h : Written 1 e ts) :
      Written l e (.leftParen :: (ts ++ [.rightParen]))
  | plus {l : Nat} {e : Expr} {ts : List Token} (hl : l ≤ 3) (h : Written 3 e ts) :
      Written l e (.plus :: ts)

/-- The tokens write the arguments of a function, with commas between them. -/
inductive WrittenArguments : Expr → List Expr → List Token → Prop where
  | last {e : Expr} {ts : List Token} (h : Written 1 e ts) : WrittenArguments e [] ts
  | next {e e' : Expr} {es : List Expr} {ts us : List Token} (h : Written 1 e ts)
      (h' : WrittenArguments e' es us) : WrittenArguments e (e' :: es) (ts ++ .comma :: us)

end

end Expr

/-- The tokens write the three expressions between parentheses, with commas between them. -/
def Vec3.Written (v : Vec3 Expr) (ts : List Token) : Prop :=
  ∃ xs ys zs, v.x.Written 1 xs ∧ v.y.Written 1 ys ∧ v.z.Written 1 zs ∧
    ts = .leftParen :: (xs ++ .comma :: (ys ++ .comma :: (zs ++ [.rightParen])))

/-- The tokens write the bound: the keyword, the normal, the comparator and the value. -/
def PlaneExpr.Written (p : PlaneExpr) (ts : List Token) : Prop :=
  ∃ us vs, p.normal.Written us ∧ p.value.Written 1 vs ∧
    ts = .radial :: (us ++ .comparator p.comparator :: vs)

/-! ### Derivations of what is written -/

/-- The tokens before the rest are derived from the category of a level. -/
def ReadsAt (l : Nat) (e : Expr) (ts rest : List Token) : Prop :=
  match l with
  | 0 | 1 => Category.Reads .sum e ts rest
  | 2 => Category.Reads .product e ts rest
  | 3 => Category.Reads .unary e ts rest
  | 4 => Category.Reads .power e ts rest
  | _ => Category.Reads .atom e ts rest

namespace ReadsAt

variable {e e' : Expr} {ts us rest : List Token} {l m : Nat}

theorem pred (h : ReadsAt (l + 1) e ts rest) :
  ReadsAt l e ts rest
  := by
  match l, h with
  | 0, h => apply h
  | 1, h => apply Category.Reads.product h
  | 2, h => apply Category.Reads.unary h
  | 3, h => apply Category.Reads.power h
  | 4, h => apply Category.Reads.atom h
  | _ + 5, h => apply h

/-- What is read in a place of some level is read in every place of a lower level. -/
theorem mono (h : ReadsAt m e ts rest) (hlm : l ≤ m) :
  ReadsAt l e ts rest
  := by
  induction m, hlm using Nat.le_induction with
  | base => apply h
  | succ m _ ih => apply ih h.pred

theorem of_atom (h : Category.Reads .atom e ts rest) :
  ReadsAt l e ts rest
  := by
  apply mono (m := l + 5) h (by omega)

theorem binary (op : Operator) (h : ReadsAt op.leftLevel e ts (op.token :: us))
    (h' : ReadsAt op.rightLevel e' us rest) :
  ReadsAt op.level (.binary op e e') ts rest
  := by
  cases op with
  | add => apply Category.Reads.term rfl h h'
  | sub => apply Category.Reads.term rfl h h'
  | mul => apply Category.Reads.factor rfl h h'
  | div => apply Category.Reads.factor rfl h h'
  | pow => apply Category.Reads.pow h h'

end ReadsAt

namespace Expr

/-- What is written in a place of some level is derived from the category of the level, by
induction on how it is written.  Arguments are derived before whatever follows them. -/
theorem Written.readsAt {l : Nat} {e : Expr} {ts : List Token} (h : Written l e ts) :
  ∀ rest, ReadsAt l e (ts ++ rest) rest
  := by
  induction h using Written.rec
    (motive_2 := fun e es ts _ => ∀ rest, Category.Reads .arguments (e, es) (ts ++ rest) rest) with
  | numeral n =>
    intro rest
    exact .of_atom ⟨.number n, rfl, rfl⟩
  | symbol name =>
    intro rest
    exact .of_atom ⟨.symbol name, rfl, rfl⟩
  | call name h ih =>
    intro rest
    have hread := (ih (.rightParen :: rest)).call name
    rw [List.cons_append, List.cons_append, List.append_assoc]
    apply ReadsAt.of_atom hread
  | neg hl h ih =>
    intro rest
    have hread : ReadsAt 3 _ _ rest := Category.Reads.neg (ih rest)
    apply hread.mono hl
  | binary op hl hleft hright ihleft ihright =>
    intro rest
    have hread := ReadsAt.binary op (ihleft _) (ihright rest)
    rw [List.append_assoc]
    apply hread.mono hl
  | parens h ih =>
    intro rest
    have hread := Category.Reads.parens (ih (.rightParen :: rest))
    rw [List.cons_append, List.append_assoc]
    apply ReadsAt.of_atom hread
  | plus hl h ih =>
    intro rest
    have hread : ReadsAt 3 _ _ rest := Category.Reads.pos (ih rest)
    apply hread.mono hl
  | last h ih rest =>
    apply Category.Reads.last (ih rest)
  | next h h' ih ih' rest =>
    rw [List.append_assoc]
    apply Category.Reads.next (ih _) (ih' rest)

theorem Written.reads {e : Expr} {ts : List Token} (h : Written 1 e ts) (rest : List Token) :
  Category.Reads .sum e (ts ++ rest) rest
  := h.readsAt rest

theorem Written.reads_nil {e : Expr} {ts : List Token} (h : Written 1 e ts) :
  Category.Reads .sum e ts []
  := by
  simpa using h.reads []

end Expr

theorem Vec3.Written.reads {v : Vec3 Expr} {ts : List Token} (h : v.Written ts)
    (rest : List Token) :
  Category.Reads .vector v (ts ++ rest) rest
  := by
  obtain ⟨xs, ys, zs, hx, hy, hz, rfl⟩ := h
  have hread := (hx.reads (.comma :: (ys ++ .comma :: (zs ++ .rightParen :: rest)))).vector
    (hy.reads (.comma :: (zs ++ .rightParen :: rest))) (hz.reads (.rightParen :: rest))
  simp only [List.cons_append, List.append_assoc, List.nil_append]
  apply hread

theorem Vec3.Written.reads_nil {v : Vec3 Expr} {ts : List Token} (h : v.Written ts) :
  Category.Reads .vector v ts []
  := by
  simpa using h.reads []

theorem PlaneExpr.Written.reads {p : PlaneExpr} {ts : List Token} (h : p.Written ts) :
  Category.Reads .plane p ts []
  := by
  obtain ⟨us, vs, hnormal, hvalue, rfl⟩ := h
  have hread := (hnormal.reads (.comparator p.comparator :: vs)).plane p.comparator
    hvalue.reads_nil
  apply hread

/-! ### Reading derived tokens back -/

namespace Token.IsSeparable

variable {t : Token} {ts us : List Token}

/-- A token that is no word, and not the keyword, may stand between any others. -/
theorem append_cons (hts : IsSeparable ts) (hus : IsSeparable us) (ht : t.isWord = false) :
  IsSeparable (ts ++ t :: us)
  := by
  constructor
  · rw [List.mem_append, List.mem_cons, not_or, not_or]
    refine ⟨hts.keyword, ?_, hus.keyword⟩
    rintro rfl
    cases ht
  · rw [List.isChain_split]
    constructor
    · apply hts.words.append (List.isChain_singleton t)
      simp [ht]
    · apply hus.words.cons
      simp [ht]

theorem cons (hts : IsSeparable ts) (ht : t.isWord = false) :
  IsSeparable (t :: ts)
  := by
  have hnil : IsSeparable [] := ⟨nofun, List.isChain_nil⟩
  apply hnil.append_cons hts ht

theorem append_singleton (hts : IsSeparable ts) (ht : t.isWord = false) :
  IsSeparable (ts ++ [t])
  := by
  have hnil : IsSeparable [] := ⟨nofun, List.isChain_nil⟩
  apply hts.append_cons hnil ht

theorem singleton (ht : t ≠ radial) :
  IsSeparable [t]
  := by
  constructor
  · intro hmem
    apply ht (List.mem_singleton.mp hmem).symm
  · apply List.isChain_singleton

end Token.IsSeparable

/-- The tokens of a category are read back from every layout of them, those of planes after
their keyword. -/
def Category.IsSeparable (ts : List Token) : Category → Prop
  | .plane => ∃ us, ts = .radial :: us ∧ Token.IsSeparable us
  | _ => Token.IsSeparable ts

namespace Derivation

open Token

/-- Operators, parentheses and commas separate the words of derived tokens. -/
theorem isSeparable {c : Category} (d : Derivation c) :
  c.IsSeparable d.tokens
  := by
  induction d with
  | scalar s hs => apply hs
  | vector x y z hx hy hz =>
    apply IsSeparable.cons _ rfl
    apply hx.append_cons _ rfl
    apply hy.append_cons _ rfl
    apply hz.append_singleton rfl
  | plane normal c value hnormal hvalue => exact ⟨_, rfl, hnormal.append_cons hvalue rfl⟩
  | product p hp => apply hp
  | add s p hs hp => apply hs.append_cons hp rfl
  | sub s p hs hp => apply hs.append_cons hp rfl
  | unary u hu => apply hu
  | mul p u hp hu => apply hp.append_cons hu rfl
  | div p u hp hu => apply hp.append_cons hu rfl
  | power p hp => apply hp
  | neg u hu => apply hu.cons rfl
  | pos u hu => apply hu.cons rfl
  | atom a ha => apply ha
  | pow a u ha hu => apply ha.append_cons hu rfl
  | number n => apply IsSeparable.singleton (t := .numeral n) nofun
  | call name as has =>
    have hname : IsSeparable [.name name] := .singleton nofun
    apply hname.append_cons (has.append_singleton rfl) rfl
  | symbol name => apply IsSeparable.singleton (t := .name name) nofun
  | parens s hs => apply (hs.append_singleton rfl).cons rfl
  | last s hs => apply hs
  | next s as hs has => apply hs.append_cons has rfl

end Derivation

/-! ### Texts of what is written -/

section

open Token

variable {ts : List Token} {text : String}

theorem Category.Reads.isSeparable {c : Category} {e : c.Tree} (h : c.Reads e ts []) :
  c.IsSeparable ts
  := by
  obtain ⟨d, hd, -⟩ := h
  rw [← hd, List.append_nil]
  apply d.isSeparable

/-- A text that something is written in is not blank. -/
theorem Category.Reads.isEmpty_trim {c : Category} {e : c.Tree} (h : c.Reads e ts [])
    (hlayout : Layout ts text.toList) :
  (Text.trim text).isEmpty = false
  := by
  have hlength := h.length_lt
  cases ts with
  | nil => cases hlength
  | cons t ts =>
    rw [← Bool.not_eq_true, String.isEmpty_iff]
    intro hempty
    apply hlayout.trimChars.ne_nil
    rw [← Text.toList_trim, hempty]
    rfl

theorem scan_trim (hlayout : Layout ts text.toList) (hts : IsSeparable ts) :
  Token.scan (Text.trim text).toList = some ts
  := by
  rw [Text.toList_trim]
  apply hlayout.trimChars.scan hts

theorem scanPlane_trim (hlayout : Layout (radial :: ts) text.toList) (hts : IsSeparable ts) :
  Token.scanPlane (Text.trim text).toList = some (radial :: ts)
  := by
  obtain ⟨cs, hcs, hrest⟩ := hlayout.trimChars.exists_eq_append (Text.isBlank_head_trimChars _)
  rw [Text.toList_trim, hcs]
  change (Token.scan cs).map (radial :: ·) = _
  rw [hrest.scan hts]
  rfl

/-- Derived tokens that a text consists of are parsed as the tree of their derivation. -/
theorem Category.Reads.bind_parse {c : Category} {e : c.Tree} (h : c.Reads e ts [])
    {parse : List Token → Option c.Tree}
    (hparse : ∀ {ts e}, parse ts = some e ↔ ∃ d : Derivation c, d.tokens = ts ∧ d.tree = e)
    {scanned : Option (List Token)} (hscan : scanned = some ts) :
  scanned.bind parse = some e
  := by
  obtain ⟨d, hd, he⟩ := h
  rw [List.append_nil] at hd
  rw [hscan, Option.bind_some]
  apply hparse.mpr ⟨d, hd, he⟩

/-- What is parsed from the tokens of a text has a derivation, whose tokens are laid out in the
text. -/
theorem exists_derivation_of_parse {c : Category} {e : c.Tree} {cs : List Char}
    {parse : List Token → Option c.Tree} {scan : List Char → Option (List Token)}
    (hparse : ∀ {ts e}, parse ts = some e ↔ ∃ d : Derivation c, d.tokens = ts ∧ d.tree = e)
    (hscan : ∀ {ts}, scan cs = some ts → Layout ts cs) (h : (scan cs).bind parse = some e) :
  ∃ d : Derivation c, Layout d.tokens cs ∧ d.tree = e
  := by
  obtain ⟨ts, hts, he⟩ := Option.bind_eq_some_iff.mp h
  obtain ⟨d, rfl, rfl⟩ := hparse.mp he
  exact ⟨d, hscan hts, rfl⟩

/-- A bound is read back from a text of its tokens. -/
theorem Category.Reads.scanPlane_bind_ofTokens? {p : PlaneExpr} (h : Reads .plane p ts [])
    (hlayout : Layout ts text.toList) :
  (Token.scanPlane (Text.trim text).toList).bind PlaneExpr.ofTokens? = some p
  := by
  obtain ⟨us, rfl, hus⟩ := h.isSeparable
  apply h.bind_parse PlaneExpr.ofTokens?_eq_some_iff (scanPlane_trim hlayout hus)

/-- An expression is read back from its text. -/
theorem Expr.Written.scan_bind_ofTokens? {e : Expr} (h : e.Written 1 ts)
    (hlayout : Layout ts text.toList) :
  (Token.scan (Text.trim text).toList).bind Expr.ofTokens? = some e
  := by
  have hread := h.reads_nil.scalar
  apply hread.bind_parse Expr.ofTokens?_eq_some_iff (scan_trim hlayout hread.isSeparable)

theorem Vec3.Written.scan_bind_tripleOfTokens? {v : Vec3 Expr} (h : v.Written ts)
    (hlayout : Layout ts text.toList) :
  (Token.scan (Text.trim text).toList).bind Expr.tripleOfTokens? = some v
  := by
  have hread := h.reads_nil
  apply hread.bind_parse Expr.tripleOfTokens?_eq_some_iff (scan_trim hlayout hread.isSeparable)

theorem PlaneExpr.Written.scanPlane_bind_ofTokens? {p : PlaneExpr} (h : p.Written ts)
    (hlayout : Layout ts text.toList) :
  (Token.scanPlane (Text.trim text).toList).bind PlaneExpr.ofTokens? = some p
  := h.reads.scanPlane_bind_ofTokens? hlayout

/-! ### Texts with values -/

section

variable {K : Type} [Scalar K] {source : String} (htrim : Text.trim source = source)

include htrim

/-- A text with a value is laid out as the tokens of a sum with the value. -/
theorem exists_derivation_of_evaluateScalar {x : K} (h : evaluateScalar source = .ok x) :
  ∃ d : Derivation .sum, Layout d.tokens source.toList ∧ d.tree.eval = .ok x
  := by
  obtain ⟨-, e, he, heval, -⟩ := evaluateScalar_eq_ok_iff.mp h
  rw [htrim] at he
  obtain ⟨d, hlayout, rfl⟩ :=
    exists_derivation_of_parse (c := .scalar) Expr.ofTokens?_eq_some_iff layout_of_scan he
  cases d with
  | scalar d => exact ⟨d, hlayout, heval⟩

theorem exists_derivation_of_evaluateVector {v : Vec3 K} (h : evaluateVector source = .ok v) :
  ∃ d : Derivation .vector, Layout d.tokens source.toList ∧ Expr.evalTriple d.tree = .ok v
  := by
  obtain ⟨-, w, hw, heval, -⟩ := evaluateVector_eq_ok_iff.mp h
  rw [htrim] at hw
  obtain ⟨d, hlayout, rfl⟩ :=
    exists_derivation_of_parse (c := .vector) Expr.tripleOfTokens?_eq_some_iff layout_of_scan hw
  exact ⟨d, hlayout, heval⟩

end

end

/-- However an expression is written, and whatever gaps its text has, the text is read back as
the expression and evaluates to its value, or fails as the expression does or because the value
is not finite.  The same holds of triples and of bounds. -/
theorem evaluate_layout {K : Type} [Scalar K] :
  (∀ (e : Expr) (ts : List Token) (text : String), e.Written 1 ts →
      Token.Layout ts text.toList →
      (Token.scan (Text.trim text).toList).bind Expr.ofTokens? = some e ∧
      (evaluateScalar text : Except (Fault K) K) =
        match (e.eval : Except EvaluationFault K) with
        | .error cause => .error (.expression (.failed .scalar (Text.trim text) cause))
        | .ok x =>
          if Scalar.isFinite x then .ok x else .error (.expression (.notFinite text))) ∧
    (∀ (v : Vec3 Expr) (ts : List Token) (text : String), v.Written ts →
      Token.Layout ts text.toList →
      (Token.scan (Text.trim text).toList).bind Expr.tripleOfTokens? = some v ∧
      (evaluateVector text : Except (Fault K) (Vec3 K)) =
        match (Expr.evalTriple v : Except EvaluationFault (Vec3 K)) with
        | .error cause => .error (.expression (.failed .vector (Text.trim text) cause))
        | .ok w =>
          if w.toList.all Scalar.isFinite then .ok w
          else .error (.expression (.notFinite text))) ∧
    (∀ (p : PlaneExpr) (ts : List Token) (text : String), p.Written ts →
      Token.Layout ts text.toList →
      (Token.scanPlane (Text.trim text).toList).bind PlaneExpr.ofTokens? = some p ∧
      (evaluatePlane text : Traced K (Plane K)).outcome =
        match (p.eval : Except EvaluationFault (Vec3 K × Comparator × K)) with
        | .error cause => .error (.expression (.failed .plane (Text.trim text) cause))
        | .ok (normal, comparator, value) =>
          if Scalar.isFinite value && normal.toList.all Scalar.isFinite then
            boundary (Text.trim text) normal (comparator.offset value)
          else .error (.expression (.notFinite text)))
  := by
  refine ⟨?_, ?_, ?_⟩
  · intro e ts text h hlayout
    have hparse := h.scan_bind_ofTokens? hlayout
    use hparse
    rw [evaluateScalar_eq, evaluateAs_of_parse (h.reads_nil.isEmpty_trim hlayout) hparse]
    cases (e.eval : Except EvaluationFault K) with
    | error cause => rfl
    | ok x => rfl
  · intro v ts text h hlayout
    have hparse := h.scan_bind_tripleOfTokens? hlayout
    use hparse
    rw [evaluateVector_eq, evaluateAs_of_parse (h.reads_nil.isEmpty_trim hlayout) hparse]
    cases (Expr.evalTriple v : Except EvaluationFault (Vec3 K)) with
    | error cause => rfl
    | ok w => rfl
  · intro p ts text h hlayout
    have hparse := h.scanPlane_bind_ofTokens? hlayout
    use hparse
    rw [outcome_evaluatePlane, evaluateAs_of_parse (h.reads.isEmpty_trim hlayout) hparse]
    cases (p.eval : Except EvaluationFault (Vec3 K × Comparator × K)) with
    | error cause => rfl
    | ok values => rfl

/-- The values of a text with gaps and with pluses and parentheses that are not needed, of one
without any gap, and of a bound on several lines. -/
theorem evaluate_layout_of_texts :
  (evaluateScalar "\t-(+2) *.5e+1-1.\n" : Except (Fault Float) Float) = .ok (-11) ∧
    (evaluateVector "(1.e5,k^-2^e,.5)" : Except (Fault Float) (Vec3 Float))
      = .error (.expression (.failed .vector "(1.e5,k^-2^e,.5)" (.unknownSymbol "k"))) ∧
    (evaluatePlane "r( 0,\r\n0,+3)>=1E999" : Traced Float (Plane Float)).outcome
      = .error (.expression (.notFinite "r( 0,\r\n0,+3)>=1E999"))
  := by
  obtain ⟨hscalar, hvector, hplane⟩ := evaluate_layout (K := Float)
  refine ⟨?_, ?_, ?_⟩
  · have hwritten : (Expr.binary .sub
        (.binary .mul (.neg (.numeral ⟨.whole 2 [], none⟩))
          (.numeral ⟨.fractional 5 [], some ⟨false, some false, 1, []⟩⟩))
        (.numeral ⟨.pointed 1 [] [], none⟩)).Written 1 _ :=
      .binary .sub (by decide) (.binary .mul (by decide)
        (.neg (by decide) (.parens (.plus (by decide) (.numeral _)))) (.numeral _)) (.numeral _)
    apply (hscalar _ _ _ hwritten (Token.layout_of_scan (by cbv))).2.trans
    decide +kernel
  · have hwritten : Vec3.Written ⟨.numeral ⟨.pointed 1 [] [], some ⟨false, none, 5, []⟩⟩,
        .binary .pow (.symbol "k")
          (.neg (.binary .pow (.numeral ⟨.whole 2 [], none⟩) (.symbol "e"))),
        .numeral ⟨.fractional 5 [], none⟩⟩ _ :=
      ⟨_, _, _, .numeral _, .binary .pow (by decide) (.symbol "k") (.neg (by decide)
        (.binary .pow (by decide) (.numeral _) (.symbol "e"))), .numeral _, rfl⟩
    apply (hvector _ _ _ hwritten (Token.layout_of_scan (by cbv))).2.trans
    decide +kernel
  · have hnormal : Vec3.Written ⟨.numeral ⟨.whole 0 [], none⟩, .numeral ⟨.whole 0 [], none⟩,
        .numeral ⟨.whole 3 [], none⟩⟩ _ :=
      ⟨_, _, _, .numeral _, .numeral _, .plus (by decide) (.numeral _), rfl⟩
    have hwritten : PlaneExpr.Written
        ⟨_, .ge, .numeral ⟨.whole 1 [], some ⟨true, none, 9, [9, 9]⟩⟩⟩ _ :=
      ⟨_, _, hnormal, .numeral _, rfl⟩
    apply (hplane _ _ _ hwritten (Token.layout_of_scanPlane (by cbv))).2.trans
    decide +kernel

end ClippedCylinder
