import ClippedCylinder.Expression.Parser
import ClippedCylinder.Expression.Function
import ClippedCylinder.Text.Blank

/-!
# Evaluating expressions

The value of an expression tree is computed from the leaves up and from left to right,
and the first operation without a result decides the failure.  `evaluateScalar` and
`evaluateVector` give the value of a text; it is finite.
-/

namespace ClippedCylinder

variable {K : Type} [Scalar K]

/-! ### Trees -/

/-- The value of a numeral. -/
def Numeral.value (n : Numeral) : K :=
  Scalar.ofDecimal n.coefficient n.scale

/-- The value of an operator between two numbers. -/
def Operator.apply (op : Operator) (x y : K) : Except ArithmeticFault K :=
  match op with
  | .add => .ok (x + y)
  | .sub => .ok (x - y)
  | .mul => .ok (x * y)
  | .div => Scalar.divide x y
  | .pow => Scalar.pow? x y

namespace Expr

mutual

/-- The value of an expression. -/
def eval : Expr → Except EvaluationFault K
  | numeral n => .ok n.value
  | symbol name =>
    match constant? name with
    | some x => .ok x
    | none => .error (.unknownSymbol name)
  | call name first rest => do
    let x ← eval first
    let xs ← evalAll rest
    match Function.ofName? name with
    | some f => f.apply (x :: xs)
    | none => .error (.unknownFunction name)
  | neg e => do
    let x ← eval e
    return -x
  | binary op left right => do
    let x ← eval left
    let y ← eval right
    (op.apply x y).mapError .arithmetic

/-- The values of a list of expressions. -/
def evalAll : List Expr → Except EvaluationFault (List K)
  | [] => .ok []
  | e :: es => do
    let x ← eval e
    let xs ← evalAll es
    return x :: xs

end

/-- The vector of the values of three expressions. -/
def evalTriple (v : Vec3 Expr) : Except EvaluationFault (Vec3 K) := do
  let x ← v.x.eval
  let y ← v.y.eval
  let z ← v.z.eval
  return ⟨x, y, z⟩

end Expr

/-! ### Texts -/

/-- The value of a text as an expression of the given kind: the trimmed text is read as
tokens, parsed and evaluated. -/
def evaluateAs {α β : Type} (kind : ExpressionKind) (scan : List Char → Option (List Token))
    (parse : List Token → Option α) (eval : α → Except EvaluationFault β) (text : String) :
    Except (Fault K) β :=
  let source := Text.trim text
  if source.isEmpty then .error (.expression (.empty kind))
  else
    match (scan source.toList).bind parse with
    | none => .error (.expression (.malformed kind source))
    | some tree => (eval tree).mapError fun cause => .expression (.failed kind source cause)

/-- The number, which has to be finite, as the value of a text. -/
def requireFinite (text : String) (x : K) : Except (Fault K) Unit :=
  if Scalar.isFinite x then .ok () else .error (.expression (.notFinite text))

/-- The finite number that a text stands for. -/
def evaluateScalar (text : String) : Except (Fault K) K := do
  let x ← evaluateAs .scalar Token.scan Expr.ofTokens? Expr.eval text
  requireFinite text x
  return x

/-- The vector of finite numbers that a text stands for. -/
def evaluateVector (text : String) : Except (Fault K) (Vec3 K) := do
  let v ← evaluateAs .vector Token.scan Expr.tripleOfTokens? Expr.evalTriple text
  v.toList.forM (requireFinite text)
  return v

end ClippedCylinder
