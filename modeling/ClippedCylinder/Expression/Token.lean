import ClippedCylinder.Expression.Numeral

/-!
# Tokens

The words of expressions.  At each place the longest token is read, and gaps between
tokens are skipped.  The keyword `r` is a token of its own only at the very beginning of a
plane; everywhere else the letter is a name.
-/

namespace ClippedCylinder

/-- The comparators of bounds. -/
inductive Comparator where
  | lt
  | le
  | gt
  | ge
deriving DecidableEq, Repr

/-- The characters of a comparator. -/
def Comparator.chars : Comparator → List Char
  | .lt => ['<']
  | .le => ['<', '=']
  | .gt => ['>']
  | .ge => ['>', '=']

/-- The text of a comparator. -/
def Comparator.text (c : Comparator) : String :=
  String.ofList c.chars

/-- Whether the comparator asks for values above the bound. -/
def Comparator.isAbove : Comparator → Bool
  | .lt | .le => false
  | .gt | .ge => true

/-- The words of expressions. -/
inductive Token where
  | numeral (n : Numeral)
  | name (text : String)
  | plus
  | minus
  | times
  | slash
  | caret
  | leftParen
  | rightParen
  | comma
  | comparator (c : Comparator)
  /-- The keyword at the beginning of a plane. -/
  | radial
deriving DecidableEq, Repr

namespace Token

/-- The characters of a token. -/
def chars : Token → List Char
  | numeral n => n.chars
  | name text => text.toList
  | plus => ['+']
  | minus => ['-']
  | times => ['*']
  | slash => ['/']
  | caret => ['^']
  | leftParen => ['(']
  | rightParen => [')']
  | comma => [',']
  | comparator c => c.chars
  | radial => ['r']

/-! ### Character classes -/

/-- The characters that may stand between tokens. -/
def isGap (c : Char) : Bool :=
  c == ' ' || c == '\t' || c == '\x0c' || c == '\r' || c == '\n'

/-- The characters that a name starts with. -/
def isNameStart (c : Char) : Bool :=
  c.isAlpha || c == '_'

/-- The characters that a name goes on with. -/
def isNamePart (c : Char) : Bool :=
  c.isAlphanum || c == '_'

/-! ### Reading -/

/-- The token at the beginning of a text, and the rest of it. -/
def scanOne : List Char → Option (Token × List Char)
  | [] => none
  | '+' :: cs => some (plus, cs)
  | '-' :: cs => some (minus, cs)
  | '*' :: cs => some (times, cs)
  | '/' :: cs => some (slash, cs)
  | '^' :: cs => some (caret, cs)
  | '(' :: cs => some (leftParen, cs)
  | ')' :: cs => some (rightParen, cs)
  | ',' :: cs => some (comma, cs)
  | '<' :: '=' :: cs => some (comparator .le, cs)
  | '<' :: cs => some (comparator .lt, cs)
  | '>' :: '=' :: cs => some (comparator .ge, cs)
  | '>' :: cs => some (comparator .gt, cs)
  | c :: cs =>
    if isNameStart c then
      some (name (String.ofList (c :: cs.takeWhile isNamePart)), cs.dropWhile isNamePart)
    else (Numeral.scan (c :: cs)).map fun (n, rest) => (numeral n, rest)

theorem length_lt_of_scanOne {cs rest : List Char} {t : Token}
    (h : scanOne cs = some (t, rest)) :
  rest.length < cs.length
  := by
  unfold scanOne at h
  split at h
  case h_1 => simp at h
  case h_14 c cs _ _ _ _ _ _ _ _ _ _ _ _ =>
    split at h
    · have := (List.dropWhile_suffix isNamePart : cs.dropWhile isNamePart <:+ cs).length_le
      simp only [Option.some.injEq, Prod.mk.injEq] at h
      rw [← h.2, List.length_cons]
      omega
    · simp only [Option.map_eq_some_iff, Prod.mk.injEq] at h
      obtain ⟨⟨n, r⟩, hn, -, rfl⟩ := h
      apply Numeral.length_lt_of_scan hn
  all_goals
    simp only [Option.some.injEq, Prod.mk.injEq] at h
    rw [← h.2]
    simp only [List.length_cons]
    omega

/-- The tokens of a text. -/
def scan (cs : List Char) : Option (List Token) :=
  match cs with
  | [] => some []
  | c :: rest =>
    if isGap c then scan rest
    else
      match h : scanOne (c :: rest) with
      | none => none
      | some (t, rest') =>
        have : rest'.length < (c :: rest).length := length_lt_of_scanOne h
        (scan rest').map (t :: ·)
termination_by cs.length
decreasing_by
  · simp
  · assumption

/-- The tokens of a text that starts with the keyword of planes. -/
def scanPlane : List Char → Option (List Token)
  | 'r' :: cs => (scan cs).map (radial :: ·)
  | _ => none

end Token

end ClippedCylinder
