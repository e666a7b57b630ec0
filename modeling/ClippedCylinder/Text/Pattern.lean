import ClippedCylinder.Text.Blank

/-!
# Anchored patterns

A pattern reads a whole list of characters and gives a value, or fails.  The patterns
here are built from the end: each takes the pattern that reads what is left.  Where a
pattern could stop in several places it tries the longest stretch first and falls back
to shorter ones, so it gives the value of the first way of reading that succeeds.
-/

namespace ClippedCylinder.Text

/-- A pattern reads all of the characters and gives a value. -/
abbrev Pattern (α : Type) := List Char → Option α

namespace Pattern

variable {α : Type}

/-- Skips as many blanks as possible such that `next` reads the rest. -/
def blanks (next : Pattern α) : Pattern α
  | [] => next []
  | c :: cs => if isBlank c then (blanks next cs).or (next (c :: cs)) else next (c :: cs)

/-- Reads the character `d` and then `next`. -/
def char (d : Char) (next : Pattern α) : Pattern α
  | [] => none
  | c :: cs => if c = d then next cs else none

/-- Reads the characters of a keyword and then `next`. -/
def keyword (word : List Char) (next : Pattern α) : Pattern α :=
  word.foldr char next

/-- Reads the character `d` if it is there and `next` reads the rest, and else nothing. -/
def optional (d : Char) (next : Bool → Pattern α) : Pattern α :=
  fun cs => (char d (next true) cs).or (next false cs)

/-- The rest without a line break at its end, when it has no other line break. -/
def line : Pattern (List Char) :=
  fun cs =>
    let content := if cs.getLast? = some '\n' then cs.dropLast else cs
    if content.contains '\n' then none else some content

/-- A line that has at least one character. -/
def nonemptyLine : Pattern (List Char) :=
  fun cs => (line cs).filter fun content => !content.isEmpty

/-- The rest, when it has none of the given characters. -/
def without (excluded : List Char) : Pattern (List Char) :=
  fun cs => if cs.any excluded.contains then none else some cs

/-- A line that starts with an opening and ends with a closing parenthesis. -/
def parenthesized : Pattern (List Char) :=
  fun cs => (line cs).filter fun content =>
    2 ≤ content.length && content.head? = some '(' && content.getLast? = some ')'

end Pattern

end ClippedCylinder.Text
