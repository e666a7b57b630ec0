import ClippedCylinder.Clause.Basic
import ClippedCylinder.Text.Pattern
import ClippedCylinder.Text.WordChar

/-!
# Recognising clauses

A clause is recognised by its shape alone, before any value is evaluated: there is one
pattern for each form, and the first pattern that reads the whole clause decides.  Values
of assignments and bounds end with the line they begin on, but the value of a radius may
go on over several lines.
-/

namespace ClippedCylinder

namespace ClauseForm

open Text

/-- The trimmed text of the characters of a value. -/
def valueText (cs : List Char) : String :=
  String.ofList (trimChars cs)

/-! ### Parts of patterns -/

/-- An equals sign, possibly between blanks, and a value. -/
def assigned (value : Pattern (List Char)) : Pattern String :=
  fun cs => (Pattern.blanks (Pattern.char '=' (Pattern.blanks value)) cs).map valueText

/-- A value in parentheses, possibly after blanks and an equals sign. -/
def enclosed : Pattern String :=
  fun cs =>
    (Pattern.blanks (Pattern.optional '=' fun _ => Pattern.blanks Pattern.parenthesized) cs).map
      valueText

/-- A comparator at the beginning; as many characters of it as possible are taken. -/
def compared {α : Type} (next : Comparator → Pattern α) : Pattern α
  | '<' :: cs => Pattern.optional '=' (fun orEqual => next (if orEqual then .le else .lt)) cs
  | '>' :: cs => Pattern.optional '=' (fun orEqual => next (if orEqual then .ge else .gt)) cs
  | _ => none

/-- The first comparator in a text. -/
def firstComparator? (cs : List Char) : Option Comparator :=
  match cs.dropWhile fun c => c != '<' && c != '>' with
  | '<' :: '=' :: _ => some .le
  | '<' :: _ => some .lt
  | '>' :: '=' :: _ => some .ge
  | '>' :: _ => some .gt
  | _ => none

/-- Whether a keyword ends before the text: no word character follows. -/
def endsWord (cs : List Char) : Bool :=
  (cs.head?.map fun c => !isWordChar c).getD true

/-! ### The patterns of the forms -/

/-- A coordinate name and an assigned line. -/
def origin? : Pattern ClauseForm
  | c :: cs => do
    let k ← Coordinate.ofChar? c
    let v ← assigned Pattern.line cs
    return origin k v
  | [] => none

/-- The letter `d`, a coordinate name and an assigned line. -/
def halfExtent? : Pattern ClauseForm
  | 'd' :: c :: cs => do
    let k ← Lateral.ofChar? c
    let v ← assigned Pattern.line cs
    return halfExtent k v
  | _ => none

/-- The letter `r` and an assigned text without comparators. -/
def radius? : Pattern ClauseForm :=
  fun cs => (Pattern.char 'r' (assigned (Pattern.without ['<', '>'])) cs).map radius

/-- The letter `l` and an assigned line. -/
def length? : Pattern ClauseForm :=
  fun cs => (Pattern.char 'l' (assigned Pattern.line) cs).map length

/-- The keyword `axis` and a line in parentheses. -/
def axis? : Pattern ClauseForm :=
  fun cs => (Pattern.keyword ['a', 'x', 'i', 's'] enclosed cs).map axis

/-- The keyword `r` and a line that has a comparator somewhere. -/
def radialBound? : Pattern ClauseForm
  | 'r' :: cs =>
    if endsWord cs && (Pattern.line cs).isSome then
      (firstComparator? cs).map fun c => radialBound c (String.ofList ('r' :: cs))
    else none
  | _ => none

/-- The letters `a_`, a coordinate name and a line in parentheses. -/
def frame? : Pattern ClauseForm
  | 'a' :: '_' :: c :: cs => do
    let k ← Lateral.ofChar? c
    let v ← enclosed cs
    return frame k v
  | _ => none

/-- A coordinate name, a comparator and a line that is not empty. -/
def axisBound? : Pattern ClauseForm
  | c :: cs => do
    let k ← Coordinate.ofChar? c
    Pattern.blanks (compared fun comparator =>
      Pattern.blanks fun rest =>
        (Pattern.nonemptyLine rest).map fun v => axisBound k comparator (valueText v)) cs
  | [] => none

/-- The patterns of the forms, in the order in which they are tried. -/
def patterns : List (Pattern ClauseForm) :=
  [origin?, halfExtent?, radius?, length?, axis?, radialBound?, frame?, axisBound?]

/-- The form given by the first pattern that reads the characters. -/
def ofChars? (cs : List Char) : Option ClauseForm :=
  patterns.findSome? (· cs)

end ClauseForm

namespace Clause

/-- The clause with the given text. -/
def classify (text : String) : Clause :=
  ⟨text, ClauseForm.ofChars? text.toList⟩

/-- The clauses of a property section: the parts between semicolons that are not blank. -/
def ofProperties (properties : String) : List Clause :=
  (Text.fields ';' properties).map classify

end Clause

end ClippedCylinder
