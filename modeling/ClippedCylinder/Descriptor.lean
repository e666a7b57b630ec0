import ClippedCylinder.Fault
import ClippedCylinder.Text.Blank

/-!
# Descriptors

A descriptor is a type name and, after a colon, the properties of a cylinder.  The whole
may stand in one pair of parentheses or brackets.
-/

namespace ClippedCylinder

/-- A type name and the text of the properties. -/
structure Descriptor where
  typeName : String
  properties : String
deriving DecidableEq, Repr

namespace Descriptor

/-- The text between an opening parenthesis or bracket at the beginning and a closing one
of the same kind at the end, without the blanks at its ends; a text that has no such pair
stays as it is. -/
def unwrap : List Char → List Char
  | '(' :: cs => if cs.getLast? = some ')' then Text.trimChars cs.dropLast else '(' :: cs
  | '[' :: cs => if cs.getLast? = some ']' then Text.trimChars cs.dropLast else '[' :: cs
  | cs => cs

/-- The type name and the properties of a text without enclosing pair: what stands before
and after its first colon. -/
def split (cs : List Char) : Except HeaderFault Descriptor :=
  match Text.cut ':' cs with
  | none => .error .noHeader
  | some (front, back) =>
    let typeName := Text.trimChars front
    let properties := Text.trimChars back
    if typeName.isEmpty then .error .emptyTypeName
    else if properties.isEmpty then .error .noProperties
    else .ok ⟨String.ofList typeName, String.ofList properties⟩

/-- The descriptor that a text stands for. -/
def parse {K : Type} (text : String) : Except (Fault K) Descriptor :=
  let source := Text.trimChars text.toList
  (split (unwrap source)).mapError fun cause => .header cause (String.ofList source)

end Descriptor

end ClippedCylinder
