/-!
# Blank characters

The blanks are the characters that count as white space in a descriptor: the white
space of ASCII together with the information separators, and the space separators
of the other scripts.  `trim` removes the blanks at both ends of a text, and `fields`
cuts a text at a separator, trims the pieces and drops the empty ones.
-/

namespace ClippedCylinder.Text

/-- Whether the character is white space. -/
def isBlank (c : Char) : Bool :=
  let n := c.toNat
  (0x09 ≤ n && n ≤ 0x0D) || (0x1C ≤ n && n ≤ 0x20) || n == 0x85 || n == 0xA0 || n == 0x1680
    || (0x2000 ≤ n && n ≤ 0x200A) || n == 0x2028 || n == 0x2029 || n == 0x202F || n == 0x205F
    || n == 0x3000

/-! ### Trimming -/

/-- The characters from the first one that is not blank on. -/
def trimLeft (cs : List Char) : List Char :=
  cs.dropWhile isBlank

/-- The characters up to the last one that is not blank. -/
def trimRight (cs : List Char) : List Char :=
  cs.reverse.dropWhile isBlank |>.reverse

/-- The characters without the blanks at both ends. -/
def trimChars (cs : List Char) : List Char :=
  trimRight (trimLeft cs)

/-- The text without the blanks at both ends. -/
def trim (s : String) : String :=
  String.ofList (trimChars s.toList)

/-! ### Cutting at a separator -/

/-- The pieces between the occurrences of a separator; there is always at least one. -/
def pieces (separator : Char) : List Char → List (List Char)
  | [] => [[]]
  | c :: cs =>
    if c = separator then [] :: pieces separator cs
    else
      match pieces separator cs with
      | [] => [[c]]
      | p :: ps => (c :: p) :: ps

/-- The trimmed pieces between the occurrences of a separator, without the empty ones. -/
def fields (separator : Char) (s : String) : List String :=
  ((pieces separator s.toList).map trimChars).filterMap
    fun p => if p.isEmpty then none else some (String.ofList p)

/-- The characters before and after the first occurrence of a separator, if there is one. -/
def cut (separator : Char) : List Char → Option (List Char × List Char)
  | [] => none
  | c :: cs =>
    if c = separator then some ([], cs)
    else (cut separator cs).map fun (front, back) => (c :: front, back)

end ClippedCylinder.Text
