import Mathlib
import ClippedCylinder.Text.Quoted

/-!
# JSON documents

A reader for JSON documents that are written on a single line, with a blank after each comma and
each colon.  `Document.Reads s d` says that the reader finds the document `d` at the beginning of a
text that goes on with anything but a number after `s`; then `s` as a whole is read as `d`
(`Document.Reads.read?_eq`).  Strings in which characters are escaped are read back as they were,
whatever their characters are (`Document.reads_jsonQuoted`).
-/

namespace ClippedCylinder

/-! ### Lines -/

namespace Text

/-- The character can be shown in a line of ASCII. -/
def IsVisible (c : Char) : Prop :=
  32 ≤ c.toNat ∧ c.toNat < 127

instance : DecidablePred IsVisible :=
  fun c => inferInstanceAs (Decidable (32 ≤ c.toNat ∧ c.toNat < 127))

/-- A text that is a single line of ASCII. -/
def IsLine (s : String) : Prop :=
  ∀ c ∈ s.toList, IsVisible c

instance (s : String) : Decidable (IsLine s) :=
  decidable_of_iff (s.toList.all fun c => decide (IsVisible c)) (by simp [IsLine])

theorem IsLine.append {s t : String} (hs : IsLine s) (ht : IsLine t) :
  IsLine (s ++ t)
  := by
  intro c hc
  rw [String.toList_append, List.mem_append] at hc
  rcases hc with hc | hc
  · apply hs c hc
  · apply ht c hc

theorem IsLine.intercalate {separator : String} {ss : List String} (hseparator : IsLine separator)
    (h : ∀ s ∈ ss, IsLine s) :
  IsLine (separator.intercalate ss)
  := by
  induction ss with
  | nil => exact nofun
  | cons s ss ih =>
    rw [List.forall_mem_cons] at h
    cases ss with
    | nil => simpa using h.1
    | cons t ss =>
      rw [String.intercalate_cons_cons]
      apply (h.1.append hseparator).append (ih h.2)

end Text

open Text

/-! ### Reading -/

/-- A JSON document.  A number is kept as it is written, and so are the order of the fields of an
object and their number. -/
inductive Document where
  | text (s : String)
  | number (token : String)
  | array (items : List Document)
  | object (fields : List (String × Document))

namespace Document

/-- A reader gives what it finds at the beginning of a text, and the rest of the text. -/
abbrev Reader (α : Type) := List Char → Option (α × List Char)

/-- The value of a hexadecimal digit. -/
def hexDigit? (c : Char) : Option Nat :=
  if '0' ≤ c ∧ c ≤ '9' then some (c.toNat - '0'.toNat)
  else if 'a' ≤ c ∧ c ≤ 'f' then some (c.toNat - 'a'.toNat + 10)
  else none

/-- The value of hexadecimal digits. -/
def hexValue? (cs : List Char) : Option Nat :=
  cs.foldlM (fun n c => (hexDigit? c).map (16 * n + ·)) 0

/-- The character that a letter or a sign after a backslash stands for. -/
def escaped? (c : Char) : Option Char :=
  [('"', '"'), ('\\', '\\'), ('n', '\n'), ('r', '\r'), ('t', '\t'), ('f', '\x0c'),
    ('b', '\x08')].lookup c

/-- Reads the UTF-16 units of a string up to its closing quote. -/
def readUnits : Reader (List Nat)
  | '"' :: rest => some ([], rest)
  | '\\' :: 'u' :: a :: b :: c :: d :: cs => do
    let u ← hexValue? [a, b, c, d]
    (readUnits cs).map fun (us, rest) => (u :: us, rest)
  | '\\' :: c :: cs => do
    let c ← escaped? c
    (readUnits cs).map fun (us, rest) => (utf16Units c ++ us, rest)
  | c :: cs =>
    if c.toNat < 0x20 then none
    else (readUnits cs).map fun (us, rest) => (utf16Units c ++ us, rest)
  | [] => none

/-- The characters of UTF-16 units. -/
def decode? : List Nat → Option (List Char)
  | [] => some []
  | u :: us =>
    if u < 0xD800 ∨ 0xE000 ≤ u then (decode? us).map (Char.ofNat u :: ·)
    else
      match us with
      | [] => none
      | v :: us =>
        if u < 0xDC00 ∧ 0xDC00 ≤ v ∧ v < 0xE000 then
          (decode? us).map (Char.ofNat (0x10000 + (u - 0xD800) * 0x400 + (v - 0xDC00)) :: ·)
        else none

/-- Reads a string after its opening quote. -/
def readText : Reader String :=
  fun cs => do
    let (us, rest) ← readUnits cs
    let cs ← decode? us
    return (String.ofList cs, rest)

/-- The characters of numbers. -/
def isNumberChar (c : Char) : Bool :=
  c.isAlphanum || c = '+' || c = '-' || c = '.'

/-- Reads a number. -/
def readNumber : Reader String :=
  fun cs =>
    match cs.takeWhile isNumberChar with
    | [] => none
    | token => some (String.ofList token, cs.dropWhile isNumberChar)

section

variable {α : Type}

/-- Reads the items after the first one, up to the closing sign. -/
def readMore (item : Reader α) (close : Char) : Nat → Reader (List α)
  | 0, _ => none
  | fuel + 1, ',' :: ' ' :: cs => do
    let (a, cs) ← item cs
    (readMore item close fuel cs).map fun (as, rest) => (a :: as, rest)
  | _ + 1, c :: rest => if c = close then some ([], rest) else none
  | _ + 1, [] => none

/-- Reads items up to the closing sign. -/
def readItems (item : Reader α) (close : Char) (fuel : Nat) : Reader (List α)
  | [] => none
  | c :: cs =>
    if c = close then some ([], cs)
    else do
      let (a, cs) ← item (c :: cs)
      (readMore item close fuel cs).map fun (as, rest) => (a :: as, rest)

end

/-- Reads a field of an object. -/
def readField (value : Reader Document) : Reader (String × Document)
  | '"' :: cs => do
    match ← readText cs with
    | (name, ':' :: ' ' :: cs) =>
      (value cs).map fun (d, rest) => ((name, d), rest)
    | _ => none
  | _ => none

/-- Reads a document. -/
def readValue : Nat → Reader Document
  | 0, _ => none
  | _ + 1, '"' :: cs => (readText cs).map fun (s, rest) => (text s, rest)
  | fuel + 1, '[' :: cs =>
    (readItems (readValue fuel) ']' fuel cs).map fun (items, rest) => (array items, rest)
  | fuel + 1, '\x7b' :: cs =>
    (readItems (readField (readValue fuel)) '\x7d' fuel cs).map
      fun (fields, rest) => (object fields, rest)
  | _ + 1, cs => (readNumber cs).map fun (token, rest) => (number token, rest)

/-- The document that a text is. -/
def read? (s : String) : Option Document :=
  match readValue s.length s.toList with
  | some (d, []) => some d
  | _ => none

end Document

/-! ### Escapes -/

namespace Text

/-- All digits but the last one are those of the number without its last digit. -/
theorem hex_succ {width : Nat} (h : 0 < width) (n : Nat) :
  hex (width + 1) n = hex width (n / 16) ++ [Nat.digitChar (n % 16)]
  := by
  unfold hex
  by_cases hn : n < 16
  · have hdigits : Nat.toDigits 16 (n / 16) = ['0'] := by
      rw [Nat.div_eq_of_lt hn, Nat.toDigits_zero]
    have hzeros : List.replicate width '0' = List.replicate (width - 1) '0' ++ ['0'] := by
      rw [← List.replicate_succ', Nat.sub_add_cancel h]
    rw [Nat.toDigits_of_lt_base hn, hdigits, Nat.mod_eq_of_lt hn]
    simp [hzeros]
  · rw [Nat.toDigits_of_base_le (by decide) (Nat.not_lt.mp hn)]
    simp

theorem hex_four {n : Nat} (h : n < 0x10000) :
  hex 4 n
    = [Nat.digitChar (n / 16 / 16 / 16), Nat.digitChar (n / 16 / 16 % 16),
      Nat.digitChar (n / 16 % 16), Nat.digitChar (n % 16)]
  := by
  have hfirst : hex 1 (n / 16 / 16 / 16) = [Nat.digitChar (n / 16 / 16 / 16)] := by
    rw [hex, Nat.toDigits_of_lt_base (by omega)]
    rfl
  rw [hex_succ (by decide), hex_succ (by decide), hex_succ (by decide), hfirst]
  rfl

/-- No character is a surrogate. -/
theorem toNat_cases (c : Char) :
  c.toNat < 0xD800 ∨ 0xE000 ≤ c.toNat ∧ c.toNat < 0x110000
  := by
  have h : c.toNat < 0xD800 ∨ 0xDFFF < c.toNat ∧ c.toNat < 0x110000 := c.valid
  omega

theorem lt_of_mem_utf16Units {c : Char} {u : Nat} (h : u ∈ utf16Units c) :
  u < 0x10000
  := by
  have hc := toNat_cases c
  unfold utf16Units at h
  split at h
  · rw [List.mem_singleton.mp h]
    assumption
  · rcases List.mem_cons.mp h with rfl | h
    · omega
    · rw [List.mem_singleton.mp h]
      omega

/-- A character is escaped by a letter or a sign, shown as it is, or escaped by its digits. -/
theorem jsonEscape_cases (c : Char) :
  (∃ e, Document.escaped? e = some c ∧ IsVisible e ∧ e ≠ 'u' ∧ jsonEscape c = ['\\', e]) ∨
    (IsVisible c ∧ c ≠ '"' ∧ c ≠ '\\' ∧ jsonEscape c = [c]) ∨
    jsonEscape c = (utf16Units c).flatMap fun u => '\\' :: 'u' :: hex 4 u
  := by
  unfold jsonEscape
  split_ifs with hquote hbackslash hn hr ht hf hb hvisible
  rotate_left 7
  · rw [Bool.and_eq_true, decide_eq_true_eq, decide_eq_true_eq] at hvisible
    exact .inr (.inl ⟨hvisible, hquote, hbackslash, rfl⟩)
  · exact .inr (.inr rfl)
  all_goals
    subst_vars
    exact .inl ⟨_, rfl, by decide, by decide, rfl⟩

end Text

namespace Document

theorem hexDigit?_digitChar :
  ∀ n < 16, hexDigit? (Nat.digitChar n) = some n
  := by
  decide

theorem hexValue?_hex {u : Nat} (h : u < 0x10000) :
  hexValue? (hex 4 u) = some u
  := by
  have hfirst := hexDigit?_digitChar (u / 16 / 16 / 16) (by omega)
  have hmod (n : Nat) := hexDigit?_digitChar (n % 16) (Nat.mod_lt _ (by decide))
  rw [hex_four h]
  simp only [hexValue?, List.foldlM_cons, List.foldlM_nil, hfirst, hmod, Option.map_some,
    Option.bind_eq_bind, Option.bind_some, Option.pure_def, Option.some.injEq]
  omega

theorem readUnits_hex {u : Nat} (h : u < 0x10000) (cs : List Char) :
  readUnits ('\\' :: 'u' :: hex 4 u ++ cs)
    = (readUnits cs).map fun (us, rest) => (u :: us, rest)
  := by
  have hvalue := hexValue?_hex h
  rw [hex_four h] at hvalue
  rw [hex_four h]
  simp only [List.cons_append, List.nil_append, readUnits, hvalue]
  rfl

theorem readUnits_flatMap_hex {us : List Nat} (h : ∀ u ∈ us, u < 0x10000) (cs : List Char) :
  readUnits ((us.flatMap fun u => '\\' :: 'u' :: hex 4 u) ++ cs)
    = (readUnits cs).map fun (vs, rest) => (us ++ vs, rest)
  := by
  induction us with
  | nil => simp
  | cons u us ih =>
    rw [List.forall_mem_cons] at h
    rw [List.flatMap_cons, List.append_assoc, readUnits_hex h.1, ih h.2, Option.map_map]
    rfl

/-- An escaped character is read as its units. -/
theorem readUnits_jsonEscape (c : Char) (cs : List Char) :
  readUnits (jsonEscape c ++ cs)
    = (readUnits cs).map fun (us, rest) => (utf16Units c ++ us, rest)
  := by
  rcases jsonEscape_cases c with ⟨e, he, -, hu, hc⟩ | ⟨hvisible, hquote, hbackslash, hc⟩ | hc
  · rw [hc]
    simp [readUnits, he, hu]
  · have hcontrol : ¬ c.toNat < 0x20 := Nat.not_lt.mpr hvisible.1
    rw [hc]
    simp [readUnits, hbackslash, hcontrol]
  · rw [hc]
    apply readUnits_flatMap_hex fun u => lt_of_mem_utf16Units

/-- The units of characters are decoded to these characters. -/
theorem decode?_utf16Units (c : Char) (us : List Nat) :
  decode? (utf16Units c ++ us) = (decode? us).map (c :: ·)
  := by
  have hc := toNat_cases c
  unfold utf16Units
  split
  · rw [List.singleton_append, decode?.eq_def]
    dsimp only
    rw [if_pos (by omega), Char.ofNat_toNat]
  · have hnat : 0x10000 + (0xD800 + (c.toNat - 0x10000) / 0x400 - 0xD800) * 0x400
        + (0xDC00 + (c.toNat - 0x10000) % 0x400 - 0xDC00) = c.toNat := by
      omega
    rw [List.cons_append, List.singleton_append, decode?.eq_def]
    dsimp only
    rw [if_neg (by omega), if_pos (by omega), hnat, Char.ofNat_toNat]

/-- Escaped characters are read as their units, up to the quote. -/
theorem readUnits_flatMap_jsonEscape (cs rest : List Char) :
  readUnits (cs.flatMap jsonEscape ++ '"' :: rest) = some (cs.flatMap utf16Units, rest)
  := by
  induction cs with
  | nil => rfl
  | cons c cs ih =>
    rw [List.flatMap_cons, List.append_assoc, readUnits_jsonEscape, ih]
    rfl

theorem decode?_flatMap_utf16Units (cs : List Char) :
  decode? (cs.flatMap utf16Units) = some cs
  := by
  induction cs with
  | nil => rfl
  | cons c cs ih =>
    rw [List.flatMap_cons, decode?_utf16Units, ih]
    rfl

/-- A string is read back from between its quotes. -/
theorem readText_jsonQuoted (s : String) (rest : List Char) :
  readText (s.toList.flatMap jsonEscape ++ '"' :: rest) = some (s, rest)
  := by
  simp only [readText, readUnits_flatMap_jsonEscape, decode?_flatMap_utf16Units,
    Option.bind_eq_bind, Option.bind_some, String.ofList_toList, Option.pure_def]

/-! ### Texts of documents -/

/-- The rest of a text does not go on with a number. -/
def EndsNumber (rest : List Char) : Prop :=
  ∀ c ∈ rest.head?, isNumberChar c = false

/-- The reader reads the text, whatever follows it, unless it goes on with a number. -/
def ReadBy {α : Type} (reader : Reader α) (s : String) (a : α) : Prop :=
  ∀ rest, EndsNumber rest → reader (s.toList ++ rest) = some (a, rest)

/-- The text is read as the document. -/
def Reads (s : String) (d : Document) : Prop :=
  ∀ fuel, s.length ≤ fuel → ReadBy (readValue fuel) s d

theorem Reads.read?_eq {s : String} {d : Document} (h : Reads s d) :
  read? s = some d
  := by
  have hread := h s.length le_rfl [] nofun
  rw [List.append_nil] at hread
  rw [read?, hread]

theorem reads_jsonQuoted (s : String) :
  Reads (jsonQuoted s) (text s)
  := by
  intro fuel hfuel rest _
  cases fuel with
  | zero => simp [jsonQuoted] at hfuel
  | succ fuel =>
    rw [jsonQuoted, String.toList_ofList, List.cons_append, List.cons_append, List.append_assoc,
      List.singleton_append, readValue, readText_jsonQuoted]
    rfl

/-! ### Numbers -/

/-- A text that is read as a number. -/
structure IsNumber (s : String) : Prop where
  ne_empty : s ≠ ""
  isNumberChar_of_mem : ∀ c ∈ s.toList, isNumberChar c = true

theorem IsNumber.readNumber_eq {s : String} (h : IsNumber s) {rest : List Char}
    (hrest : EndsNumber rest) :
  readNumber (s.toList ++ rest) = some (s, rest)
  := by
  have hstop : rest.takeWhile isNumberChar = [] ∧ rest.dropWhile isNumberChar = rest := by
    cases rest with
    | nil => exact ⟨rfl, rfl⟩
    | cons c rest =>
      have hc := hrest c rfl
      simp [hc]
  have htoken : (s.toList ++ rest).takeWhile isNumberChar = s.toList := by
    rw [List.takeWhile_append_of_pos h.isNumberChar_of_mem, hstop.1, List.append_nil]
  have hdrop : (s.toList ++ rest).dropWhile isNumberChar = rest := by
    rw [List.dropWhile_append_of_pos h.isNumberChar_of_mem, hstop.2]
  unfold readNumber
  split
  · rename_i hnil
    rw [htoken, String.toList_eq_nil_iff] at hnil
    cases h.ne_empty hnil
  · rw [htoken, hdrop, String.ofList_toList]

theorem readValue_of_isNumberChar {c : Char} (h : isNumberChar c = true) (fuel : Nat)
    (cs : List Char) :
  readValue (fuel + 1) (c :: cs)
    = (readNumber (c :: cs)).map fun (token, rest) => (number token, rest)
  := by
  have hc (d : Char) (hd : isNumberChar d = false) : c ≠ d := by
    rintro rfl
    rw [h] at hd
    cases hd
  rw [readValue]
  · intro cs hquote
    cases hc '"' rfl (List.cons.inj hquote).1
  · intro cs hbracket
    cases hc '[' rfl (List.cons.inj hbracket).1
  · intro cs hbrace
    cases hc '\x7b' rfl (List.cons.inj hbrace).1

/-- No document begins where an array ends. -/
theorem readValue_bracket (fuel : Nat) :
  readValue fuel [] = none ∧ ∀ cs, readValue fuel (']' :: cs) = none
  := by
  cases fuel with
  | zero => exact ⟨rfl, fun _ => rfl⟩
  | succ fuel => exact ⟨rfl, fun _ => rfl⟩

theorem reads_number {s : String} (h : IsNumber s) :
  Reads s (number s)
  := by
  intro fuel hfuel rest hrest
  have hnumber := h.readNumber_eq hrest
  have hchars := h.isNumberChar_of_mem
  have hlength : s.toList.length ≤ fuel := hfuel
  cases hs : s.toList with
  | nil => cases h.ne_empty (String.toList_eq_nil_iff.mp hs)
  | cons c cs =>
    rw [hs] at hnumber hchars hlength
    cases fuel with
    | zero => cases hlength
    | succ fuel =>
      rw [List.cons_append] at hnumber
      rw [List.cons_append, readValue_of_isNumberChar (hchars c List.mem_cons_self), hnumber]
      rfl

/-! ### Items -/

section

variable {α : Type} {item : Reader α} {close : Char} {ss : List String} {as : List α}

theorem toList_intercalate_cons (s : String) (ss : List String) :
  (", ".intercalate (s :: ss)).toList = s.toList ++ ss.flatMap fun s => ',' :: ' ' :: s.toList
  := by
  induction ss generalizing s with
  | nil => simp
  | cons t ss ih =>
    rw [String.intercalate_cons_cons, String.toList_append, String.toList_append, ih]
    simp

theorem length_le_flatMap (ss : List String) :
  ss.length ≤ (ss.flatMap fun s => ',' :: ' ' :: s.toList).length
  := by
  induction ss with
  | nil => exact le_rfl
  | cons s ss ih =>
    rw [List.flatMap_cons, List.length_append, List.length_cons, List.length_cons, List.length_cons]
    omega

theorem endsNumber_more (hclose : isNumberChar close = false) (ss : List String)
    (rest : List Char) :
  EndsNumber ((ss.flatMap fun s => ',' :: ' ' :: s.toList) ++ close :: rest)
  := by
  intro c hc
  cases ss with
  | nil =>
    obtain rfl := Option.some.inj hc
    apply hclose
  | cons s ss =>
    obtain rfl := Option.some.inj hc
    decide

theorem readMore_eq (hclose : isNumberChar close = false ∧ close ≠ ',')
    (h : List.Forall₂ (ReadBy item) ss as) {fuel : Nat} (hfuel : ss.length < fuel)
    (rest : List Char) :
  readMore item close fuel ((ss.flatMap fun s => ',' :: ' ' :: s.toList) ++ close :: rest)
    = some (as, rest)
  := by
  induction h generalizing fuel with
  | nil =>
    cases fuel with
    | zero => cases hfuel
    | succ fuel => simp [readMore, hclose.2]
  | cons ha h ih =>
    cases fuel with
    | zero => cases hfuel
    | succ fuel =>
      rw [List.flatMap_cons, List.append_assoc, List.cons_append, List.cons_append]
      simp only [readMore, ha _ (endsNumber_more hclose.1 _ rest), Option.bind_eq_bind,
        Option.bind_some, ih (Nat.lt_of_succ_lt_succ hfuel), Option.map_some]

/-- Items between commas are read in order. -/
theorem readItems_eq (hclose : isNumberChar close = false ∧ close ≠ ',')
    (hitem : item [] = none ∧ ∀ cs, item (close :: cs) = none)
    (h : List.Forall₂ (ReadBy item) ss as) {fuel : Nat}
    (hfuel : (", ".intercalate ss).length < fuel) (rest : List Char) :
  readItems item close fuel ((", ".intercalate ss).toList ++ close :: rest) = some (as, rest)
  := by
  cases h with
  | nil => simp [readItems]
  | @cons s a ss as ha h =>
    have hread := ha _ (endsNumber_more hclose.1 ss rest)
    have hlength := length_le_flatMap ss
    rw [← String.length_toList, toList_intercalate_cons, List.length_append] at hfuel
    rw [toList_intercalate_cons, List.append_assoc]
    cases hs : s.toList with
    | nil =>
      have hempty := ha [] (by simp [EndsNumber])
      rw [hs, List.nil_append, hitem.1] at hempty
      cases hempty
    | cons c cs =>
      have hc : c ≠ close := by
        rintro rfl
        rw [hs, List.cons_append, hitem.2] at hread
        cases hread
      rw [hs, List.cons_append] at hread
      simp only [List.cons_append, readItems, if_neg hc, hread, Option.bind_eq_bind,
        Option.bind_some, readMore_eq hclose h (by omega : ss.length < fuel), Option.map_some]

end

theorem readBy_field {value : Reader Document} {s : String} {d : Document} (h : ReadBy value s d)
    (name : String) :
  ReadBy (readField value) (jsonQuoted name ++ ": " ++ s) (name, d)
  := by
  intro rest hrest
  have hname : (jsonQuoted name ++ ": " ++ s).toList ++ rest
      = '"' :: (name.toList.flatMap jsonEscape ++ '"' :: ':' :: ' ' :: (s.toList ++ rest)) := by
    simp [jsonQuoted]
  rw [hname]
  simp only [readField, readText_jsonQuoted, Option.bind_eq_bind, Option.bind_some, h rest hrest,
    Option.map_some]

end Document

end ClippedCylinder
