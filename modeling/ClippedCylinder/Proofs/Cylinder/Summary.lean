import Mathlib
import ClippedCylinder.Cylinder.Summary
import ClippedCylinder.Proofs.Text.Document

/-!
# Summaries are documents on single lines

`Document.Writes s d` says that a text is a single line that is read as a JSON document.  The
summary of a cylinder writes the document with the fields that are listed in `Cylinder.document`,
whatever the type name of the cylinder is (`Cylinder.writes_summary`): characters that could break
a line are escaped by their hexadecimal digits, and numbers consist of digits, signs and letters.
-/

namespace ClippedCylinder

open Text Document

/-! ### Digits -/

namespace Document

theorem isVisible_of_isNumberChar {c : Char} (h : isNumberChar c = true) :
  IsVisible c
  := by
  have hrange (low high : Char) (hrange : 32 ≤ low.toNat ∧ high.toNat < 127)
      (h : low.val ≤ c.val ∧ c.val ≤ high.val) : IsVisible c := by
    have hlow : low.toNat ≤ c.toNat := h.1
    have hhigh : c.toNat ≤ high.toNat := h.2
    exact ⟨hrange.1.trans hlow, hhigh.trans_lt hrange.2⟩
  simp only [isNumberChar, Char.isAlphanum, Char.isAlpha, Char.isUpper, Char.isLower, Char.isDigit,
    Bool.or_eq_true, Bool.and_eq_true, decide_eq_true_eq] at h
  rcases h with ((((h | h) | h) | rfl) | rfl) | rfl
  · apply hrange 'A' 'Z' (by decide) h
  · apply hrange 'a' 'z' (by decide) h
  · apply hrange '0' '9' (by decide) h
  all_goals decide

theorem isNumberChar_digitChar :
  ∀ n < 16, isNumberChar (Nat.digitChar n) = true
  := by
  decide

theorem isNumberChar_of_mem_toDigits {base n : Nat} (hbase : 1 < base) (hle : base ≤ 16) {c : Char}
    (h : c ∈ Nat.toDigits base n) :
  isNumberChar c = true
  := by
  induction n using Nat.strongRecOn with
  | ind n ih =>
    by_cases hn : n < base
    · rw [Nat.toDigits_of_lt_base hn, List.mem_singleton] at h
      rw [h]
      apply isNumberChar_digitChar n (by omega)
    · rw [Nat.toDigits_of_base_le hbase (Nat.not_lt.mp hn), List.mem_append,
        List.mem_singleton] at h
      rcases h with h | rfl
      · apply ih _ (Nat.div_lt_self (by omega) hbase) h
      · have hlt := Nat.mod_lt n (Nat.zero_lt_of_lt hbase)
        apply isNumberChar_digitChar _ (by omega)

theorem IsNumber.isLine {s : String} (h : IsNumber s) :
  IsLine s
  := by
  intro c hc
  apply isVisible_of_isNumberChar (h.isNumberChar_of_mem c hc)

end Document

/-! ### Quoted texts -/

theorem Text.isVisible_of_mem_hex {width n : Nat} {c : Char} (h : c ∈ hex width n) :
  IsVisible c
  := by
  rw [hex, List.mem_append] at h
  rcases h with h | h
  · rw [List.eq_of_mem_replicate h]
    decide
  · apply isVisible_of_isNumberChar (isNumberChar_of_mem_toDigits (by decide) (by decide) h)

theorem Text.isVisible_of_mem_jsonEscape {c d : Char} (h : d ∈ jsonEscape c) :
  IsVisible d
  := by
  rcases jsonEscape_cases c with ⟨e, -, he, -, hc⟩ | ⟨hvisible, -, -, hc⟩ | hc
  · rw [hc, List.mem_cons, List.mem_singleton] at h
    rcases h with rfl | rfl
    · decide
    · apply he
  · rw [hc, List.mem_singleton] at h
    rw [h]
    apply hvisible
  · rw [hc, List.mem_flatMap] at h
    obtain ⟨u, -, h⟩ := h
    rw [List.mem_cons, List.mem_cons] at h
    rcases h with rfl | rfl | h
    · decide
    · decide
    · apply isVisible_of_mem_hex h

theorem Text.isLine_jsonQuoted (s : String) :
  IsLine (jsonQuoted s)
  := by
  intro c hc
  rw [jsonQuoted, String.toList_ofList, List.cons_append, List.mem_cons, List.mem_append,
    List.mem_singleton] at hc
  rcases hc with rfl | hc | rfl
  · decide
  · obtain ⟨d, -, hc⟩ := List.mem_flatMap.mp hc
    apply isVisible_of_mem_jsonEscape hc
  · decide

/-! ### Written documents -/

/-- The text is a single line that is read as the document. -/
structure Document.Writes (s : String) (d : Document) : Prop where
  isLine : IsLine s
  reads : Reads s d

theorem Document.writes_jsonQuoted (s : String) :
  Writes (jsonQuoted s) (.text s)
  := ⟨isLine_jsonQuoted s, reads_jsonQuoted s⟩

theorem Document.writes_number {s : String} (h : IsNumber s) :
  Writes s (.number s)
  := ⟨h.isLine, reads_number h⟩

theorem Text.length_le_intercalate {s : String} {ss : List String} (h : s ∈ ss) :
  s.length ≤ (", ".intercalate ss).length
  := by
  induction ss with
  | nil => cases h
  | cons t ss ih =>
    cases ss with
    | nil => rw [List.mem_singleton.mp h, String.intercalate_singleton]
    | cons u ss =>
      rw [String.intercalate_cons_cons, String.length_append, String.length_append]
      rcases List.mem_cons.mp h with rfl | h
      · omega
      · have hle := ih h
        omega

/-- Texts with commas between two marks. -/
def Text.between (first last : Char) (ss : List String) : String :=
  String.ofList (first :: ((", ".intercalate ss).toList ++ [last]))

theorem Text.isLine_between {first last : Char} (hmarks : IsVisible first ∧ IsVisible last)
    {ss : List String} (h : ∀ s ∈ ss, IsLine s) :
  IsLine (between first last ss)
  := by
  have hcomma : IsLine ", " := by decide
  intro c hc
  rw [between, String.toList_ofList, List.mem_cons, List.mem_append, List.mem_singleton] at hc
  rcases hc with rfl | hc | rfl
  · apply hmarks.1
  · apply hcomma.intercalate h c hc
  · apply hmarks.2

theorem Text.length_between (first last : Char) (ss : List String) :
  (between first last ss).length = (", ".intercalate ss).length + 2
  := by
  rw [between, String.length_ofList, List.length_cons, List.length_append, String.length_toList]
  rfl

theorem Text.toList_between_append (first last : Char) (ss : List String) (rest : List Char) :
  (between first last ss).toList ++ rest
    = first :: ((", ".intercalate ss).toList ++ last :: rest)
  := by
  simp [between]

/-- Items between two marks are read in order if each is read with the fuel that is left. -/
theorem Document.readItems_between {α : Type} {item : Reader α} {first last : Char}
    (hlast : isNumberChar last = false ∧ last ≠ ',')
    (hitem : item [] = none ∧ ∀ cs, item (last :: cs) = none) {ss : List String} {as : List α}
    {fuel : Nat} (h : List.Forall₂ (fun s a => s.length ≤ fuel → ReadBy item s a) ss as)
    (hfuel : (between first last ss).length ≤ fuel + 1) (rest : List Char) :
  readItems item last fuel ((", ".intercalate ss).toList ++ last :: rest) = some (as, rest)
  := by
  rw [length_between] at hfuel
  have hlength : ∀ s ∈ ss, s.length ≤ fuel := by
    intro s hs
    have hle := length_le_intercalate hs
    omega
  have hitems : List.Forall₂ (ReadBy item) ss as :=
    ((List.forall₂_and_left _ _).mpr ⟨hlength, h⟩).imp fun s a hs => hs.2 hs.1
  apply readItems_eq hlast hitem hitems (by omega)

namespace Summary

theorem array_eq (items : List String) :
  array items = between '[' ']' items
  := by
  simp [array, between, ← String.toList_inj]

/-- How a field of an object is written. -/
def fieldText (name value : String) : String :=
  jsonQuoted name ++ ": " ++ value

theorem object_eq (fields : List (String × String)) :
  object fields = between '\x7b' '\x7d' (fields.map fun field => fieldText field.1 field.2)
  := by
  simp [object, between, fieldText, ← String.toList_inj]

theorem writes_array {ss : List String} {ds : List Document} (h : List.Forall₂ Writes ss ds) :
  Writes (array ss) (.array ds)
  := by
  obtain ⟨hline, hreads⟩ :=
    (List.forall₂_and_left _ _).mp (h.imp fun s d hs => ⟨hs.isLine, hs.reads⟩)
  rw [array_eq]
  constructor
  · apply isLine_between (by decide) hline
  · intro fuel hfuel rest _
    cases fuel with
    | zero => simp [length_between] at hfuel
    | succ fuel =>
      have hitems := hreads.imp fun s d (hs : Reads s d) => hs fuel
      rw [toList_between_append, readValue,
        readItems_between (by decide) (readValue_bracket fuel) hitems hfuel]
      rfl

theorem writes_map {α : Type} {f : α → String} {g : α → Document} (h : ∀ a, Writes (f a) (g a))
    (as : List α) :
  Writes (array (as.map f)) (.array (as.map g))
  := by
  apply writes_array
  rw [List.forall₂_map_left_iff, List.forall₂_map_right_iff, List.forall₂_same]
  intro a _
  apply h

/-- The fields are those that are written, in the same order. -/
def WritesFields (fields : List (String × String)) (ds : List (String × Document)) : Prop :=
  List.Forall₂ (fun field d => field.1 = d.1 ∧ Writes field.2 d.2) fields ds

theorem writes_object {fields : List (String × String)} {ds : List (String × Document)}
    (h : WritesFields fields ds) :
  Writes (object fields) (.object ds)
  := by
  have hfields : List.Forall₂
      (fun text d => IsLine text ∧ ∃ s, text = fieldText d.1 s ∧ Reads s d.2)
      (fields.map fun field => fieldText field.1 field.2) ds := by
    rw [List.forall₂_map_left_iff]
    apply h.imp
    rintro ⟨name, s⟩ ⟨_, d⟩ ⟨rfl, hs⟩
    have hmark : IsLine ": " := by decide
    exact ⟨((isLine_jsonQuoted name).append hmark).append hs.isLine, s, rfl, hs.reads⟩
  obtain ⟨hline, hreads⟩ := (List.forall₂_and_left _ _).mp hfields
  rw [object_eq]
  constructor
  · apply isLine_between (by decide) hline
  · intro fuel hfuel rest _
    cases fuel with
    | zero => simp [length_between] at hfuel
    | succ fuel =>
      have hitems : List.Forall₂
          (fun text d => text.length ≤ fuel → ReadBy (readField (readValue fuel)) text d)
          (fields.map fun field => fieldText field.1 field.2) ds := by
        apply hreads.imp
        rintro _ ⟨name, d⟩ ⟨s, rfl, hs⟩ hle
        rw [fieldText, String.length_append] at hle
        apply readBy_field (hs fuel (by omega))
      rw [toList_between_append, readValue,
        readItems_between (by decide) ⟨rfl, fun _ => rfl⟩ hitems hfuel]
      rfl

end Summary

/-! ### Summaries -/

namespace Document

variable (number : Float → String)

/-- Numbers as an array. -/
def ofNumbers (xs : List Float) : Document :=
  .array (xs.map fun x => .number (number x))

/-- A plane as an object. -/
def ofPlane (plane : Plane Float) : Document :=
  .object
    [("anchor", ofNumbers number [plane.anchor.x, plane.anchor.y, plane.anchor.z]),
      ("normal", ofNumbers number [plane.normal.x, plane.normal.y, plane.normal.z])]

/-- An affine map as an object; the linear part is given by its rows. -/
def ofMap (t : AffineMap Float) : Document :=
  .object
    [("linear", .array (t.linear.rows.map fun row => ofNumbers number [row.x, row.y, row.z])),
      ("translation", ofNumbers number [t.shift.x, t.shift.y, t.shift.z])]

end Document

/-- The document that describes a cylinder. -/
def Cylinder.document (number : Float → String) (c : Cylinder Float) : Document :=
  .object
    [("kind", .text c.kind.name),
      ("type_name", .text c.typeName),
      ("origin", ofNumbers number [c.spec.origin.x, c.spec.origin.y, c.spec.origin.z]),
      ("axis", ofNumbers number [c.spec.axis.x, c.spec.axis.y, c.spec.axis.z]),
      ("dx", .number (number c.spec.dx)),
      ("dy", .number (number c.spec.dy)),
      ("dz", .number (number c.spec.dz)),
      ("transform", ofMap number c.placement),
      ("bounds", .array (c.bounds.map fun h => ofPlane number h.boundary))]

section

variable {number : Float → String} (hnumber : ∀ x, IsNumber (number x))

include hnumber

namespace Summary

theorem writes_numbers (xs : List Float) :
  Writes (array (xs.map number)) (ofNumbers number xs)
  := writes_map (fun x => writes_number (hnumber x)) xs

theorem writes_ofPlane (plane : Plane Float) :
  Writes (ofPlane number plane) (.ofPlane number plane)
  := by
  apply writes_object
  exact .cons ⟨rfl, writes_numbers hnumber _⟩ (.cons ⟨rfl, writes_numbers hnumber _⟩ .nil)

theorem writes_ofMap (t : AffineMap Float) :
  Writes (ofMap number t) (.ofMap number t)
  := by
  have hlinear :=
    writes_map (fun row : Vec3 Float => writes_numbers hnumber row.toList) t.linear.rows
  apply writes_object
  exact .cons ⟨rfl, hlinear⟩ (.cons ⟨rfl, writes_numbers hnumber _⟩ .nil)

end Summary

open Summary in
/-- The summary of a cylinder is the document that describes it, on a single line. -/
theorem Cylinder.writes_summary (c : Cylinder Float) :
  Writes (c.summary number) (c.document number)
  := by
  have hbounds := writes_map (fun h : HalfSpace Float => writes_ofPlane hnumber h.boundary) c.bounds
  apply writes_object
  refine .cons ⟨rfl, writes_jsonQuoted _⟩ ?_
  refine .cons ⟨rfl, writes_jsonQuoted _⟩ ?_
  refine .cons ⟨rfl, writes_numbers hnumber _⟩ ?_
  refine .cons ⟨rfl, writes_numbers hnumber _⟩ ?_
  refine .cons ⟨rfl, writes_number (hnumber _)⟩ ?_
  refine .cons ⟨rfl, writes_number (hnumber _)⟩ ?_
  refine .cons ⟨rfl, writes_number (hnumber _)⟩ ?_
  refine .cons ⟨rfl, writes_ofMap hnumber _⟩ ?_
  exact .cons ⟨rfl, hbounds⟩ .nil

end

end ClippedCylinder
