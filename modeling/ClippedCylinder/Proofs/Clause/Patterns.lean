import Mathlib.Data.List.Forall2
import Mathlib.Data.List.Nodup
import Mathlib.Data.List.TakeWhile
import ClippedCylinder.Clause.Classify
import ClippedCylinder.Proofs.Text.Pattern

/-!
# The patterns of clauses

What is known of a text that one of the patterns has read is `ClauseForm.IsReadFrom`.  How a text
begins, and whether it has a comparator, tells which kind of clause it can be (`leadingKind`), so no
two patterns read the same text, and the order in which they are tried does not matter
(`Clause.classify_of_perm`).
-/

namespace ClippedCylinder

open Text

/-! ### Tables -/

section

variable {α β κ : Type}

/-- If what passes a test belongs to one key, no more pass than the key occurs. -/
theorem countP_le_count_of_forall₂ [DecidableEq κ] {key : κ} {test : β → Bool} {keys : List κ}
    {bs : List β} (h : List.Forall₂ (fun k b => test b = true → k = key) keys bs) :
  bs.countP test ≤ keys.count key
  := by
  induction h with
  | nil => simp
  | @cons k b keys bs hb h ih =>
    rw [List.countP_cons, List.count_cons]
    cases htest : test b with
    | false => simpa using Nat.le_add_right_of_le ih
    | true =>
      obtain rfl := hb htest
      simpa using ih

theorem exists_of_forall₂_of_mem {R : κ → β → Prop} {keys : List κ} {bs : List β} {b : β}
    (h : List.Forall₂ R keys bs) (hb : b ∈ bs) :
  ∃ k, R k b
  := by
  induction h with
  | nil => cases hb
  | cons hk h ih =>
    rcases List.mem_cons.mp hb with rfl | hb
    · exact ⟨_, hk⟩
    · apply ih hb

/-- The order of a table does not matter where it has at most one entry. -/
theorem findSome?_of_perm {f : β → Option α} {bs bs' : List β} (hperm : bs.Perm bs')
    (hone : bs'.countP (fun b => (f b).isSome) ≤ 1) :
  bs.findSome? f = bs'.findSome? f
  := by
  have hentries : (bs.filterMap f).Perm (bs'.filterMap f) := hperm.filterMap f
  rw [← List.length_filterMap_eq_countP] at hone
  rw [← List.head?_filterMap, ← List.head?_filterMap]
  cases hbs' : bs'.filterMap f with
  | nil =>
    rw [hbs'] at hentries
    rw [hentries.eq_nil]
  | cons a as =>
    rw [hbs', List.length_cons] at hone
    obtain rfl : as = [] := List.length_eq_zero_iff.mp (by omega)
    rw [hbs'] at hentries
    rw [hentries.eq_singleton]

end

theorem Coordinate.eq_of_ofChar? {c : Char} {k : Coordinate} (h : ofChar? c = some k) :
  [c] = k.name.toList
  := by
  unfold ofChar? at h
  split at h
  · cases h
    rfl
  · cases h
    rfl
  · cases h
    rfl
  · cases h

namespace ClauseForm

/-! ### Parts of patterns that have been read -/

variable {cs : List Char} {form : ClauseForm}

theorem exists_of_assigned {value : Pattern (List Char)} {v : String}
    (h : assigned value cs = some v) :
  ∃ gap gap' rest content, cs = gap ++ '=' :: (gap' ++ rest) ∧ (∀ c ∈ gap, isBlank c = true) ∧
    (∀ c ∈ gap', isBlank c = true) ∧ value rest = some content ∧ v = valueText content
  := by
  obtain ⟨content, hcontent, rfl⟩ := Option.map_eq_some_iff.mp h
  obtain ⟨gap, rest, rfl, hgap, hequals⟩ := Pattern.exists_of_blanks hcontent
  obtain ⟨rest, rfl, hblanks⟩ := Pattern.exists_of_char hequals
  obtain ⟨gap', rest, rfl, hgap', hvalue⟩ := Pattern.exists_of_blanks hblanks
  exact ⟨gap, gap', rest, content, rfl, hgap, hgap', hvalue, rfl⟩

theorem exists_of_enclosed {v : String} (h : enclosed cs = some v) :
  ∃ content, ('\n' ∉ content ∧ ∃ ds, content = '(' :: (ds ++ [')'])) ∧ v = valueText content
  := by
  obtain ⟨content, hcontent, rfl⟩ := Option.map_eq_some_iff.mp h
  obtain ⟨-, rest, -, -, hequals⟩ := Pattern.exists_of_blanks hcontent
  have hblanks : ∃ rest, Pattern.blanks Pattern.parenthesized rest = some content := by
    rcases Pattern.exists_of_optional hequals with ⟨rest, -, hrest⟩ | hrest
    · exact ⟨rest, hrest⟩
    · exact ⟨_, hrest⟩
  obtain ⟨rest, hrest⟩ := hblanks
  obtain ⟨-, rest, -, -, hparens⟩ := Pattern.exists_of_blanks hrest
  exact ⟨content, ⟨Pattern.notMem_of_parenthesized hparens,
    Pattern.exists_of_parenthesized hparens⟩, rfl⟩

theorem exists_of_compared {α : Type} {next : Comparator → Pattern α} {a : α}
    (h : compared next cs = some a) :
  ∃ comparator rest, cs = comparator.chars ++ rest ∧ next comparator rest = some a
  := by
  unfold compared at h
  split at h
  · rcases Pattern.exists_of_optional h with ⟨rest, rfl, hrest⟩ | hrest
    · exact ⟨.le, rest, rfl, hrest⟩
    · exact ⟨.lt, _, rfl, hrest⟩
  · rcases Pattern.exists_of_optional h with ⟨rest, rfl, hrest⟩ | hrest
    · exact ⟨.ge, rest, rfl, hrest⟩
    · exact ⟨.gt, _, rfl, hrest⟩
  · cases h

/-! ### Forms that have been read -/

/-- What is known of a text that a form is read from: how it begins, and what its value is. -/
inductive IsReadFrom : ClauseForm → List Char → Prop where
  | origin (k : Coordinate) {gap cs content : List Char} (hgap : ∀ c ∈ gap, isBlank c = true)
      (hcontent : '\n' ∉ content) :
      IsReadFrom (.origin k (valueText content)) (k.name.toList ++ (gap ++ '=' :: cs))
  | halfExtent (k : Lateral) {cs content : List Char} (hcontent : '\n' ∉ content) :
      IsReadFrom (.halfExtent k (valueText content)) ('d' :: cs)
  | radius {cs content : List Char} (hcs : ∀ c ∈ cs, c ≠ '<' ∧ c ≠ '>')
      (hcontent : ∀ c ∈ content, c ≠ '<' ∧ c ≠ '>') :
      IsReadFrom (.radius (valueText content)) ('r' :: cs)
  | length {cs content : List Char} (hcontent : '\n' ∉ content) :
      IsReadFrom (.length (valueText content)) ('l' :: cs)
  | axis {cs content : List Char} (hcontent : '\n' ∉ content)
      (hparens : ∃ ds, content = '(' :: (ds ++ [')'])) :
      IsReadFrom (.axis (valueText content)) ('a' :: 'x' :: cs)
  | radialBound (comparator : Comparator) {cs : List Char}
      (hcs : firstComparator? cs = some comparator) :
      IsReadFrom (.radialBound comparator (String.ofList ('r' :: cs))) ('r' :: cs)
  | frame (k : Lateral) {cs content : List Char} (hcontent : '\n' ∉ content)
      (hparens : ∃ ds, content = '(' :: (ds ++ [')'])) :
      IsReadFrom (.frame k (valueText content)) ('a' :: '_' :: cs)
  | axisBound (k : Coordinate) (comparator : Comparator) {gap cs content : List Char}
      (hgap : ∀ c ∈ gap, isBlank c = true) (hcontent : '\n' ∉ content) :
      IsReadFrom (.axisBound k comparator (valueText content))
        (k.name.toList ++ (gap ++ (comparator.chars ++ cs)))

theorem isReadFrom_origin (h : origin? cs = some form) :
  form.kind = .origin ∧ form.IsReadFrom cs
  := by
  cases cs with
  | nil => cases h
  | cons c cs =>
    obtain ⟨k, hk, h⟩ := Option.bind_eq_some_iff.mp h
    obtain ⟨v, hv, h⟩ := Option.bind_eq_some_iff.mp h
    obtain ⟨gap, gap', rest, content, rfl, hgap, -, hcontent, rfl⟩ := exists_of_assigned hv
    obtain rfl := Option.some.inj h
    refine ⟨rfl, ?_⟩
    rw [← List.singleton_append, Coordinate.eq_of_ofChar? hk]
    exact .origin k hgap (Pattern.notMem_of_line hcontent)

theorem isReadFrom_halfExtent (h : halfExtent? cs = some form) :
  form.kind = .halfExtent ∧ form.IsReadFrom cs
  := by
  unfold halfExtent? at h
  split at h
  · obtain ⟨k, hk, h⟩ := Option.bind_eq_some_iff.mp h
    obtain ⟨v, hv, h⟩ := Option.bind_eq_some_iff.mp h
    obtain ⟨_, _, _, content, _, _, _, hcontent, rfl⟩ := exists_of_assigned hv
    obtain rfl := Option.some.inj h
    exact ⟨rfl, .halfExtent k (Pattern.notMem_of_line hcontent)⟩
  · cases h

theorem isReadFrom_radius (h : radius? cs = some form) :
  form.kind = .radius ∧ form.IsReadFrom cs
  := by
  obtain ⟨v, hv, rfl⟩ := Option.map_eq_some_iff.mp h
  obtain ⟨rest, rfl, hrest⟩ := Pattern.exists_of_char hv
  obtain ⟨gap, gap', rest, content, rfl, hgap, hgap', hcontent, rfl⟩ := exists_of_assigned hrest
  obtain ⟨rfl, hnone⟩ := Pattern.eq_of_without hcontent
  have hblank (c : Char) (hc : isBlank c = true) : c ≠ '<' ∧ c ≠ '>' := by
    constructor
    · rintro rfl
      cases hc
    · rintro rfl
      cases hc
  have hvalue : ∀ c ∈ content, c ≠ '<' ∧ c ≠ '>' := by simpa using hnone
  refine ⟨rfl, .radius ?_ hvalue⟩
  simp only [List.mem_append, List.mem_cons]
  rintro c (hc | rfl | hc | hc)
  · apply hblank c (hgap c hc)
  · decide
  · apply hblank c (hgap' c hc)
  · apply hvalue c hc

theorem isReadFrom_length (h : length? cs = some form) :
  form.kind = .length ∧ form.IsReadFrom cs
  := by
  obtain ⟨v, hv, rfl⟩ := Option.map_eq_some_iff.mp h
  obtain ⟨rest, rfl, hrest⟩ := Pattern.exists_of_char hv
  obtain ⟨_, _, _, content, _, _, _, hcontent, rfl⟩ := exists_of_assigned hrest
  exact ⟨rfl, .length (Pattern.notMem_of_line hcontent)⟩

theorem isReadFrom_axis (h : axis? cs = some form) :
  form.kind = .axis ∧ form.IsReadFrom cs
  := by
  obtain ⟨v, hv, rfl⟩ := Option.map_eq_some_iff.mp h
  obtain ⟨rest, rfl, hrest⟩ := Pattern.exists_of_keyword hv
  obtain ⟨content, ⟨hcontent, hparens⟩, rfl⟩ := exists_of_enclosed hrest
  exact ⟨rfl, .axis hcontent hparens⟩

theorem isReadFrom_radialBound (h : radialBound? cs = some form) :
  form.kind = .radialBound ∧ form.IsReadFrom cs
  := by
  unfold radialBound? at h
  split at h
  · split at h
    · obtain ⟨comparator, hcomparator, rfl⟩ := Option.map_eq_some_iff.mp h
      exact ⟨rfl, .radialBound comparator hcomparator⟩
    · cases h
  · cases h

theorem isReadFrom_frame (h : frame? cs = some form) :
  form.kind = .frame ∧ form.IsReadFrom cs
  := by
  unfold frame? at h
  split at h
  · obtain ⟨k, hk, h⟩ := Option.bind_eq_some_iff.mp h
    obtain ⟨v, hv, h⟩ := Option.bind_eq_some_iff.mp h
    obtain ⟨content, ⟨hcontent, hparens⟩, rfl⟩ := exists_of_enclosed hv
    obtain rfl := Option.some.inj h
    exact ⟨rfl, .frame k hcontent hparens⟩
  · cases h

theorem isReadFrom_axisBound (h : axisBound? cs = some form) :
  form.kind = .axisBound ∧ form.IsReadFrom cs
  := by
  cases cs with
  | nil => cases h
  | cons c cs =>
    obtain ⟨k, hk, h⟩ := Option.bind_eq_some_iff.mp h
    obtain ⟨gap, rest, rfl, hgap, hcompared⟩ := Pattern.exists_of_blanks h
    obtain ⟨comparator, rest, rfl, hblanks⟩ := exists_of_compared hcompared
    obtain ⟨-, rest', -, -, hvalue⟩ := Pattern.exists_of_blanks hblanks
    obtain ⟨content, hcontent, rfl⟩ := Option.map_eq_some_iff.mp hvalue
    refine ⟨rfl, ?_⟩
    rw [← List.singleton_append, Coordinate.eq_of_ofChar? hk]
    exact .axisBound k comparator hgap (Pattern.notMem_of_nonemptyLine hcontent)

/-! ### Kinds -/

/-- The kind that a clause can have at most, as its first characters tell, and for some clauses
the first sign after them. -/
def leadingKind : List Char → ClauseKind
  | 'd' :: _ => .halfExtent
  | 'l' :: _ => .length
  | 'a' :: '_' :: _ => .frame
  | 'a' :: _ => .axis
  | 'r' :: cs => if cs.any fun c => c == '<' || c == '>' then .radialBound else .radius
  | _ :: cs => if (cs.dropWhile isBlank).head? = some '=' then .origin else .axisBound
  | [] => .unknown

/-- A form is of the kind that its text tells. -/
theorem IsReadFrom.kind_eq (h : form.IsReadFrom cs) :
  form.kind = leadingKind cs
  := by
  cases h with
  | @origin k gap cs content hgap _ =>
    have hsign : ((gap ++ '=' :: cs).dropWhile isBlank).head? = some '=' := by
      rw [List.dropWhile_append_of_pos hgap]
      rfl
    cases k <;> simp [kind, leadingKind, Coordinate.name, hsign]
  | halfExtent => rfl
  | @radius cs content hcs _ =>
    have hnone : cs.any (fun c => c == '<' || c == '>') = false := by
      rw [List.any_eq_false]
      intro c hc
      simpa using hcs c hc
    simp [kind, leadingKind, hnone]
  | length => rfl
  | axis => rfl
  | @radialBound comparator cs hcs =>
    have hsome : cs.any (fun c => c == '<' || c == '>') = true := by
      by_contra hnone
      have hdrop : cs.dropWhile (fun c => c != '<' && c != '>') = [] := by
        rw [List.dropWhile_eq_nil_iff]
        simpa using hnone
      rw [firstComparator?, hdrop] at hcs
      cases hcs
    simp [kind, leadingKind, hsome]
  | frame => rfl
  | @axisBound k comparator gap cs content hgap _ =>
    have hsign : ((gap ++ (comparator.chars ++ cs)).dropWhile isBlank).head? ≠ some '=' := by
      rw [List.dropWhile_append_of_pos hgap]
      cases comparator <;> (intro h; cases h)
    cases k <;> simp [kind, leadingKind, Coordinate.name, hsign]

/-- The kinds of the forms, in the order of their patterns. -/
def kinds : List ClauseKind :=
  [.origin, .halfExtent, .radius, .length, .axis, .radialBound, .frame, .axisBound]

theorem nodup_kinds :
  kinds.Nodup
  := by
  decide

/-- Every pattern reads forms of its kind. -/
theorem forall₂_patterns :
  List.Forall₂ (fun kind pattern => ∀ cs form, pattern cs = some form →
    form.kind = kind ∧ form.IsReadFrom cs) kinds patterns
  :=
  .cons (fun _ _ => isReadFrom_origin) <| .cons (fun _ _ => isReadFrom_halfExtent) <|
    .cons (fun _ _ => isReadFrom_radius) <| .cons (fun _ _ => isReadFrom_length) <|
    .cons (fun _ _ => isReadFrom_axis) <| .cons (fun _ _ => isReadFrom_radialBound) <|
    .cons (fun _ _ => isReadFrom_frame) <| .cons (fun _ _ => isReadFrom_axisBound) .nil

theorem isReadFrom_of_ofChars? (h : ofChars? cs = some form) :
  form.IsReadFrom cs
  := by
  obtain ⟨pattern, hmem, hform⟩ := List.exists_of_findSome?_eq_some h
  obtain ⟨kind, hpattern⟩ := exists_of_forall₂_of_mem forall₂_patterns hmem
  apply (hpattern cs form hform).2

/-- At most one of the patterns reads a text. -/
theorem countP_patterns_le_one (cs : List Char) :
  patterns.countP (fun pattern => (pattern cs).isSome) ≤ 1
  := by
  have hkind : List.Forall₂ (fun kind pattern => (pattern cs).isSome = true → kind = leadingKind cs)
      kinds patterns := by
    apply forall₂_patterns.imp
    intro kind pattern hpattern hsome
    obtain ⟨form, hform⟩ := Option.isSome_iff_exists.mp hsome
    obtain ⟨rfl, hread⟩ := hpattern cs form hform
    apply hread.kind_eq
  apply Nat.le_trans (countP_le_count_of_forall₂ hkind)
  apply List.nodup_iff_count_le_one.mp nodup_kinds

end ClauseForm

/-! ### Orders of the patterns -/

/-- The clause with the given text, when the patterns are tried in the given order. -/
def Clause.classifyBy (patterns : List (Pattern ClauseForm)) (text : String) : Clause :=
  ⟨text, patterns.findSome? (· text.toList)⟩

/-- At most one of the patterns reads a clause, so it is recognised as the same in whatever order
they are tried. -/
theorem Clause.classify_of_perm (text : String) :
  ClauseForm.patterns.countP (fun pattern => (pattern text.toList).isSome) ≤ 1 ∧
    ∀ patterns, patterns.Perm ClauseForm.patterns → classifyBy patterns text = classify text
  := by
  have hone := ClauseForm.countP_patterns_le_one text.toList
  use hone
  intro patterns hperm
  rw [classifyBy, findSome?_of_perm hperm hone]
  rfl

theorem Clause.classify_of_perm_reverse :
  ClauseForm.patterns.reverse.Perm ClauseForm.patterns ∧
    classifyBy ClauseForm.patterns.reverse "r(1,0,0)<=1"
      = ⟨"r(1,0,0)<=1", some (.radialBound .le "r(1,0,0)<=1")⟩
  := by
  have hperm := List.reverse_perm ClauseForm.patterns
  use hperm
  rw [(classify_of_perm "r(1,0,0)<=1").2 _ hperm]
  decide

end ClippedCylinder
