import Mathlib
import ClippedCylinder.Proofs.Expression.Writing

/-!
# The longest tokens

How a text is cut into tokens when it is read as an expression.  Nothing is lost, and each token is
the longest one at its place: it contains every numeral and every name that stands there, and the
equals sign after a sign of comparison (`Token.LongestLayout`).  Single tokens are the longest by
the way they are read (`Token.isLongest_of_scanOne`).  That no word directly follows another one is
due to the grammar; with it every run of letters, digits, underscores and points belongs to one
token (`Token.LongestLayout.exists_token`).
-/

namespace ClippedCylinder

namespace Token

/-- The token is the longest one before the rest of a text. -/
structure IsLongest (t : Token) (rest : List Char) : Prop where
  /-- A numeral that stands at the place of the token is a part of it. -/
  numeral : ∀ cs, IsNumeral cs → cs <+: t.chars ++ rest → cs <+: t.chars
  /-- A name that stands at the place of the token is a part of it. -/
  name : ∀ text, isName text = true → text.toList <+: t.chars ++ rest → text.toList <+: t.chars
  /-- An equals sign after a comparator is a part of it. -/
  comparator : t.isComparator = true → ∀ c ∈ rest.head?, c ≠ '='
  /-- A word does not go on after its end. -/
  word : t.isWord = true → ∀ c ∈ rest.head?, isNamePart c = false ∧ c ≠ '.'

/-- The characters are those of the tokens, with gaps before, between and after them, and each token
is the longest one at its place. -/
inductive LongestLayout : List Token → List Char → Prop where
  | nil {gap : List Char} (hgap : ∀ c ∈ gap, isGap c = true) : LongestLayout [] gap
  | cons {gap rest : List Char} {t : Token} {ts : List Token}
      (hgap : ∀ c ∈ gap, isGap c = true) (ht : t.IsLexeme) (hlongest : t.IsLongest rest)
      (h : LongestLayout ts rest) : LongestLayout (t :: ts) (gap ++ (t.chars ++ rest))

/-! ### Single tokens -/

/-- A name that a text starts with is a part of the letters, digits and underscores there. -/
theorem isName_prefix_takeWhile {text : String} (h : isName text = true) {c : Char} {cs : List Char}
    (hbegins : text.toList <+: c :: cs) :
  isNameStart c = true ∧ text.toList <+: c :: cs.takeWhile isNamePart
  := by
  unfold isName at h
  split at h
  · cases h
  · rename_i d ds hds
    rw [Bool.and_eq_true, List.all_eq_true] at h
    rw [hds, List.cons_prefix_cons] at hbegins
    obtain ⟨rfl, rest, rfl⟩ := hbegins
    rw [hds, List.cons_prefix_cons, List.takeWhile_append_of_pos h.2]
    exact ⟨h.1, rfl, List.prefix_append _ _⟩

variable {cs rest : List Char} {t : Token}

/-- The token that is read contains every name that the text starts with. -/
theorem name_prefix_of_scanOne (h : scanOne cs = some (t, rest)) {text : String}
    (htext : isName text = true) (hbegins : text.toList <+: cs) :
  text.toList <+: t.chars
  := by
  cases cs with
  | nil => cases h
  | cons c cs =>
    obtain ⟨hstart, hword⟩ := isName_prefix_takeWhile htext hbegins
    rw [scanOne_of_not_mem_marks (not_mem_marks_of_isNameStart hstart), if_pos hstart] at h
    obtain ⟨rfl, -⟩ := h
    simpa [chars] using hword

/-- The token that is read contains every numeral that the text starts with. -/
theorem numeral_prefix_of_scanOne (h : scanOne cs = some (t, rest)) {ds : List Char}
    (hds : IsNumeral ds) (hbegins : ds <+: cs) :
  ds <+: t.chars
  := by
  obtain ⟨n, rfl⟩ := isNumeral_iff.mp hds
  obtain ⟨c, ds, hn, hhead⟩ := exists_numeral_chars_eq n
  obtain ⟨hmark, hstart⟩ := numeral_head hhead
  cases cs with
  | nil => cases h
  | cons d cs =>
    have hcs := hbegins
    rw [hn, List.cons_prefix_cons] at hcs
    obtain ⟨rfl, -⟩ := hcs
    rw [scanOne_of_not_mem_marks hmark, if_neg (by simp [hstart]), Option.map_eq_some_iff] at h
    obtain ⟨⟨m, rest⟩, hm, ⟨⟩⟩ := h
    apply Numeral.prefix_of_scan hm hbegins

/-- A token that is read is the longest one if what is left is laid out as tokens, of which the
first is no word after a word. -/
theorem isLongest_of_scanOne {ts : List Token} (h : scanOne cs = some (t, rest))
    (hrest : Layout ts rest) (hword : t.isWord = true → ∀ u ∈ ts.head?, u.isWord = false) :
  t.IsLongest rest
  := by
  obtain ⟨rfl, -⟩ := chars_append_of_scanOne h
  constructor
  · intro ds hds
    apply numeral_prefix_of_scanOne h hds
  · intro text htext
    apply name_prefix_of_scanOne h htext
  · intro _
    apply hrest.head_ne_equals
  · intro ht
    apply hrest.head_of_not_isWord (hword ht)

/-- The keyword of planes is the longest token where no word directly follows it. -/
theorem isLongest_radial (hrest : ∀ c ∈ rest.head?, isNamePart c = false ∧ c ≠ '.') :
  radial.IsLongest rest
  := by
  constructor
  · intro ds hds hbegins
    obtain ⟨n, rfl⟩ := isNumeral_iff.mp hds
    obtain ⟨c, ds, hn, hhead⟩ := exists_numeral_chars_eq n
    obtain ⟨-, hstart⟩ := numeral_head hhead
    rw [hn] at hbegins
    obtain ⟨rfl, -⟩ := List.cons_prefix_cons.mp hbegins
    cases hstart
  · intro text htext hbegins
    obtain ⟨-, hword⟩ := isName_prefix_takeWhile htext hbegins
    have hstop : rest.takeWhile isNamePart = [] := by
      cases rest with
      | nil => rfl
      | cons c rest => simp [(hrest c rfl).1]
    rw [List.append_eq, List.nil_append, hstop] at hword
    apply hword
  · nofun
  · intro _
    apply hrest

/-! ### Whole texts -/

theorem LongestLayout.layout {ts : List Token} (h : LongestLayout ts cs) :
  Layout ts cs
  := by
  induction h with
  | nil hgap => apply Layout.nil hgap
  | cons hgap ht hlongest h ih => apply Layout.cons hgap ht ih

theorem LongestLayout.gap_cons {ts : List Token} {c : Char} (hc : isGap c = true)
    (h : LongestLayout ts cs) :
  LongestLayout ts (c :: cs)
  := by
  cases h with
  | nil hgap => apply LongestLayout.nil (List.forall_mem_cons.mpr ⟨hc, hgap⟩)
  | cons hgap ht hlongest h =>
    apply LongestLayout.cons (List.forall_mem_cons.mpr ⟨hc, hgap⟩) ht hlongest h

theorem LongestLayout.token_append {ts : List Token} (ht : t.IsLexeme) (hlongest : t.IsLongest rest)
    (h : LongestLayout ts rest) :
  LongestLayout (t :: ts) (t.chars ++ rest)
  := by
  have hgap : ∀ c ∈ [], isGap c = true := nofun
  apply h.cons hgap ht hlongest

/-- Tokens that are read from a text, no word directly after another one, are the longest ones. -/
theorem longestLayout_of_scan {ts : List Token} (h : scan cs = some ts) (hts : IsSeparable ts) :
  LongestLayout ts cs
  := by
  fun_induction scan cs generalizing ts with
  | case1 =>
    obtain rfl := Option.some.inj h
    apply LongestLayout.nil
    simp
  | case2 c cs hc ih => apply (ih h hts).gap_cons hc
  | case3 => cases h
  | case4 c cs hc t rest hone hlt ih =>
    obtain ⟨us, hus, rfl⟩ := Option.map_eq_some_iff.mp h
    obtain ⟨hcs, ht⟩ := chars_append_of_scanOne hone
    have htail := ih hus hts.tail
    have hlongest := isLongest_of_scanOne hone htail.layout hts.isWord_head
    rw [← hcs]
    apply htail.token_append ht hlongest

/-- The tokens of a plane, of which none is a word after the keyword, are the longest ones. -/
theorem longestLayout_of_scanPlane {ts : List Token} (h : scanPlane cs = some (radial :: ts))
    (hts : IsSeparable ts) (hword : ∀ t ∈ ts.head?, t.isWord = false) :
  LongestLayout (radial :: ts) cs
  := by
  unfold scanPlane at h
  split at h
  · obtain ⟨_, hscan, ⟨⟩⟩ := Option.map_eq_some_iff.mp h
    have htail := longestLayout_of_scan hscan hts
    have hlongest := isLongest_radial (htail.layout.head_of_not_isWord hword)
    apply htail.token_append (t := radial) trivial hlongest
  · cases h

/-! ### Runs -/

/-- Only words have letters, digits, underscores and points. -/
theorem not_isNamePart_of_mem_chars (ht : t.isWord = false) {c : Char} (hc : c ∈ t.chars) :
  isNamePart c = false ∧ c ≠ '.'
  := by
  cases t with
  | numeral => cases ht
  | name => cases ht
  | radial => cases ht
  | comparator comparator =>
    have hall : comparator.chars.all (fun c => !isNamePart c && c != '.') = true := by
      cases comparator <;> rfl
    simpa using List.all_eq_true.mp hall c hc
  | _ =>
    obtain rfl := List.mem_singleton.mp hc
    decide

/-- The characters of a run: letters, digits, underscores and points. -/
def IsRun (run : List Char) : Prop :=
  run ≠ [] ∧ ∀ c ∈ run, isNamePart c = true ∨ c = '.'

theorem IsRun.notMem {run : List Char} (h : IsRun run) {c : Char}
    (hc : isNamePart c = false ∧ c ≠ '.') :
  c ∉ run
  := by
  intro hmem
  have hpart := h.2 c hmem
  simp [hc] at hpart

/-- A part of a text that is not cut between its halves lies in one of them. -/
theorem exists_half {xs ys before run after : List Char}
    (h : xs ++ ys = before ++ (run ++ after))
    (hcut : ∀ front back, run = front ++ back → xs = before ++ front → ys = back ++ after →
      front = [] ∨ back = []) :
  (∃ m, before = xs ++ m ∧ ys = m ++ (run ++ after)) ∨
    ∃ m, xs = before ++ (run ++ m) ∧ after = m ++ ys
  := by
  rcases List.append_eq_append_iff.mp h with hleft | ⟨front, hxs, hrun⟩
  · apply Or.inl hleft
  rcases List.append_eq_append_iff.mp hrun with ⟨m, rfl, hafter⟩ | ⟨back, hfront, hys⟩
  · exact .inr ⟨m, hxs, hafter⟩
  · rcases hcut front back hfront hxs hys with rfl | rfl
    · exact .inl ⟨[], by simpa using hxs.symm, by simpa [hfront] using hys⟩
    · exact .inr ⟨[], by simpa [hfront] using hxs, by simpa using hys.symm⟩

/-- A run is a part of a single token. -/
theorem LongestLayout.exists_token {ts : List Token} (h : LongestLayout ts cs)
    {before run after : List Char} (hcs : cs = before ++ (run ++ after)) (hrun : IsRun run) :
  ∃ us t vs front back, ts = us ++ t :: vs ∧ t.chars = front ++ (run ++ back) ∧
    ∃ p q, before = p ++ front ∧ after = back ++ q ∧ Layout us p ∧ Layout vs q
  := by
  have hgaps {gap : List Char} (hgap : ∀ c ∈ gap, isGap c = true) {c : Char} (hc : c ∈ gap) :
      c ∉ run := by
    apply hrun.notMem (not_isNamePart_of_isGap (hgap c hc))
  induction h generalizing before with
  | nil hgap =>
    obtain ⟨c, hc⟩ := List.exists_mem_of_ne_nil run hrun.1
    cases hgaps hgap (by simp [hcs, hc]) hc
  | @cons gap rest t ts hgap ht hlongest h ih =>
    have hgapCut : ∀ front back, run = front ++ back → gap = before ++ front → front = [] := by
      rintro front back rfl rfl
      apply List.eq_nil_iff_forall_not_mem.mpr
      intro c hc
      apply hgaps hgap (List.mem_append_right before hc) (List.mem_append_left back hc)
    -- A token that is no word has no part of the run, and after a word the run does not go on.
    have hwordCut : ∀ m front back, run = front ++ back → t.chars = m ++ front →
        rest = back ++ after → front = [] ∨ back = [] := by
      rintro m front back rfl hchars rfl
      cases hword : t.isWord with
      | false =>
        apply Or.inl (List.eq_nil_iff_forall_not_mem.mpr _)
        intro c hc
        have hpart := not_isNamePart_of_mem_chars hword (c := c) (by simp [hchars, hc])
        apply hrun.notMem hpart (List.mem_append_left back hc)
      | true =>
        cases back with
        | nil => apply Or.inr rfl
        | cons c back =>
          cases hrun.notMem (hlongest.word hword c rfl) (by simp)
    rcases exists_half hcs fun front back hfront hxs _ => .inl (hgapCut front back hfront hxs)
      with ⟨m, rfl, hm⟩ | ⟨m, hm, -⟩
    · rcases exists_half hm (hwordCut m) with ⟨m, rfl, hrest⟩ | ⟨back, hchars, hafter⟩
      · obtain ⟨us, u, vs, front, back, rfl, hu, p, q, rfl, rfl, hp, hq⟩ := ih hrest
        refine ⟨t :: us, u, vs, front, back, rfl, hu, gap ++ (t.chars ++ p), q, ?_, rfl,
          hp.cons hgap ht, hq⟩
        simp
      · exact ⟨[], t, ts, m, back, rfl, hchars, gap, rest, rfl, hafter, .nil hgap, h.layout⟩
    · obtain ⟨c, hc⟩ := List.exists_mem_of_ne_nil run hrun.1
      cases hgaps hgap (by simp [hm, hc]) hc

/-! ### Texts that are read -/

/-- The text of a token is read as that token alone. -/
theorem scan_chars (ht : t.IsLexeme) (hkeyword : t ≠ radial) :
  scan t.chars = some [t]
  := by
  have hlayout : Layout [t] (t.chars ++ []) := (Layout.nil (by simp)).token_append ht
  rw [List.append_nil] at hlayout
  apply hlayout.scan (.singleton hkeyword)

end Token

/-- The tokens of a text that is parsed. -/
theorem exists_longestLayout_of_parse {c : Category} {e : c.Tree} {cs : List Char}
    {parse : List Token → Option c.Tree} {scan : List Char → Option (List Token)}
    (hparse : ∀ {ts e}, parse ts = some e ↔ ∃ d : Derivation c, d.tokens = ts ∧ d.tree = e)
    (hscan : ∀ d : Derivation c, scan cs = some d.tokens → Token.LongestLayout d.tokens cs)
    (h : (scan cs).bind parse = some e) :
  ∃ ts, scan cs = some ts ∧ Token.LongestLayout ts cs
  := by
  obtain ⟨ts, hts, he⟩ := Option.bind_eq_some_iff.mp h
  obtain ⟨d, rfl, -⟩ := hparse.mp he
  exact ⟨_, hts, hscan d hts⟩

theorem Derivation.longestLayout_plane (d : Derivation .plane) {cs : List Char}
    (h : Token.scanPlane cs = some d.tokens) :
  Token.LongestLayout d.tokens cs
  := by
  obtain ⟨ts, hts, hseparable⟩ := d.isSeparable
  have hhead : ∀ t ∈ ts.head?, t.isWord = false := by
    cases d with
    | plane normal c value =>
      cases normal with
      | vector x y z =>
        obtain ⟨-, rfl⟩ := List.cons.inj hts
        rintro t ⟨⟩
        rfl
  rw [hts] at h ⊢
  apply Token.longestLayout_of_scanPlane h hseparable hhead

/-- A text that is parsed consists of its tokens and gaps, and each token is the longest one at its
place: the text of a numeral, of a name and of a comparator goes on as far as it can.  Numerals and
names are one token each, and in a text that is parsed any run of letters, digits, underscores and
points is a part of one token. -/
theorem scan_longest :
  (∀ (text : String) (e : Expr),
      (Token.scan (Text.trim text).toList).bind Expr.ofTokens? = some e →
      ∃ ts, Token.scan (Text.trim text).toList = some ts ∧
        Token.LongestLayout ts (Text.trim text).toList) ∧
    (∀ (text : String) (v : Vec3 Expr),
      (Token.scan (Text.trim text).toList).bind Expr.tripleOfTokens? = some v →
      ∃ ts, Token.scan (Text.trim text).toList = some ts ∧
        Token.LongestLayout ts (Text.trim text).toList) ∧
    (∀ (text : String) (p : PlaneExpr),
      (Token.scanPlane (Text.trim text).toList).bind PlaneExpr.ofTokens? = some p →
      ∃ ts, Token.scanPlane (Text.trim text).toList = some ts ∧
        Token.LongestLayout ts (Text.trim text).toList) ∧
    ((∀ cs, IsNumeral cs ↔ ∃ n : Numeral, n.chars = cs) ∧
      (∀ n : Numeral, Token.scan n.chars = some [.numeral n]) ∧
      ∀ text, isName text = true → Token.scan text.toList = some [.name text]) ∧
    ∀ (ts : List Token) (before run after : List Char),
      Token.LongestLayout ts (before ++ (run ++ after)) → Token.IsRun run →
      ∃ us t vs front back, ts = us ++ t :: vs ∧ t.chars = front ++ (run ++ back) ∧
        ∃ p q, before = p ++ front ∧ after = back ++ q ∧ Token.Layout us p ∧ Token.Layout vs q
  := by
  refine ⟨?_, ?_, ?_, ⟨?_, ?_, ?_⟩, ?_⟩
  · intro text e h
    apply exists_longestLayout_of_parse (c := .scalar) Expr.ofTokens?_eq_some_iff _ h
    intro d hscan
    apply Token.longestLayout_of_scan hscan d.isSeparable
  · intro text v h
    apply exists_longestLayout_of_parse (c := .vector) Expr.tripleOfTokens?_eq_some_iff _ h
    intro d hscan
    apply Token.longestLayout_of_scan hscan d.isSeparable
  · intro text p h
    apply exists_longestLayout_of_parse (c := .plane) PlaneExpr.ofTokens?_eq_some_iff _ h
    intro d hscan
    apply d.longestLayout_plane hscan
  · intro cs
    apply isNumeral_iff
  · intro n
    apply Token.scan_chars (t := .numeral n) trivial nofun
  · intro text htext
    apply Token.scan_chars (t := .name text) htext nofun
  · intro ts before run after h hrun
    apply h.exists_token rfl hrun

/-- The tokens of a number without any gap, of a vector and of a plane, and the token of a run in
the number. -/
theorem scan_longest_of_texts :
  Token.LongestLayout
      [.numeral ⟨.whole 2 [], some ⟨false, none, 3, []⟩⟩, .minus,
        .numeral ⟨.pointed 1 [] [5], some ⟨true, some true, 2, []⟩⟩, .slash, .name "pi2"]
      "2e3-1.5E-2/pi2".toList ∧
    Token.LongestLayout
      [.leftParen, .numeral ⟨.pointed 3 [] [], some ⟨false, none, 1, []⟩⟩, .comma, .name "e1",
        .comma, .numeral ⟨.fractional 0 [2], none⟩, .rightParen]
      "( 3.e1,e1\t,.02)".toList ∧
    Token.LongestLayout
      [.radial, .leftParen, .name "r", .comma, .name "r", .comma, .name "r", .rightParen,
        .comparator .ge, .numeral ⟨.pointed 1 [] [], none⟩]
      "r(r,\nr,r)>=1.".toList ∧
    ∃ us t vs front back,
      [.numeral ⟨.whole 2 [], some ⟨false, none, 3, []⟩⟩, .minus,
        .numeral ⟨.pointed 1 [] [5], some ⟨true, some true, 2, []⟩⟩, .slash, .name "pi2"]
        = us ++ t :: vs ∧
      t.chars = front ++ (".5E".toList ++ back) ∧
      ∃ p q, "2e3-1".toList = p ++ front ∧ "-2/pi2".toList = back ++ q ∧ Token.Layout us p ∧
        Token.Layout vs q
  := by
  obtain ⟨hscalar, hvector, hplane, -, hrun⟩ := scan_longest
  have hnumber : (Token.scan (Text.trim "2e3-1.5E-2/pi2").toList).bind Expr.ofTokens?
      = some (.binary .sub (.numeral ⟨.whole 2 [], some ⟨false, none, 3, []⟩⟩)
        (.binary .div (.numeral ⟨.pointed 1 [] [5], some ⟨true, some true, 2, []⟩⟩)
          (.symbol "pi2"))) := by cbv
  have htriple : (Token.scan (Text.trim "( 3.e1,e1\t,.02)").toList).bind Expr.tripleOfTokens?
      = some ⟨.numeral ⟨.pointed 3 [] [], some ⟨false, none, 1, []⟩⟩, .symbol "e1",
        .numeral ⟨.fractional 0 [2], none⟩⟩ := by cbv
  have hbound : (Token.scanPlane (Text.trim "r(r,\nr,r)>=1.").toList).bind PlaneExpr.ofTokens?
      = some ⟨⟨.symbol "r", .symbol "r", .symbol "r"⟩, .ge,
        .numeral ⟨.pointed 1 [] [], none⟩⟩ := by cbv
  obtain ⟨ts, hts, h⟩ := hscalar _ _ hnumber
  obtain rfl := Option.some.inj (hts.symm.trans (by cbv))
  obtain ⟨us, hus, h'⟩ := hvector _ _ htriple
  obtain rfl := Option.some.inj (hus.symm.trans (by cbv))
  obtain ⟨vs, hvs, h''⟩ := hplane _ _ hbound
  obtain rfl := Option.some.inj (hvs.symm.trans (by cbv))
  have hsplit : (Text.trim "2e3-1.5E-2/pi2").toList
      = "2e3-1".toList ++ (".5E".toList ++ "-2/pi2".toList) := by cbv
  have hpart : Token.IsRun ".5E".toList := ⟨by simp, by simp [Token.isNamePart]⟩
  refine ⟨h, h', h'', ?_⟩
  rw [hsplit] at h
  apply hrun _ _ _ _ h hpart

end ClippedCylinder
