import Mathlib.Tactic.Use
import ClippedCylinder.Proofs.Expression.Grammar

/-!
# Unambiguity of the grammar

Two derivations of the same tokens are the same (`Derivation.tokens_injective`).  For sums and
products, which are left recursive, a derivation of a beginning of the tokens is compared with
one of all of them: the one grows into the other by the terms or factors that follow.
-/

namespace ClippedCylinder

open Token

/-- The rank of the tokens that may stand after a derivation of the category when it is part of
a derivation of the same category. -/
def Category.innerRank : Category → Nat
  | .vector => 0
  | .atom => 1
  | .power | .unary | .product => 2
  | .sum => 3
  | .scalar | .plane => 4
  | .arguments => 5

/-- The rank of the tokens that may stand after a whole derivation of the category. -/
def Category.outerRank : Category → Nat
  | .product => 3
  | .sum => 4
  | c => c.innerRank

theorem Category.innerRank_le_outerRank (c : Category) :
  c.innerRank ≤ c.outerRank
  := by
  cases c <;> decide

namespace Derivation

variable {c : Category}

/-- The derivation `d'` joins `d` and one more term or factor `e` with an operator between
them. -/
inductive Joins : {c i : Category} → Derivation c → Token → Derivation i → Derivation c → Prop where
  | add (s : Derivation .sum) (p : Derivation .product) : Joins s .plus p (.add s p)
  | sub (s : Derivation .sum) (p : Derivation .product) : Joins s .minus p (.sub s p)
  | mul (p : Derivation .product) (u : Derivation .unary) : Joins p .times u (.mul p u)
  | div (p : Derivation .product) (u : Derivation .unary) : Joins p .slash u (.div p u)

/-- The derivation `d` followed by the tokens `ts` grows into `d'` followed by `ts'`, as one
term or factor after the other is joined to it. -/
inductive Grows : {c : Category} → Derivation c → List Token → Derivation c → List Token →
    Prop where
  | stop {c : Category} {d : Derivation c} {ts : List Token} : Grows d ts d ts
  | step {c i : Category} {d d₁ d' : Derivation c} {t : Token} {e : Derivation i}
      {us ts ts' : List Token} (hd : Joins d t e d₁) (hus : us = t :: (e.tokens ++ ts))
      (h : Grows d₁ ts d' ts') : Grows d us d' ts'

/-! ### Joining -/

namespace Joins

variable {i : Category} {d d' : Derivation c} {t : Token} {e : Derivation i}

theorem tokens_append (h : Joins d t e d') (ts : List Token) :
  d'.tokens ++ ts = d.tokens ++ t :: (e.tokens ++ ts)
  := by
  cases h with
  | add s p => apply tokens_add_append
  | sub s p => apply tokens_sub_append
  | mul p u => apply tokens_mul_append
  | div p u => apply tokens_div_append

theorem rank_eq (h : Joins d t e d') :
  t.rank = c.innerRank
  := by
  cases h <;> rfl

theorem stopAt (h : Joins d t e d') (ts : List Token) :
  StopAt c.innerRank (t :: ts)
  := (stopAt_cons _ _ _).mpr (Nat.le_of_eq h.rank_eq.symm)

theorem innerRank_lt (h : Joins d t e d') :
  c.innerRank < c.outerRank
  := by
  cases h <;> decide

theorem outerRank_eq (h : Joins d t e d') :
  i.outerRank = c.innerRank
  := by
  cases h <;> rfl

/-- What is joined is determined by the operator and the two sides. -/
theorem unique (h : Joins d t e d') {i' : Category} {e' : Derivation i'} {d'' : Derivation c}
    (h' : Joins d t e' d'') :
  ∃ hi : i' = i, hi ▸ e' = e → d'' = d'
  := by
  cases h <;> cases h' <;> exact ⟨rfl, by rintro rfl; rfl⟩

end Joins

/-! ### Growth -/

namespace Grows

variable {d d' d'' : Derivation c} {ts ts' ts'' : List Token}

/-- Where nothing goes on with a derivation, it does not grow. -/
theorem eq (h : Grows d ts d' ts') (hts : StopAt c.outerRank ts) :
  d = d' ∧ ts = ts'
  := by
  cases h with
  | stop => exact ⟨rfl, rfl⟩
  | step hd hus =>
    rw [hus, stopAt_cons, hd.rank_eq] at hts
    cases Nat.not_lt.mpr hts hd.innerRank_lt

/-- The tokens that a derivation grows by start with an operator, or there are none. -/
theorem stopAt (h : Grows d ts d' ts') (hts : StopAt c.outerRank ts') :
  StopAt c.innerRank ts
  := by
  cases h with
  | stop => apply hts.mono c.innerRank_le_outerRank
  | step hd hus =>
    rw [hus]
    apply hd.stopAt

theorem trans (h : Grows d ts d' ts') (h' : Grows d' ts' d'' ts'') :
  Grows d ts d'' ts''
  := by
  induction h with
  | stop => apply h'
  | step hd hus _ ih => apply Grows.step hd hus (ih h')

end Grows

/-- Every sum grows from its first term. -/
theorem exists_grows_sum :
    ∀ (s : Derivation .sum) (ts : List Token), ∃ (p : Derivation .product) (us : List Token),
      p.tokens ++ us = s.tokens ++ ts ∧ Grows (.product p) us s ts
  | product p, ts => ⟨p, ts, rfl, .stop⟩
  | add s p, ts => by
    obtain ⟨p₀, us, hus, h⟩ := exists_grows_sum s (.plus :: (p.tokens ++ ts))
    use p₀, us, hus.trans ((Joins.add s p).tokens_append ts).symm
    apply h.trans (.step (.add s p) rfl .stop)
  | sub s p, ts => by
    obtain ⟨p₀, us, hus, h⟩ := exists_grows_sum s (.minus :: (p.tokens ++ ts))
    use p₀, us, hus.trans ((Joins.sub s p).tokens_append ts).symm
    apply h.trans (.step (.sub s p) rfl .stop)

/-- Every product grows from its first factor. -/
theorem exists_grows_product :
    ∀ (p : Derivation .product) (ts : List Token), ∃ (u : Derivation .unary) (us : List Token),
      u.tokens ++ us = p.tokens ++ ts ∧ Grows (.unary u) us p ts
  | unary u, ts => ⟨u, ts, rfl, .stop⟩
  | mul p u, ts => by
    obtain ⟨u₀, us, hus, h⟩ := exists_grows_product p (.times :: (u.tokens ++ ts))
    use u₀, us, hus.trans ((Joins.mul p u).tokens_append ts).symm
    apply h.trans (.step (.mul p u) rfl .stop)
  | div p u, ts => by
    obtain ⟨u₀, us, hus, h⟩ := exists_grows_product p (.slash :: (u.tokens ++ ts))
    use u₀, us, hus.trans ((Joins.div p u).tokens_append ts).symm
    apply h.trans (.step (.div p u) rfl .stop)

/-! ### Derivations of the same tokens -/

/-- Every derivation of the same tokens, up to the tokens that follow, is one that `d` grows
into. -/
def IsDetermined (d : Derivation c) : Prop :=
  ∀ ⦃ts ts' : List Token⦄ ⦃d' : Derivation c⦄, StopAt c.innerRank ts → StopAt c.outerRank ts' →
    d.tokens ++ ts = d'.tokens ++ ts' → Grows d ts d' ts'

namespace IsDetermined

theorem eq {d d' : Derivation c} (hd : d.IsDetermined) {ts ts' : List Token}
    (hts : StopAt c.outerRank ts) (hts' : StopAt c.outerRank ts')
    (h : d.tokens ++ ts = d'.tokens ++ ts') :
  d = d' ∧ ts = ts'
  := by
  apply (hd (hts.mono c.innerRank_le_outerRank) hts' h).eq hts

theorem eq_cons {d d' : Derivation c} (hd : d.IsDetermined) {t t' : Token} {ts ts' : List Token}
    (h : d.tokens ++ t :: ts = d'.tokens ++ t' :: ts') (ht : c.outerRank ≤ t.rank)
    (ht' : c.outerRank ≤ t'.rank) :
  d = d' ∧ t = t' ∧ ts = ts'
  := by
  obtain ⟨rfl, h'⟩ := hd.eq ((stopAt_cons _ _ _).mpr ht) ((stopAt_cons _ _ _).mpr ht') h
  exact ⟨rfl, List.cons.inj h'⟩

theorem joins {i : Category} {d d' : Derivation c} {t : Token} {e : Derivation i}
    (hd : d.IsDetermined) (he : e.IsDetermined) (hjoins : Joins d t e d') :
  d'.IsDetermined
  := by
  intro ts ts' d'' hts hts' h
  rw [hjoins.tokens_append] at h
  cases hd (hjoins.stopAt _) hts' h with
  | stop =>
    rw [stopAt_cons, hjoins.rank_eq] at hts'
    cases Nat.not_lt.mpr hts' hjoins.innerRank_lt
  | step hjoins' hus hgrows =>
    obtain ⟨rfl, htokens⟩ := List.cons.inj hus
    obtain ⟨rfl, hunique⟩ := hjoins.unique hjoins'
    have hstop' := hgrows.stopAt hts'
    rw [← hjoins.outerRank_eq] at hts hstop'
    obtain ⟨rfl, rfl⟩ := he.eq hts hstop' htokens
    obtain rfl := hunique rfl
    apply hgrows

theorem product {p : Derivation .product} (hp : p.IsDetermined) :
  (product p).IsDetermined
  := by
  intro ts ts' s' hts hts' h
  obtain ⟨p₀, us, hus, hgrows⟩ := exists_grows_sum s' ts'
  obtain ⟨rfl, rfl⟩ := hp.eq hts (hgrows.stopAt hts') (h.trans hus.symm)
  apply hgrows

theorem unary {u : Derivation .unary} (hu : u.IsDetermined) :
  (unary u).IsDetermined
  := by
  intro ts ts' p' hts hts' h
  obtain ⟨u₀, us, hus, hgrows⟩ := exists_grows_product p' ts'
  obtain ⟨rfl, rfl⟩ := hu.eq hts (hgrows.stopAt hts') (h.trans hus.symm)
  apply hgrows

theorem scalar {s : Derivation .sum} (hs : s.IsDetermined) :
  (scalar s).IsDetermined
  := by
  intro ts ts' d' hts hts' h
  cases d' with
  | scalar s' =>
    obtain ⟨rfl, rfl⟩ := hs.eq hts hts' h
    apply Grows.stop

theorem vector {x y z : Derivation .sum} (hx : x.IsDetermined) (hy : y.IsDetermined)
    (hz : z.IsDetermined) :
  (vector x y z).IsDetermined
  := by
  intro ts ts' d' _ _ h
  cases d' with
  | vector x' y' z' =>
    rw [tokens_vector_append, tokens_vector_append] at h
    obtain ⟨rfl, -, h₁⟩ := hx.eq_cons (List.cons.inj h).2 (by decide) (by decide)
    obtain ⟨rfl, -, h₂⟩ := hy.eq_cons h₁ (by decide) (by decide)
    obtain ⟨rfl, -, rfl⟩ := hz.eq_cons h₂ (by decide) (by decide)
    apply Grows.stop

theorem plane {normal : Derivation .vector} {value : Derivation .sum}
    (hnormal : normal.IsDetermined) (hvalue : value.IsDetermined) (c : Comparator) :
  (plane normal c value).IsDetermined
  := by
  intro ts ts' d' hts hts' h
  cases d' with
  | plane normal' c' value' =>
    rw [tokens_plane_append, tokens_plane_append] at h
    obtain ⟨rfl, hc, hv⟩ := hnormal.eq_cons (List.cons.inj h).2 (Nat.zero_le _) (Nat.zero_le _)
    obtain rfl := Token.comparator.inj hc
    obtain ⟨rfl, rfl⟩ := hvalue.eq hts hts' hv
    apply Grows.stop

theorem power {p : Derivation .power} (hp : p.IsDetermined) :
  (power p).IsDetermined
  := by
  intro ts ts' d' hts hts' h
  cases d' with
  | power p' =>
    obtain ⟨rfl, rfl⟩ := hp.eq hts hts' h
    apply Grows.stop
  | neg u' => cases (head_power_tokens p ts).1 (congrArg List.head? h)
  | pos u' => cases (head_power_tokens p ts).2 (congrArg List.head? h)

theorem neg {u : Derivation .unary} (hu : u.IsDetermined) :
  (neg u).IsDetermined
  := by
  intro ts ts' d' hts hts' h
  cases d' with
  | power p' => cases (head_power_tokens p' ts').1 (congrArg List.head? h.symm)
  | neg u' =>
    obtain ⟨rfl, rfl⟩ := hu.eq hts hts' (List.cons.inj h).2
    apply Grows.stop
  | pos u' => cases (List.cons.inj h).1

theorem pos {u : Derivation .unary} (hu : u.IsDetermined) :
  (pos u).IsDetermined
  := by
  intro ts ts' d' hts hts' h
  cases d' with
  | power p' => cases (head_power_tokens p' ts').2 (congrArg List.head? h.symm)
  | neg u' => cases (List.cons.inj h).1
  | pos u' =>
    obtain ⟨rfl, rfl⟩ := hu.eq hts hts' (List.cons.inj h).2
    apply Grows.stop

/-- An atom without an exponent is not continued by a caret. -/
theorem atom {a : Derivation .atom} (ha : a.IsDetermined) :
  (atom a).IsDetermined
  := by
  intro ts ts' d' hts hts' h
  cases d' with
  | atom a' =>
    obtain ⟨rfl, rfl⟩ := ha.eq (hts.mono (by decide)) (hts'.mono (by decide)) h
    apply Grows.stop
  | pow a' u' =>
    rw [tokens_pow_append] at h
    obtain ⟨-, rfl⟩ := ha.eq (hts.mono (by decide)) ((stopAt_cons _ _ _).mpr (by decide)) h
    simp [Category.innerRank, Token.rank] at hts

theorem pow {a : Derivation .atom} {u : Derivation .unary} (ha : a.IsDetermined)
    (hu : u.IsDetermined) :
  (pow a u).IsDetermined
  := by
  intro ts ts' d' hts hts' h
  cases d' with
  | atom a' =>
    rw [tokens_pow_append] at h
    obtain ⟨-, rfl⟩ := ha.eq ((stopAt_cons _ _ _).mpr (by decide)) (hts'.mono (by decide)) h
    simp [Category.outerRank, Category.innerRank, Token.rank] at hts'
  | pow a' u' =>
    rw [tokens_pow_append, tokens_pow_append] at h
    obtain ⟨rfl, -, hexponent⟩ := ha.eq_cons h (by decide) (by decide)
    obtain ⟨rfl, rfl⟩ := hu.eq hts hts' hexponent
    apply Grows.stop

theorem number (n : Numeral) :
  (number n).IsDetermined
  := by
  intro ts ts' d' _ _ h
  cases d' with
  | number n' =>
    obtain ⟨⟨⟩, rfl⟩ := List.cons.inj h
    apply Grows.stop
  | _ => cases (List.cons.inj h).1

theorem call {as : Derivation .arguments} (has : as.IsDetermined) (name : String) :
  (call name as).IsDetermined
  := by
  intro ts ts' d' _ hts' h
  cases d' with
  | call name' as' =>
    rw [tokens_call_append, tokens_call_append] at h
    obtain ⟨⟨⟩, h₁⟩ := List.cons.inj h
    obtain ⟨rfl, -, rfl⟩ := has.eq_cons (List.cons.inj h₁).2 (by decide) (by decide)
    apply Grows.stop
  | symbol name' =>
    obtain ⟨-, rfl⟩ := List.cons.inj h
    simp [Category.outerRank, Category.innerRank, Token.rank] at hts'
  | _ => cases (List.cons.inj h).1

/-- A name is not continued by a parenthesis. -/
theorem symbol (name : String) :
  (symbol name).IsDetermined
  := by
  intro ts ts' d' hts _ h
  cases d' with
  | call name' as' =>
    obtain ⟨-, rfl⟩ := List.cons.inj h
    simp [Category.innerRank, Token.rank] at hts
  | symbol name' =>
    obtain ⟨⟨⟩, rfl⟩ := List.cons.inj h
    apply Grows.stop
  | _ => cases (List.cons.inj h).1

theorem parens {s : Derivation .sum} (hs : s.IsDetermined) :
  (parens s).IsDetermined
  := by
  intro ts ts' d' _ _ h
  cases d' with
  | parens s' =>
    rw [tokens_parens_append, tokens_parens_append] at h
    obtain ⟨rfl, -, rfl⟩ := hs.eq_cons (List.cons.inj h).2 (by decide) (by decide)
    apply Grows.stop
  | _ => cases (List.cons.inj h).1

/-- The last argument is not continued by a comma. -/
theorem last {s : Derivation .sum} (hs : s.IsDetermined) :
  (last s).IsDetermined
  := by
  intro ts ts' d' hts hts' h
  cases d' with
  | last s' =>
    obtain ⟨rfl, rfl⟩ := hs.eq (hts.mono (by decide)) (hts'.mono (by decide)) h
    apply Grows.stop
  | next s' as' =>
    rw [tokens_next_append] at h
    obtain ⟨-, rfl⟩ := hs.eq (hts.mono (by decide)) ((stopAt_cons _ _ _).mpr (by decide)) h
    simp [Category.innerRank, Token.rank] at hts

theorem next {s : Derivation .sum} {as : Derivation .arguments} (hs : s.IsDetermined)
    (has : as.IsDetermined) :
  (next s as).IsDetermined
  := by
  intro ts ts' d' hts hts' h
  cases d' with
  | last s' =>
    rw [tokens_next_append] at h
    obtain ⟨-, rfl⟩ := hs.eq ((stopAt_cons _ _ _).mpr (by decide)) (hts'.mono (by decide)) h
    simp [Category.outerRank, Category.innerRank, Token.rank] at hts'
  | next s' as' =>
    rw [tokens_next_append, tokens_next_append] at h
    obtain ⟨rfl, -, hrest⟩ := hs.eq_cons h (by decide) (by decide)
    obtain ⟨rfl, rfl⟩ := has.eq hts hts' hrest
    apply Grows.stop

end IsDetermined

/-- Every derivation is determined by its tokens, by induction on the derivation. -/
theorem isDetermined (d : Derivation c) :
  d.IsDetermined
  := by
  induction d with
  | scalar s hs => apply hs.scalar
  | vector x y z hx hy hz => apply hx.vector hy hz
  | plane normal c value hnormal hvalue => apply hnormal.plane hvalue c
  | product p hp => apply hp.product
  | add s p hs hp => apply hs.joins hp (.add s p)
  | sub s p hs hp => apply hs.joins hp (.sub s p)
  | unary u hu => apply hu.unary
  | mul p u hp hu => apply hp.joins hu (.mul p u)
  | div p u hp hu => apply hp.joins hu (.div p u)
  | power p hp => apply hp.power
  | neg u hu => apply hu.neg
  | pos u hu => apply hu.pos
  | atom a ha => apply ha.atom
  | pow a u ha hu => apply ha.pow hu
  | number n => apply IsDetermined.number
  | call name as has => apply has.call name
  | symbol name => apply IsDetermined.symbol
  | parens s hs => apply hs.parens
  | last s hs => apply hs.last
  | next s as hs has => apply hs.next has

/-- The grammar is unambiguous. -/
theorem tokens_injective :
  Function.Injective (tokens : Derivation c → List Token)
  := by
  intro d d' h
  have h' : d.tokens ++ [] = d'.tokens ++ [] := by rw [h]
  apply (d.isDetermined.eq (stopAt_nil _) (stopAt_nil _) h').1

end Derivation

end ClippedCylinder
