import BlockCalc.Token
import Mathlib.Algebra.BigOperators.Group.List.Basic
import Mathlib.Algebra.Ring.Int.Defs
import Mathlib.Tactic.Common

/-! # Brackets

How deep a place in a list of tokens lies inside brackets of one kind: as many levels as were opened
before it and not closed yet (`Brackets.level`). What stands at level zero is inside of none.

A list is *balanced* if it closes what it opens and nothing else. Two brackets with a balanced list
between them belong together.

* `Balanced.append`, `Balanced.enclose`: lists that are balanced.
* `Brackets.direct`: how many tokens of a kind stand at level zero. -/

namespace BlockCalc

/-- Two kinds of token, of which one opens what the other closes. -/
structure Brackets where
  opening : Kind
  closing : Kind
  distinct : opening ≠ closing

namespace Brackets

/-- The brackets of expressions. -/
def parens : Brackets := ⟨.openParen, .closeParen, nofun⟩

/-- The brackets of blocks. -/
def braces : Brackets := ⟨.openBrace, .closeBrace, nofun⟩

/-- What a token adds to the level. -/
def weight (b : Brackets) (k : Kind) : Int :=
  if k = b.opening then 1 else if k = b.closing then -1 else 0

/-- How many brackets were opened and not closed. -/
def level (b : Brackets) (ts : List Token) : Int := (ts.map fun t => b.weight t.kind).sum

variable {b : Brackets}

@[simp]
theorem weight_opening (b : Brackets) : b.weight b.opening = 1 := if_pos rfl

@[simp]
theorem weight_closing (b : Brackets) : b.weight b.closing = -1 := by
  rw [weight, if_neg b.distinct.symm, if_pos rfl]

theorem weight_other {k : Kind} (ho : k ≠ b.opening) (hc : k ≠ b.closing) : b.weight k = 0 := by
  rw [weight, if_neg ho, if_neg hc]

@[simp]
theorem level_nil : b.level [] = 0 := rfl

@[simp]
theorem level_cons (t : Token) (ts : List Token) :
    b.level (t :: ts) = b.weight t.kind + b.level ts := by
  simp [level]

@[simp]
theorem level_append (ts us : List Token) : b.level (ts ++ us) = b.level ts + b.level us := by
  simp [level]

/-! ### Balanced lists -/

/-- What is opened is closed, and nothing else is. -/
structure Balanced (b : Brackets) (ts : List Token) : Prop where
  settled : b.level ts = 0
  sane : ∀ before after, ts = before ++ after → 0 ≤ b.level before

theorem balanced_nil : b.Balanced [] := by
  refine ⟨rfl, fun before after h => ?_⟩
  rw [(List.append_eq_nil_iff.mp h.symm).1]
  simp

theorem Balanced.append {ts us : List Token} (h : b.Balanced ts) (h' : b.Balanced us) :
    b.Balanced (ts ++ us) := by
  refine ⟨by rw [level_append, h.settled, h'.settled]; rfl, fun before after hsplit => ?_⟩
  rcases List.append_eq_append_iff.mp hsplit with ⟨as, rfl, hus⟩ | ⟨as, hts, -⟩
  · have := h'.sane as after hus
    rw [level_append, h.settled]
    omega
  · exact h.sane before as hts

theorem balanced_singleton {t : Token} (h : b.weight t.kind = 0) : b.Balanced [t] := by
  refine ⟨by simp [h], fun before after hsplit => ?_⟩
  rcases before with _ | ⟨u, before⟩
  · simp
  · obtain ⟨rfl, hnil⟩ := List.cons.inj hsplit
    rw [(List.append_eq_nil_iff.mp hnil.symm).1]
    simp [h]

theorem Balanced.cons {t : Token} {ts : List Token} (ht : b.weight t.kind = 0)
    (h : b.Balanced ts) : b.Balanced (t :: ts) :=
  (balanced_singleton ht).append h

theorem balanced_of_forall : ∀ {ts : List Token}, (∀ t ∈ ts, b.weight t.kind = 0) → b.Balanced ts
  | [], _ => balanced_nil
  | _ :: _, h => by
    obtain ⟨ht, hts⟩ := List.forall_mem_cons.mp h
    exact (balanced_of_forall hts).cons ht

/-- A place in a list with brackets around it: before them, between them or behind. -/
theorem split_enclosed {t u : Token} {ts before after : List Token}
    (h : t :: (ts ++ [u]) = before ++ after) :
    before = [] ∨ (∃ inner, before = t :: inner ∧ ∃ rest, ts = inner ++ rest) ∨
      before = t :: (ts ++ [u]) := by
  rcases before with _ | ⟨v, before⟩
  · exact .inl rfl
  · obtain ⟨rfl, hrest⟩ := List.cons.inj h
    right
    rcases List.append_eq_append_iff.mp hrest with ⟨as, rfl, has⟩ | ⟨as, hts, -⟩
    · rcases as with _ | ⟨w, as⟩
      · exact .inl ⟨_, rfl, [], by simp⟩
      · obtain ⟨rfl, hnil⟩ := List.cons.inj has
        rw [(List.append_eq_nil_iff.mp hnil.symm).1]
        exact .inr rfl
    · exact .inl ⟨before, rfl, as, hts⟩

/-- **Brackets around a balanced list.** -/
theorem Balanced.enclose {t u : Token} {ts : List Token} (h : b.Balanced ts)
    (ht : t.kind = b.opening) (hu : u.kind = b.closing) : b.Balanced (t :: (ts ++ [u])) := by
  have hall : b.level (t :: (ts ++ [u])) = 0 := by
    simp [ht, hu, h.settled]
  refine ⟨hall, fun before after hsplit => ?_⟩
  rcases split_enclosed hsplit with rfl | ⟨inner, rfl, rest, hts⟩ | rfl
  · simp
  · have := h.sane inner rest hts
    rw [level_cons, ht, weight_opening]
    omega
  · exact Int.le_of_eq hall.symm

/-! ### What stands at level zero -/

/-- How many tokens of a kind stand at level zero, from a given level on. -/
def direct (b : Brackets) (k : Kind) : Int → List Token → Nat
  | _, [] => 0
  | n, t :: ts => (if n = 0 ∧ t.kind = k then 1 else 0) + direct b k (n + b.weight t.kind) ts

variable {k : Kind}

theorem direct_append : ∀ (n : Int) (ts us : List Token),
    b.direct k n (ts ++ us) = b.direct k n ts + b.direct k (n + b.level ts) us
  | n, [], us => by simp [direct]
  | n, t :: ts, us => by
    have ih := direct_append (n + b.weight t.kind) ts us
    have hlevel : n + b.weight t.kind + b.level ts = n + b.level (t :: ts) := by
      rw [level_cons]
      omega
    rw [List.cons_append, direct, direct, ih, hlevel]
    omega

theorem direct_eq_zero : ∀ {n : Int} {ts : List Token},
    (∀ before after, ts = before ++ after → 0 < n + b.level before) → b.direct k n ts = 0
  | _, [], _ => rfl
  | n, t :: ts, h => by
    have hn : 0 < n := by simpa using h [] (t :: ts) rfl
    have hts : b.direct k (n + b.weight t.kind) ts = 0 := by
      refine direct_eq_zero fun before after hsplit => ?_
      have := h (t :: before) after (by rw [hsplit]; rfl)
      rw [level_cons] at this
      omega
    rw [direct, hts, if_neg (by omega)]

theorem direct_of_forall : ∀ {ts : List Token} (n : Int), (∀ t ∈ ts, t.kind ≠ k) → b.direct k n ts = 0
  | [], _, _ => rfl
  | t :: ts, n, h => by
    obtain ⟨ht, hts⟩ := List.forall_mem_cons.mp h
    rw [direct, direct_of_forall _ hts, if_neg (fun hk => ht hk.2)]

/-- What is enclosed in brackets has none but the brackets at level zero. -/
theorem Balanced.direct_enclose {t u : Token} {ts : List Token} (h : b.Balanced ts)
    (ht : t.kind = b.opening) (htk : t.kind ≠ k) (huk : u.kind ≠ k) :
    b.direct k 0 (t :: (ts ++ [u])) = 0 := by
  have hinner : b.direct k 1 ts = 0 := by
    refine direct_eq_zero fun before after hsplit => ?_
    have := h.sane before after hsplit
    omega
  rw [direct, if_neg (fun hk => htk hk.2), ht, weight_opening, direct_append]
  simp [hinner, direct, huk]

end Brackets

end BlockCalc
