import BlockCalc.Proofs.Grammar.Nesting
import BlockCalc.Proofs.Token.Brackets
import BlockCalc.Tree.Parser

/-! # Operators outside of parentheses

A token `+` may stand between two operands or be a sign, and what it is can be seen from the token
before it: operands end with a number, a name or a closing parenthesis. `TopBinary` are the places of
tokens that stand behind an operand and inside of no parentheses, with an operation of a given table;
`LastBinary` is the last of them.

The parts of the grammar are *whole* (`Whole`): they close the parentheses they open and end as an
operand does. So where two of them are joined by an operator, the places in the joined list are those
in the parts and the operator itself (`TopBinary.of_join`). A chain over operands without such places
has the operator that it applies last for its last place (`last_join`).

* `FactorWithin.whole`, `ExpressionWithin.whole`: factors and expressions are whole.
* `FactorWithin.without`: a factor has no place for an operator.
* `LastBinary.unique`: there is one last place. -/

namespace BlockCalc

open Parse (additive? multiplicative?)

/-- Whether an operand may end with such a token. -/
def Kind.endsOperand : Kind → Bool
  | .number | .name | .closeParen => true
  | _ => false

namespace Grammar

/-- `k` stands inside of no parentheses and behind an operand, and is an operator of a table. -/
structure TopBinary (operators : Kind → Option Operator) (us before : List Token) (k : Token)
    (after : List Token) (op : Operator) : Prop where
  split : us = before ++ k :: after
  operator : operators k.kind = some op
  outside : Brackets.parens.level before = 0
  operand : ∃ b ∈ before.getLast?, b.kind.endsOperand = true

/-- The last such place. -/
structure LastBinary (operators : Kind → Option Operator) (us before : List Token) (k : Token)
    (after : List Token) (op : Operator) : Prop extends
    TopBinary operators us before k after op where
  last : ∀ {before' k' after' op'}, TopBinary operators us before' k' after' op' →
    before'.length ≤ before.length

/-- There is no such place. -/
def Without (operators : Kind → Option Operator) (us : List Token) : Prop :=
  ∀ before k after op, ¬ TopBinary operators us before k after op

/-- Closes the parentheses it opens, and ends as an operand does. -/
structure Whole (us : List Token) : Prop where
  balanced : Brackets.parens.Balanced us
  ending : ∃ b ∈ us.getLast?, b.kind.endsOperand = true

/-- A token that neither is a parenthesis nor ends an operand. -/
def Joins (k : Token) : Prop := Brackets.parens.weight k.kind = 0 ∧ k.kind.endsOperand = false

variable {operators : Kind → Option Operator} {ts us vs before after : List Token} {j k : Token}
  {op : Operator} {t : Tree}

/-! ### Places -/

theorem TopBinary.before_ne_nil (h : TopBinary operators us before k after op) : before ≠ [] := by
  rintro rfl
  obtain ⟨b, hb, -⟩ := h.operand
  cases hb

theorem without_singleton : Without operators [j] := by
  intro before k after op h
  have hne := h.before_ne_nil
  have hpos := List.length_pos_iff.mpr hne
  have hlen := congrArg List.length h.split
  simp only [List.length_append, List.length_cons, List.length_nil] at hlen
  omega

/-- **One last place.** -/
theorem LastBinary.unique {before' after' : List Token} {k' : Token} {op' : Operator}
    (h : LastBinary operators us before k after op)
    (h' : LastBinary operators us before' k' after' op') :
    before' = before ∧ k' = k ∧ after' = after ∧ op' = op := by
  have hlen : before'.length = before.length :=
    Nat.le_antisymm (h.last h'.toTopBinary) (h'.last h.toTopBinary)
  obtain ⟨hb, hrest⟩ := List.append_inj (h'.split.symm.trans h.split) hlen
  obtain ⟨hk, ha⟩ := List.cons.inj hrest
  have hop := h'.operator
  rw [hk, h.operator] at hop
  exact ⟨hb, hk, ha, (Option.some.inj hop).symm⟩

theorem TopBinary.of_join (hts : Brackets.parens.level ts = 0) (hk : Joins k)
    (h : TopBinary operators (ts ++ k :: us) before j after op) :
    (∃ mid, TopBinary operators ts before j mid op) ∨ (before = ts ∧ j = k) ∨
      ∃ mid, before = ts ++ k :: mid ∧ TopBinary operators us mid j after op := by
  rcases List.append_eq_append_iff.mp h.split with ⟨as, hbefore, has⟩ | ⟨as, hts', has⟩
  · rcases as with _ | ⟨a, mid⟩
    · rw [List.append_nil] at hbefore
      exact .inr (.inl ⟨hbefore, (List.cons.inj has).1.symm⟩)
    · obtain ⟨rfl, hus⟩ := List.cons.inj has
      have hlevel := h.outside
      rw [hbefore, Brackets.level_append, Brackets.level_cons, hts, hk.1] at hlevel
      obtain ⟨b, hb, hend⟩ := h.operand
      rw [hbefore, List.getLast?_append, List.getLast?_cons, Option.some_or] at hb
      -- Behind `k` itself nothing is binary, since it ends no operand.
      rcases hmid : mid.getLast? with _ | b'
      · rw [hmid] at hb
        obtain rfl : k = b := Option.some.inj hb
        exact absurd hend (by rw [hk.2]; exact Bool.false_ne_true)
      · rw [hmid] at hb
        obtain rfl : b' = b := Option.some.inj hb
        exact .inr (.inr ⟨mid, hbefore, hus, h.operator, by omega, b', hmid, hend⟩)
  · rcases as with _ | ⟨a, mid⟩
    · rw [List.append_nil] at hts'
      exact .inr (.inl ⟨hts'.symm, (List.cons.inj has).1⟩)
    · obtain ⟨rfl, -⟩ := List.cons.inj has
      exact .inl ⟨mid, hts', h.operator, h.outside, h.operand⟩

theorem without_join (hts : Brackets.parens.level ts = 0) (hk : Joins k)
    (hop : operators k.kind = none) (h : Without operators ts) (h' : Without operators us) :
    Without operators (ts ++ k :: us) := by
  intro before j after op htop
  rcases htop.of_join hts hk with ⟨mid, hmid⟩ | ⟨-, rfl⟩ | ⟨mid, -, hmid⟩
  · exact h _ _ _ _ hmid
  · have := htop.operator
    rw [hop] at this
    cases this
  · exact h' _ _ _ _ hmid

theorem without_cons (hk : Joins k) (h : Without operators us) : Without operators (k :: us) := by
  intro before j after op htop
  have htop' : TopBinary operators ([] ++ k :: us) before j after op := htop
  rcases htop'.of_join rfl hk with ⟨mid, hmid⟩ | ⟨hnil, -⟩ | ⟨mid, -, hmid⟩
  · have := hmid.split
    simp at this
  · exact htop.before_ne_nil hnil
  · exact h _ _ _ _ hmid

theorem without_enclosed {p q : Int} (h : Brackets.parens.Balanced us) :
    Without operators (⟨.openParen, p⟩ :: (us ++ [⟨.closeParen, q⟩])) := by
  intro before j after op htop
  rcases Brackets.split_enclosed htop.split with hnil | ⟨inner, hbefore, rest, hus⟩ | hall
  · exact htop.before_ne_nil hnil
  · have hin := h.sane inner rest hus
    have hout := htop.outside
    rw [hbefore, Brackets.level_cons] at hout
    have hopen : Brackets.parens.weight (Token.kind ⟨.openParen, p⟩) = 1 := rfl
    omega
  · have hlen := congrArg List.length htop.split
    simp only [hall, List.length_append, List.length_cons] at hlen
    omega

/-- **The joint is the last place**, if there is none behind it. -/
theorem last_join (hts : Whole ts) (hk : Joins k) (hop : operators k.kind = some op)
    (h : Without operators us) : LastBinary operators (ts ++ k :: us) ts k us op := by
  refine ⟨⟨rfl, hop, hts.balanced.settled, hts.ending⟩, fun {before' k' after' op'} h' => ?_⟩
  rcases h'.of_join hts.balanced.settled hk with ⟨mid, hmid⟩ | ⟨rfl, -⟩ | ⟨mid, -, hmid⟩
  · rw [hmid.split, List.length_append]
    omega
  · exact Nat.le_refl _
  · exact (h _ _ _ _ hmid).elim

/-! ### Whole parts -/

theorem Whole.join (hts : Whole ts) (hk : Joins k) (hus : Whole us) : Whole (ts ++ k :: us) := by
  refine ⟨hts.balanced.append (hus.balanced.cons hk.1), ?_⟩
  obtain ⟨b, hb, hend⟩ := hus.ending
  refine ⟨b, ?_, hend⟩
  rw [List.getLast?_append, List.getLast?_cons, Option.mem_def.mp hb]
  rfl

theorem Whole.cons (hk : Joins k) (hus : Whole us) : Whole (k :: us) := by
  refine ⟨hus.balanced.cons hk.1, ?_⟩
  obtain ⟨b, hb, hend⟩ := hus.ending
  refine ⟨b, ?_, hend⟩
  rw [List.getLast?_cons, Option.mem_def.mp hb]
  rfl

theorem Whole.enclose (h : Brackets.parens.Balanced us) (p q : Int) :
    Whole (⟨.openParen, p⟩ :: (us ++ [⟨.closeParen, q⟩])) := by
  refine ⟨h.enclose rfl rfl, ⟨.closeParen, q⟩, ?_, rfl⟩
  rw [← List.cons_append, List.getLast?_append]
  rfl

theorem joins_additive {l : Lexeme} (h : Additive l op) (p : Int) : Joins ⟨l, p⟩ := by
  cases h <;> exact ⟨rfl, rfl⟩

theorem joins_multiplicative {l : Lexeme} (h : Multiplicative l op) (p : Int) : Joins ⟨l, p⟩ := by
  cases h <;> exact ⟨rfl, rfl⟩

theorem joins_signed {l : Lexeme} {s : Sign} (h : Signed l s) (p : Int) : Joins ⟨l, p⟩ := by
  cases h <;> exact ⟨rfl, rfl⟩

section

variable {operator : Lexeme → Operator → Prop} {D : List Token → Tree → Prop}

theorem Chain.whole (h : Chain operator D ts t) (hD : ∀ us u, D us u → Whole us)
    (hop : ∀ l op p, operator l op → Joins ⟨l, p⟩) : Whole ts := by
  induction h with
  | one h => exact hD _ _ h
  | more _ hk hr ih => exact ih.join (hop _ _ _ hk) (hD _ _ hr)

theorem TermOver.whole (h : TermOver D ts t) (hD : ∀ us u, D us u → Whole us) : Whole ts :=
  Chain.whole h hD fun _ _ p hk => joins_multiplicative hk p

theorem ExpressionOver.whole (h : ExpressionOver D ts t) (hD : ∀ us u, D us u → Whole us) :
    Whole ts :=
  Chain.whole h (fun _ _ ht => TermOver.whole ht hD) fun _ _ p hk => joins_additive hk p

theorem FactorOver.whole (h : FactorOver D ts t) (hD : ∀ us u, D us u → Whole us) : Whole ts := by
  cases h with
  | sign hk h => exact (hD _ _ h).cons (joins_signed hk _)
  | number => exact ⟨Brackets.balanced_singleton rfl, _, rfl, rfl⟩
  | name => exact ⟨Brackets.balanced_singleton rfl, _, rfl, rfl⟩
  | parens h => exact .enclose (ExpressionOver.whole h hD).balanced _ _

theorem TermOver.without (h : TermOver D ts t) (hD : ∀ us u, D us u → Whole us)
    (hwithout : ∀ us u, D us u → Without additive? us) : Without additive? ts := by
  induction h with
  | one h => exact hwithout _ _ h
  | more hl hk hr ih =>
    have hwhole := TermOver.whole hl hD
    refine without_join hwhole.balanced.settled (joins_multiplicative hk _) ?_ ih (hwithout _ _ hr)
    cases hk <;> rfl

end

/-- **Factors are whole.** -/
theorem FactorWithin.whole : ∀ {d : Nat} {ts : List Token} {t : Tree}, FactorWithin d ts t →
    Whole ts
  | 0, _, _, h => h.elim
  | d + 1, _, _, h => FactorOver.whole h fun _ _ hf => FactorWithin.whole (d := d) hf

/-- **Expressions are whole.** -/
theorem ExpressionWithin.whole {d : Nat} (h : ExpressionWithin d ts t) : Whole ts :=
  ExpressionOver.whole h fun _ _ hf => hf.whole

/-- **A factor has no place for an operator.** -/
theorem FactorWithin.without : ∀ {d : Nat} {ts : List Token} {t : Tree}, FactorWithin d ts t →
    Without operators ts
  | 0, _, _, h => h.elim
  | d + 1, _, _, h => by
    cases h with
    | sign hk h => exact without_cons (joins_signed hk _) (FactorWithin.without (d := d) h)
    | number => exact without_singleton
    | name => exact without_singleton
    | parens h => exact without_enclosed (ExpressionWithin.whole h).balanced

end Grammar

end BlockCalc
