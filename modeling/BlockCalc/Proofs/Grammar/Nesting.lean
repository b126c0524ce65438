import BlockCalc.Proofs.Grammar

/-! # Chains and nesting

The grammar reads a repetition such as `term (("+" | "-") term)*` from the left. A `Chain` is the same
repetition seen from the right: it ends with an operand, and what stands before the last operator is
a chain again. So the operator that is applied last is in plain sight.

Signs and parentheses have factors inside. `FactorWithin d` are the factors in which at most `d`
factors stand inside one another, and one level is given by the level below it (`FactorOver`), as in
the parser.

* `FactorWithin.factor`, `ExpressionWithin.expression`: these are factors and expressions of the
  grammar.
* `FactorWithin.of_le`: a larger bound allows more. -/

namespace BlockCalc

namespace Grammar

/-- Operands with operators between them, of which the last is applied last. -/
inductive Chain (operator : Lexeme → Operator → Prop) (operand : List Token → Tree → Prop) :
    List Token → Tree → Prop
  | one {ts t} : operand ts t → Chain operator operand ts t
  | more {ts k op p us l r} : Chain operator operand ts l → operator k op → operand us r →
      Chain operator operand (ts ++ ⟨k, p⟩ :: us) (.binary op p l r)

/-- Terms over given factors. -/
abbrev TermOver (factor : List Token → Tree → Prop) : List Token → Tree → Prop :=
  Chain Multiplicative factor

/-- Expressions over given factors. -/
abbrev ExpressionOver (factor : List Token → Tree → Prop) : List Token → Tree → Prop :=
  Chain Additive (TermOver factor)

/-- Factors with given factors inside. -/
inductive FactorOver (inner : List Token → Tree → Prop) : List Token → Tree → Prop
  | sign {k s p ts t} : Signed k s → inner ts t → FactorOver inner (⟨k, p⟩ :: ts) (.unary s p t)
  | number {x p} : FactorOver inner [⟨.number x, p⟩] (.number x p)
  | name {x p} : FactorOver inner [⟨.name x, p⟩] (.name x p)
  | parens {p q ts t} : ExpressionOver inner ts t →
      FactorOver inner (⟨.openParen, p⟩ :: (ts ++ [⟨.closeParen, q⟩])) t

/-- Factors of which at most `d` stand inside one another. -/
def FactorWithin : Nat → List Token → Tree → Prop
  | 0 => fun _ _ => False
  | d + 1 => FactorOver (FactorWithin d)

/-- Expressions over such factors. -/
abbrev ExpressionWithin (d : Nat) : List Token → Tree → Prop := ExpressionOver (FactorWithin d)

/-! ### Larger bounds -/

section

variable {operator : Lexeme → Operator → Prop} {D E : List Token → Tree → Prop} {ts : List Token}
  {t : Tree}

theorem Chain.mono (h : Chain operator D ts t) (hDE : ∀ us u, D us u → E us u) :
    Chain operator E ts t := by
  induction h with
  | one h => exact .one (hDE _ _ h)
  | more _ hk hr ih => exact .more ih hk (hDE _ _ hr)

theorem FactorOver.mono (h : FactorOver D ts t) (hDE : ∀ us u, D us u → E us u) :
    FactorOver E ts t := by
  cases h with
  | sign hk h => exact .sign hk (hDE _ _ h)
  | number => exact .number
  | name => exact .name
  | parens h => exact .parens (h.mono fun _ _ hf => hf.mono hDE)

end

theorem FactorWithin.of_le : ∀ {d d' : Nat} {ts : List Token} {t : Tree}, d ≤ d' →
    FactorWithin d ts t → FactorWithin d' ts t
  | 0, _, _, _, _, h => h.elim
  | _ + 1, 0, _, _, hle, _ => absurd hle (Nat.not_succ_le_zero _)
  | _ + 1, _ + 1, _, _, hle, h =>
    FactorOver.mono h fun _ _ => FactorWithin.of_le (Nat.le_of_succ_le_succ hle)

theorem ExpressionWithin.of_le {d d' : Nat} {ts : List Token} {t : Tree} (hle : d ≤ d')
    (h : ExpressionWithin d ts t) : ExpressionWithin d' ts t :=
  h.mono fun _ _ ht => ht.mono fun _ _ => FactorWithin.of_le hle

/-! ### Chains are repetitions -/

theorem Products.snoc : ∀ {l m r : Tree} {us vs : List Token} {k : Lexeme} {op : Operator} {p : Int},
    Products l us m → Multiplicative k op → Factor vs r →
      Products l (us ++ ⟨k, p⟩ :: vs) (.binary op p m r)
  | _, _, _, _, vs, _, _, _, .done, hk, hr => by
    rw [List.nil_append, ← List.append_nil vs]
    exact .more hk hr .done
  | _, _, _, _, _, _, _, _, .more hk' hf h, hk, hr => by
    rw [List.cons_append, List.append_assoc]
    exact .more hk' hf (h.snoc hk hr)

theorem Sums.snoc : ∀ {l m r : Tree} {us vs : List Token} {k : Lexeme} {op : Operator} {p : Int},
    Sums l us m → Additive k op → Term vs r → Sums l (us ++ ⟨k, p⟩ :: vs) (.binary op p m r)
  | _, _, _, _, vs, _, _, _, .done, hk, hr => by
    rw [List.nil_append, ← List.append_nil vs]
    exact .more hk hr .done
  | _, _, _, _, _, _, _, _, .more hk' hf h, hk, hr => by
    rw [List.cons_append, List.append_assoc]
    exact .more hk' hf (h.snoc hk hr)

theorem TermOver.term {D : List Token → Tree → Prop} {ts : List Token} {t : Tree}
    (h : TermOver D ts t) (hD : ∀ us u, D us u → Factor us u) : Term ts t := by
  induction h with
  | @one ts t h =>
    rw [← List.append_nil ts]
    exact .chain (hD _ _ h) .done
  | more _ hk hr ih =>
    obtain ⟨hf, hp⟩ := ih
    rw [List.append_assoc]
    exact .chain hf (hp.snoc hk (hD _ _ hr))

theorem ExpressionOver.expression {D : List Token → Tree → Prop} {ts : List Token} {t : Tree}
    (h : ExpressionOver D ts t) (hD : ∀ us u, D us u → Factor us u) : Expression ts t := by
  induction h with
  | @one ts t h =>
    rw [← List.append_nil ts]
    exact .chain (h.term hD) .done
  | more _ hk hr ih =>
    obtain ⟨ht, hs⟩ := ih
    rw [List.append_assoc]
    exact .chain ht (hs.snoc hk (hr.term hD))

/-- **Factors within a bound are factors.** -/
theorem FactorWithin.factor : ∀ {d : Nat} {ts : List Token} {t : Tree}, FactorWithin d ts t →
    Factor ts t
  | 0, _, _, h => h.elim
  | d + 1, _, _, h => by
    cases h with
    | sign hk h => exact .sign hk (FactorWithin.factor (d := d) h)
    | number => exact .number
    | name => exact .name
    | parens h => exact .parens (h.expression fun _ _ hf => FactorWithin.factor (d := d) hf)

/-- **Expressions within a bound are expressions.** -/
theorem ExpressionWithin.expression {d : Nat} {ts : List Token} {t : Tree}
    (h : ExpressionWithin d ts t) : Expression ts t :=
  ExpressionOver.expression h fun _ _ hf => hf.factor

end Grammar

end BlockCalc
