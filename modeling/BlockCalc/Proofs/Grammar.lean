import BlockCalc.Tree
import Mathlib.Tactic.Common

/-! # The grammar

The grammar of the language on lists of tokens, each part with the tree it leaves:

    program     = block end
    block       = "{" statement (";" statement)* "}"
    statement   = assignment | block | nothing
    assignment  = name "=" expression
    expression  = term (("+" | "-") term)*
    term        = factor (("*" | "/") factor)*
    factor      = ("+" | "-") factor | number | name | "(" expression ")"

A repetition is a part of its own. `Sums l ts t` says that the tokens `ts` are more terms with their
operators, and that they take the tree `l` of what stands before them to the tree `t`; so operations
of one rank are grouped from the left. Parentheses leave no node, and the empty statement leaves the
empty tree.

* `Program.unique`, `SoleExpression.unique`: a list of tokens has at most one tree.
* `Factor.unique`, `Expression.unique`, `Block.unique`: what follows a part does not decide where
  the part ends, provided that it does not go on with it. -/

namespace BlockCalc

namespace Grammar

/-! ### Operators -/

/-- The operators between terms. -/
inductive Additive : Lexeme → Operator → Prop
  | plus : Additive .plus .add
  | minus : Additive .minus .sub

/-- The operators between factors. -/
inductive Multiplicative : Lexeme → Operator → Prop
  | times : Multiplicative .times .mul
  | slash : Multiplicative .slash .div

/-- The signs before a factor. -/
inductive Signed : Lexeme → Sign → Prop
  | plus : Signed .plus .plus
  | minus : Signed .minus .minus

/-! ### Expressions -/

mutual

/-- `expression = term (("+" | "-") term)*` -/
inductive Expression : List Token → Tree → Prop
  | chain {ts us l t} : Term ts l → Sums l us t → Expression (ts ++ us) t

/-- `(("+" | "-") term)*`, after a sum so far. -/
inductive Sums : Tree → List Token → Tree → Prop
  | done {l} : Sums l [] l
  | more {k op p ts us l r t} : Additive k op → Term ts r → Sums (.binary op p l r) us t →
      Sums l (⟨k, p⟩ :: (ts ++ us)) t

/-- `term = factor (("*" | "/") factor)*` -/
inductive Term : List Token → Tree → Prop
  | chain {ts us l t} : Factor ts l → Products l us t → Term (ts ++ us) t

/-- `(("*" | "/") factor)*`, after a product so far. -/
inductive Products : Tree → List Token → Tree → Prop
  | done {l} : Products l [] l
  | more {k op p ts us l r t} : Multiplicative k op → Factor ts r →
      Products (.binary op p l r) us t → Products l (⟨k, p⟩ :: (ts ++ us)) t

/-- `factor = ("+" | "-") factor | number | name | "(" expression ")"` -/
inductive Factor : List Token → Tree → Prop
  | sign {k s p ts t} : Signed k s → Factor ts t → Factor (⟨k, p⟩ :: ts) (.unary s p t)
  | number {x p} : Factor [⟨.number x, p⟩] (.number x p)
  | name {x p} : Factor [⟨.name x, p⟩] (.name x p)
  | parens {p q ts t} : Expression ts t → Factor (⟨.openParen, p⟩ :: (ts ++ [⟨.closeParen, q⟩])) t

end

/-! ### Statements -/

/-- `assignment = name "=" expression` -/
inductive Assignment : List Token → Tree → Prop
  | mk {x q p ts v} : Expression ts v →
      Assignment (⟨.name x, q⟩ :: ⟨.equals, p⟩ :: ts) (.assign x q p v)

mutual

/-- `statement = assignment | block | nothing` -/
inductive Statement : List Token → Tree → Prop
  | assignment {ts t} : Assignment ts t → Statement ts t
  | block {ts t} : Block ts t → Statement ts t
  | empty : Statement [] .empty

/-- `(";" statement)*` -/
inductive Statements : List Token → List Tree → Prop
  | done : Statements [] []
  | more {p ts us c cs} : Statement ts c → Statements us cs →
      Statements (⟨.semicolon, p⟩ :: (ts ++ us)) (c :: cs)

/-- `block = "{" statement (";" statement)* "}"` -/
inductive Block : List Token → Tree → Prop
  | mk {p q ts us c cs} : Statement ts c → Statements us cs →
      Block (⟨.openBrace, p⟩ :: (ts ++ (us ++ [⟨.closeBrace, q⟩]))) (.block p (c :: cs))

end

/-! ### Whole sources -/

/-- `program = block end` -/
inductive Program : List Token → Tree → Prop
  | mk {ts t p} : Block ts t → Program (ts ++ [⟨.endOfInput, p⟩]) t

/-- An expression and nothing after it. -/
inductive SoleExpression : List Token → Tree → Prop
  | mk {ts t p} : Expression ts t → SoleExpression (ts ++ [⟨.endOfInput, p⟩]) t

/-! ### One tree for a list of tokens -/

/-- What comes first, if anything does, is no such operator. -/
def Apart (operator : Lexeme → Operator → Prop) (ts : List Token) : Prop :=
  ∀ t ∈ ts.head?, ∀ op, ¬ operator t.lexeme op

theorem Additive.unique {k : Lexeme} {a b : Operator} (ha : Additive k a) (hb : Additive k b) :
    a = b := by
  cases ha <;> cases hb <;> rfl

theorem Multiplicative.unique {k : Lexeme} {a b : Operator} (ha : Multiplicative k a)
    (hb : Multiplicative k b) : a = b := by
  cases ha <;> cases hb <;> rfl

theorem Signed.unique {k : Lexeme} {a b : Sign} (ha : Signed k a) (hb : Signed k b) : a = b := by
  cases ha <;> cases hb <;> rfl

theorem apart_cons {operator : Lexeme → Operator → Prop} {k : Lexeme} {p : Int} {ts : List Token}
    (h : ∀ op, ¬ operator k op) : Apart operator (⟨k, p⟩ :: ts) := by
  intro t ht
  cases ht
  exact h

theorem Sums.apart {l t : Tree} {ts rs : List Token} (h : Sums l ts t)
    (hr : Apart Multiplicative rs) : Apart Multiplicative (ts ++ rs) := by
  cases h with
  | done => exact hr
  | more hk _ _ =>
    refine apart_cons fun op ho => ?_
    cases hk <;> cases ho

mutual

theorem Factor.unique : ∀ {ts us rs qs : List Token} {t u : Tree}, Factor ts t → Factor us u →
    ts ++ rs = us ++ qs → ts = us ∧ t = u
  | _, _, _, _, _, _, .sign hk h, h', he => by
    cases h' with
    | sign hk' h' =>
      simp only [List.cons_append, List.cons.injEq, Token.mk.injEq] at he
      obtain ⟨⟨rfl, rfl⟩, he⟩ := he
      obtain ⟨rfl, rfl⟩ := h.unique h' he
      rw [hk.unique hk']
      exact ⟨rfl, rfl⟩
    | number => cases (List.cons.inj he).1; cases hk
    | name => cases (List.cons.inj he).1; cases hk
    | parens _ => cases (List.cons.inj he).1; cases hk
  | _, _, _, _, _, _, .number, h', he => by
    cases h' with
    | sign hk' _ => cases (List.cons.inj he).1; cases hk'
    | number => cases (List.cons.inj he).1; exact ⟨rfl, rfl⟩
    | name => cases (List.cons.inj he).1
    | parens _ => cases (List.cons.inj he).1
  | _, _, _, _, _, _, .name, h', he => by
    cases h' with
    | sign hk' _ => cases (List.cons.inj he).1; cases hk'
    | number => cases (List.cons.inj he).1
    | name => cases (List.cons.inj he).1; exact ⟨rfl, rfl⟩
    | parens _ => cases (List.cons.inj he).1
  | _, _, _, _, _, _, .parens h, h', he => by
    cases h' with
    | sign hk' _ => cases (List.cons.inj he).1; cases hk'
    | number => cases (List.cons.inj he).1
    | name => cases (List.cons.inj he).1
    | parens h' =>
      simp only [List.cons_append, List.append_assoc, List.nil_append, List.cons.injEq,
        Token.mk.injEq, true_and] at he
      obtain ⟨rfl, he⟩ := he
      obtain ⟨rfl, rfl⟩ := h.unique h' he (apart_cons nofun) (apart_cons nofun) (apart_cons nofun)
        (apart_cons nofun)
      have hq := (List.cons.inj (List.append_cancel_left he)).1
      rw [hq]
      exact ⟨rfl, rfl⟩
termination_by structural _ _ _ _ _ _ h => h

theorem Products.unique : ∀ {ts us rs qs : List Token} {l t u : Tree}, Products l ts t →
    Products l us u → ts ++ rs = us ++ qs → Apart Multiplicative rs → Apart Multiplicative qs →
      ts = us ∧ t = u
  | _, _, _, _, _, _, _, .done, h', he, hr, _ => by
    cases h' with
    | done => exact ⟨rfl, rfl⟩
    | more hk' _ _ => cases he; exact absurd hk' (hr _ rfl _)
  | _, _, _, _, _, _, _, .more hk hf h, h', he, hr, hq => by
    cases h' with
    | done => cases he; exact absurd hk (hq _ rfl _)
    | more hk' hf' h' =>
      simp only [List.cons_append, List.append_assoc, List.cons.injEq, Token.mk.injEq] at he
      obtain ⟨⟨rfl, rfl⟩, he⟩ := he
      obtain ⟨rfl, rfl⟩ := hf.unique hf' he
      obtain rfl := hk.unique hk'
      obtain ⟨rfl, rfl⟩ := h.unique h' (List.append_cancel_left he) hr hq
      exact ⟨rfl, rfl⟩
termination_by structural _ _ _ _ _ _ _ h => h

theorem Term.unique : ∀ {ts us rs qs : List Token} {t u : Tree}, Term ts t → Term us u →
    ts ++ rs = us ++ qs → Apart Multiplicative rs → Apart Multiplicative qs → ts = us ∧ t = u
  | _, _, _, _, _, _, .chain hf h, h', he, hr, hq => by
    cases h' with
    | chain hf' h' =>
      simp only [List.append_assoc] at he
      obtain ⟨rfl, rfl⟩ := hf.unique hf' he
      obtain ⟨rfl, rfl⟩ := h.unique h' (List.append_cancel_left he) hr hq
      exact ⟨rfl, rfl⟩
termination_by structural _ _ _ _ _ _ h => h

theorem Sums.unique : ∀ {ts us rs qs : List Token} {l t u : Tree}, Sums l ts t → Sums l us u →
    ts ++ rs = us ++ qs → Apart Additive rs → Apart Multiplicative rs → Apart Additive qs →
      Apart Multiplicative qs → ts = us ∧ t = u
  | _, _, _, _, _, _, _, .done, h', he, hr, _, _, _ => by
    cases h' with
    | done => exact ⟨rfl, rfl⟩
    | more hk' _ _ => cases he; exact absurd hk' (hr _ rfl _)
  | _, _, _, _, _, _, _, .more hk ht h, h', he, hr, hr', hq, hq' => by
    cases h' with
    | done => cases he; exact absurd hk (hq _ rfl _)
    | more hk' ht' h' =>
      simp only [List.cons_append, List.append_assoc, List.cons.injEq, Token.mk.injEq] at he
      obtain ⟨⟨rfl, rfl⟩, he⟩ := he
      obtain ⟨rfl, rfl⟩ := ht.unique ht' he (h.apart hr') (h'.apart hq')
      obtain rfl := hk.unique hk'
      obtain ⟨rfl, rfl⟩ := h.unique h' (List.append_cancel_left he) hr hr' hq hq'
      exact ⟨rfl, rfl⟩
termination_by structural _ _ _ _ _ _ _ h => h

theorem Expression.unique : ∀ {ts us rs qs : List Token} {t u : Tree}, Expression ts t →
    Expression us u → ts ++ rs = us ++ qs → Apart Additive rs → Apart Multiplicative rs →
      Apart Additive qs → Apart Multiplicative qs → ts = us ∧ t = u
  | _, _, _, _, _, _, .chain ht h, h', he, hr, hr', hq, hq' => by
    cases h' with
    | chain ht' h' =>
      simp only [List.append_assoc] at he
      obtain ⟨rfl, rfl⟩ := ht.unique ht' he (h.apart hr') (h'.apart hq')
      obtain ⟨rfl, rfl⟩ := h.unique h' (List.append_cancel_left he) hr hr' hq hq'
      exact ⟨rfl, rfl⟩
termination_by structural _ _ _ _ _ _ h => h

end

/-- What comes first ends a statement. -/
inductive Closed : List Token → Prop
  | semicolon {p ts} : Closed (⟨.semicolon, p⟩ :: ts)
  | brace {p ts} : Closed (⟨.closeBrace, p⟩ :: ts)

theorem Closed.apart_additive {ts : List Token} (h : Closed ts) : Apart Additive ts := by
  cases h <;> exact apart_cons nofun

theorem Closed.apart_multiplicative {ts : List Token} (h : Closed ts) :
    Apart Multiplicative ts := by
  cases h <;> exact apart_cons nofun

theorem Statements.closed {ts rs : List Token} {cs : List Tree} (h : Statements ts cs)
    (hr : Closed rs) : Closed (ts ++ rs) := by
  cases h with
  | done => exact hr
  | more _ _ => exact .semicolon

theorem Assignment.unique {ts us rs qs : List Token} {t u : Tree} (h : Assignment ts t)
    (h' : Assignment us u) (he : ts ++ rs = us ++ qs) (hr : Closed rs) (hq : Closed qs) :
    ts = us ∧ t = u := by
  obtain ⟨h⟩ := h
  obtain ⟨h'⟩ := h'
  simp only [List.cons_append, List.cons.injEq, Token.mk.injEq, Lexeme.name.injEq, true_and] at he
  obtain ⟨⟨rfl, rfl⟩, rfl, he⟩ := he
  obtain ⟨rfl, rfl⟩ := h.unique h' he hr.apart_additive hr.apart_multiplicative hq.apart_additive
    hq.apart_multiplicative
  exact ⟨rfl, rfl⟩

mutual

theorem Statement.unique : ∀ {ts us rs qs : List Token} {t u : Tree}, Statement ts t →
    Statement us u → ts ++ rs = us ++ qs → Closed rs → Closed qs → ts = us ∧ t = u
  | _, _, _, _, _, _, .assignment h, h', he, hr, hq => by
    cases h' with
    | assignment h' => exact h.unique h' he hr hq
    | block h' => cases h; cases h'; cases he
    | empty => cases h; cases hq <;> cases he
  | _, _, _, _, _, _, .block h, h', he, hr, hq => by
    cases h' with
    | assignment h' => cases h; cases h'; cases he
    | block h' => exact h.unique h' he
    | empty => cases h; cases hq <;> cases he
  | _, _, _, _, _, _, .empty, h', he, hr, hq => by
    cases h' with
    | assignment h' => cases h'; cases hr <;> cases he
    | block h' => cases h'; cases hr <;> cases he
    | empty => exact ⟨rfl, rfl⟩
termination_by structural _ _ _ _ _ _ h => h

theorem Statements.unique : ∀ {ts us rs qs : List Token} {cs ds : List Tree} {p q : Int},
    Statements ts cs → Statements us ds →
      ts ++ ⟨.closeBrace, p⟩ :: rs = us ++ ⟨.closeBrace, q⟩ :: qs → ts = us ∧ cs = ds
  | _, _, _, _, _, _, _, _, .done, h', he => by
    cases h' with
    | done => exact ⟨rfl, rfl⟩
    | more _ _ => cases he
  | _, _, _, _, _, _, _, _, .more hs h, h', he => by
    cases h' with
    | done => cases he
    | more hs' h' =>
      simp only [List.cons_append, List.append_assoc, List.cons.injEq, Token.mk.injEq,
        true_and] at he
      obtain ⟨rfl, he⟩ := he
      obtain ⟨rfl, rfl⟩ := hs.unique hs' he (h.closed .brace) (h'.closed .brace)
      obtain ⟨rfl, rfl⟩ := h.unique h' (List.append_cancel_left he)
      exact ⟨rfl, rfl⟩
termination_by structural _ _ _ _ _ _ _ _ h => h

theorem Block.unique : ∀ {ts us rs qs : List Token} {t u : Tree}, Block ts t → Block us u →
    ts ++ rs = us ++ qs → ts = us ∧ t = u
  | _, _, _, _, _, _, .mk hs h, h', he => by
    cases h' with
    | mk hs' h' =>
      simp only [List.cons_append, List.append_assoc, List.nil_append, List.cons.injEq,
        Token.mk.injEq, true_and] at he
      obtain ⟨rfl, he⟩ := he
      obtain ⟨rfl, rfl⟩ := hs.unique hs' he (h.closed .brace) (h'.closed .brace)
      replace he := List.append_cancel_left he
      obtain ⟨rfl, rfl⟩ := h.unique h' he
      have hq := (List.cons.inj (List.append_cancel_left he)).1
      rw [hq]
      exact ⟨rfl, rfl⟩
termination_by structural _ _ _ _ _ _ h => h

end

/-- **A list of tokens is a program in one way at most.** -/
theorem Program.unique {ts : List Token} {t u : Tree} (h : Program ts t) (h' : Program ts u) :
    t = u := by
  obtain @⟨us, _, p, h⟩ := h
  generalize he : us ++ [⟨.endOfInput, p⟩] = vs at h'
  obtain ⟨h'⟩ := h'
  exact (h.unique h' he).2

/-- **A list of tokens is an expression in one way at most.** -/
theorem SoleExpression.unique {ts : List Token} {t u : Tree} (h : SoleExpression ts t)
    (h' : SoleExpression ts u) : t = u := by
  obtain @⟨us, _, p, h⟩ := h
  generalize he : us ++ [⟨.endOfInput, p⟩] = vs at h'
  obtain ⟨h'⟩ := h'
  exact (h.unique h' he (apart_cons nofun) (apart_cons nofun) (apart_cons nofun)
    (apart_cons nofun)).2

end Grammar

end BlockCalc
