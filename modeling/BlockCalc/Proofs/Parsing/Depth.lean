import BlockCalc.Proofs.Parsing

/-! # Parsing within a depth limit

An expression is parsed within a depth limit exactly if no more factors than that stand inside one
another in it. That they do not is what `follows_expression` says of every tree that is given; here
is the other direction. `Parse.Takes x D p` says that the action `x` answers and takes the tokens of
a part of the grammar (`D`) wherever they come next, as long as the token behind them is of a kind in
`p`. Loops have to be told where they end: a chain is not followed by one of its own operators.

* `Parse.takes_factor`, `Parse.takes_expression`: factors and expressions within the limit.
* `parseExpression_iff_within`: whole sources. -/

namespace BlockCalc

namespace Parse

open Grammar

variable {α : Type}

/-- An action that takes the tokens of a part, whatever the stream, if a token of such a kind comes
behind them. -/
def Takes (x : Parse α) (D : List Token → α → Prop) (p : Kind → Prop) : Prop :=
  ∀ (s : TokenStream) us h rest e a, D us a → p h.kind → s.Holds (us ++ h :: rest) e →
    ∃ s', x.run s = (.ok a, s') ∧ s'.Holds (h :: rest) e

theorem exists_run_eat {s : TokenStream} {t h : Token} (us : List Token) {rest : List Token}
    {e : Option SourceFault} (hs : s.Holds (t :: (us ++ h :: rest)) e) :
    ∃ s', (eat t.kind).run s = (.ok t, s') ∧ s'.Holds (us ++ h :: rest) e := by
  rcases us with _ | ⟨u, us⟩
  · exact run_eat_cons hs rfl
  · exact run_eat_cons hs rfl

/-! ### Chains -/

section

variable {operators : Kind → Option Operator} {operator : Lexeme → Operator → Prop}
  {operand : Parse Tree} {D : List Token → Tree → Prop} {p : Kind → Prop}

theorem run_chain (ho : Takes operand D p)
    (hop : ∀ k op, operator k op → operators k.kind = some op ∧ k.kind ≠ .endOfInput ∧ p k.kind)
    {ts : List Token} {t : Tree} (h : Chain operator D ts t) :
    ∀ (s : TokenStream) u rest e, p u.kind → s.Holds (ts ++ u :: rest) e →
      ∃ s', s'.Holds (u :: rest) e ∧ (chain operators operand).run s =
        (loop operators (fun left t op => do
          return .binary op t.offset left (← operand)) t).run s' := by
  -- The loop is not over yet: it goes on with the tree of the chain so far, wherever it stands.
  induction h with
  | one h =>
    intro s u rest e hu hs
    obtain ⟨s1, h1, hs1⟩ := ho s _ u rest e _ h hu hs
    exact ⟨s1, hs1, run_bind_ok h1 _⟩
  | @more ts k op q us l r _ hk hr ih =>
    intro s u rest e hu hs
    obtain ⟨hkop, hkend, hkp⟩ := hop k op hk
    rw [List.append_assoc] at hs
    obtain ⟨s1, hs1, h1⟩ := ih s ⟨k, q⟩ (us ++ u :: rest) e hkp hs
    obtain ⟨s2, h2, hs2⟩ := run_current_cons hs1
    obtain ⟨s3, h3, hs3⟩ := exists_run_eat us hs2
    obtain ⟨s4, h4, hs4⟩ := ho s3 us u rest e r hr hu hs3
    have hround : operators (Token.kind ⟨k, q⟩) = some op := hkop
    have hbody : (do return .binary op q l (← operand) : Parse Tree).run s3 =
        (.ok (.binary op q l r), s4) := run_bind_ok h4 _
    refine ⟨s4, hs4, ?_⟩
    rw [h1, run_loop, run_bind_ok h2, hround]
    dsimp only
    rw [if_neg hkend, run_bind_ok h3, run_bind_ok hbody]

theorem takes_chain (ho : Takes operand D p)
    (hop : ∀ k op, operator k op → operators k.kind = some op ∧ k.kind ≠ .endOfInput ∧ p k.kind) :
    Takes (chain operators operand) (Chain operator D) fun k => p k ∧ operators k = none := by
  intro s us u rest e t h hu hs
  obtain ⟨s1, hs1, h1⟩ := run_chain ho hop h s u rest e hu.1 hs
  obtain ⟨s2, h2, hs2⟩ := run_current_cons hs1
  refine ⟨s2, ?_, hs2⟩
  rw [h1, run_loop, run_bind_ok h2, hu.2]
  rfl

end

/-! ### Factors and expressions -/

theorem takes_expressionOf {factor : Parse Tree} {D : List Token → Tree → Prop}
    (hf : Takes factor D fun _ => True) :
    Takes (expressionOf factor) (ExpressionOver D)
      fun k => multiplicative? k = none ∧ additive? k = none := by
  have hterm : Takes (termOf factor) (TermOver D) fun k => True ∧ multiplicative? k = none := by
    refine takes_chain hf fun k op hk => ?_
    cases hk <;> exact ⟨rfl, nofun, trivial⟩
  have hexpression : Takes (expressionOf factor) (ExpressionOver D)
      fun k => (True ∧ multiplicative? k = none) ∧ additive? k = none := by
    refine takes_chain hterm fun k op hk => ?_
    cases hk <;> exact ⟨rfl, nofun, trivial, rfl⟩
  intro s us u rest e t h hu hs
  exact hexpression s us u rest e t h ⟨⟨trivial, hu.1⟩, hu.2⟩ hs

/-- **A factor within the limit is taken**, whatever comes behind it. -/
theorem takes_factor : ∀ d, Takes (factor d) (FactorWithin d) fun _ => True
  | 0 => fun _ _ _ _ _ _ h => h.elim
  | d + 1 => by
    have ih := takes_factor d
    intro s us u rest e t h _ hs
    unfold factor
    cases h with
    | @sign k sg q ts t hk h =>
      obtain ⟨s1, h1, hs1⟩ := run_current_cons hs
      obtain ⟨s2, h2, hs2⟩ := exists_run_eat ts hs1
      obtain ⟨s3, h3, hs3⟩ := ih s2 ts u rest e t h trivial hs2
      refine ⟨s3, ?_, hs3⟩
      rw [run_bind_ok h1]
      cases hk <;> exact (run_bind_ok h2 _).trans (run_bind_ok h3 _)
    | number =>
      obtain ⟨s1, h1, hs1⟩ := run_current_cons hs
      obtain ⟨s2, h2, hs2⟩ := exists_run_eat [] hs1
      exact ⟨s2, (run_bind_ok h1 _).trans (run_bind_ok h2 _), hs2⟩
    | name =>
      obtain ⟨s1, h1, hs1⟩ := run_current_cons hs
      obtain ⟨s2, h2, hs2⟩ := exists_run_eat [] hs1
      exact ⟨s2, (run_bind_ok h1 _).trans (run_bind_ok h2 _), hs2⟩
    | @parens q q' ts t h =>
      rw [List.cons_append, List.append_assoc] at hs
      obtain ⟨s1, h1, hs1⟩ := run_current_cons hs
      obtain ⟨s2, h2, hs2⟩ := exists_run_eat ts hs1
      obtain ⟨s3, h3, hs3⟩ := takes_expressionOf ih s2 ts _ _ e t h ⟨rfl, rfl⟩ hs2
      obtain ⟨s4, h4, hs4⟩ := exists_run_eat [] hs3
      refine ⟨s4, ?_, hs4⟩
      rw [run_bind_ok h1]
      exact (run_bind_ok h2 _).trans ((run_bind_ok h3 _).trans (run_bind_ok h4 _))

theorem takes_expression (d : Nat) : Takes (expression d) (ExpressionWithin d)
    fun k => multiplicative? k = none ∧ additive? k = none :=
  takes_expressionOf (takes_factor d)

theorem run_soleExpression {d : Nat} {s : TokenStream} {us : List Token} {q : Int} {t : Tree}
    (h : ExpressionWithin d us t) (hs : s.Holds (us ++ [⟨.endOfInput, q⟩]) none) :
    ∃ s', (soleExpression d).run s = (.ok t, s') := by
  obtain ⟨s1, h1, hs1⟩ := takes_expression d s us _ [] none t h ⟨rfl, rfl⟩ hs
  obtain ⟨s2, h2⟩ := run_eat_end hs1
  exact ⟨s2, (run_bind_ok h1 _).trans (run_bind_ok h2 _)⟩

end Parse

open Grammar Parse in
/-- **An expression is parsed exactly if it is nested within the limit.** -/
theorem parseExpression_iff_within {limit : Nat} {source : List Char} {t : Tree} :
    parseExpression limit source = .ok t ↔ ∃ us p,
      tokenize source = .ok (us ++ [⟨.endOfInput, p⟩]) ∧ ExpressionWithin limit us t := by
  constructor
  · intro h
    have he : Ends (toEnd expressionAgenda)
        (fun ts t => ∃ us p, ts = us ++ [⟨.endOfInput, p⟩] ∧ ExpressionWithin limit us t)
        (Cursor.start source).feed.1 (Cursor.start source).feed.2
        ((soleExpression limit).run (TokenStream.start source)).1 :=
      (follows_expression limit).ends (fun us t p ht => ⟨us, p, rfl, ht⟩)
        (TokenStream.holds_start source)
    unfold parseExpression onSource at h
    generalize (soleExpression limit).run (TokenStream.start source) = r at h he
    obtain ⟨r, s⟩ := r
    dsimp only at he
    cases he with
    | ok hn hS =>
      cases h
      obtain ⟨us, p, hus, ht⟩ := hS
      exact ⟨us, p, Cursor.tokenize_eq_ok_iff.mpr (Prod.ext hus hn), ht⟩
    | refused us _ _ _ _ => cases h
    | faulty _ _ => cases h
    | deep => cases h
  · rintro ⟨us, p, hts, ht⟩
    have hs : (TokenStream.start source).Holds (us ++ [⟨.endOfInput, p⟩]) none :=
      .unread (Cursor.tokenize_eq_ok_iff.mp hts)
    obtain ⟨s', hrun⟩ := run_soleExpression ht hs
    rw [parseExpression, onSource, hrun]

end BlockCalc
