import BlockCalc.Proofs.Enclosed
import BlockCalc.Proofs.Grammar.Operators
import BlockCalc.Proofs.Parsing.Depth

/-! # Precedence

How an expression is understood can be said of its tokens alone, without a grammar (`Cuts`). Among the
operators outside of parentheses the last `+` or `-` is applied last; if there is none, the last `*`
or `/` is; if there is none either, a sign at the beginning is; and what then is not a single token
stands in parentheses. Every list of tokens is cut in one way at most (`Cuts.unique`), and the parts
are shorter than the list.

The tree that the parser gives is made by this rule, and each part of the tokens, in any text that has
these tokens and no others, is parsed by itself to the subtree that stands for it (`ParsedAlone`). So
the value of an expression is what arithmetic by the rule computes (`Computes`).

* `made_of_within`: the trees of the grammar are made by the rule.
* `alone_of_within`: the parts of a text can be parsed by themselves.
* `expression_precedence`: both, and the value. -/

namespace BlockCalc

open Grammar
open Parse (additive? multiplicative?)

/-- The parts of a list of tokens. -/
inductive Cut
  | binary (op : Operator) (offset : Int) (before after : List Token)
  | sign (sign : Sign) (offset : Int) (rest : List Token)
  | parens (inner : List Token)
  | number (value : Binary64) (offset : Int)
  | name (text : String) (offset : Int)

/-- The rule by which tokens are cut into parts. -/
inductive Cuts : List Token → Cut → Prop
  | sum {us before k after op} : LastBinary additive? us before k after op →
      Cuts us (.binary op k.offset before after)
  | product {us before k after op} : Without additive? us →
      LastBinary multiplicative? us before k after op → Cuts us (.binary op k.offset before after)
  | sign {k s rest} : Without additive? (k :: rest) → Without multiplicative? (k :: rest) →
      Sign.ofKind? k.kind = some s → Cuts (k :: rest) (.sign s k.offset rest)
  | parens {p q inner} : Without additive? (⟨.openParen, p⟩ :: (inner ++ [⟨.closeParen, q⟩])) →
      Without multiplicative? (⟨.openParen, p⟩ :: (inner ++ [⟨.closeParen, q⟩])) →
      Brackets.parens.Balanced inner →
      Cuts (⟨.openParen, p⟩ :: (inner ++ [⟨.closeParen, q⟩])) (.parens inner)
  | number {x p} : Cuts [⟨.number x, p⟩] (.number x p)
  | name {x p} : Cuts [⟨.name x, p⟩] (.name x p)

variable {us : List Token} {t : Tree} {env : Environment} {limit : Nat}

namespace Cuts

theorem eq_of_sum {c : Cut} {before after : List Token} {k : Token} {op : Operator}
    (h : Cuts us c) (hlast : LastBinary additive? us before k after op) :
    c = .binary op k.offset before after := by
  cases h with
  | sum h =>
    obtain ⟨rfl, rfl, rfl, rfl⟩ := hlast.unique h
    rfl
  | product hno _ => exact (hno _ _ _ _ hlast.toTopBinary).elim
  | sign hno _ _ => exact (hno _ _ _ _ hlast.toTopBinary).elim
  | parens hno _ _ => exact (hno _ _ _ _ hlast.toTopBinary).elim
  | number => exact (without_singleton _ _ _ _ hlast.toTopBinary).elim
  | name => exact (without_singleton _ _ _ _ hlast.toTopBinary).elim

theorem eq_of_product {c : Cut} {before after : List Token} {k : Token} {op : Operator}
    (h : Cuts us c) (hno : Without additive? us)
    (hlast : LastBinary multiplicative? us before k after op) :
    c = .binary op k.offset before after := by
  cases h with
  | sum h => exact (hno _ _ _ _ h.toTopBinary).elim
  | product _ h =>
    obtain ⟨rfl, rfl, rfl, rfl⟩ := hlast.unique h
    rfl
  | sign _ hproduct _ => exact (hproduct _ _ _ _ hlast.toTopBinary).elim
  | parens _ hproduct _ => exact (hproduct _ _ _ _ hlast.toTopBinary).elim
  | number => exact (without_singleton _ _ _ _ hlast.toTopBinary).elim
  | name => exact (without_singleton _ _ _ _ hlast.toTopBinary).elim

/-- **Tokens are cut in one way at most.** -/
theorem unique {c c' : Cut} (h : Cuts us c) (h' : Cuts us c') : c' = c := by
  cases h with
  | sum hlast => exact h'.eq_of_sum hlast
  | product hno hlast => exact h'.eq_of_product hno hlast
  | sign hsum hproduct hs =>
    cases h' with
    | sum hlast => exact (hsum _ _ _ _ hlast.toTopBinary).elim
    | product _ hlast => exact (hproduct _ _ _ _ hlast.toTopBinary).elim
    | sign _ _ hs' => rw [Option.some.inj (hs'.symm.trans hs)]
    | parens _ _ _ => cases hs
    | number => cases hs
    | name => cases hs
  | parens hsum hproduct _ =>
    generalize hus : _ :: (_ ++ [_]) = us at h'
    cases h' with
    | sum hlast => exact (hsum _ _ _ _ (hus ▸ hlast.toTopBinary)).elim
    | product _ hlast => exact (hproduct _ _ _ _ (hus ▸ hlast.toTopBinary)).elim
    | sign _ _ hs =>
      rw [← (List.cons.inj hus).1] at hs
      cases hs
    | parens _ _ _ => rw [List.append_inj_left' (List.cons.inj hus).2 rfl]
    | number => cases hus
    | name => cases hus
  | number =>
    cases h' with
    | sum hlast => exact (without_singleton _ _ _ _ hlast.toTopBinary).elim
    | product _ hlast => exact (without_singleton _ _ _ _ hlast.toTopBinary).elim
    | sign _ _ hs => cases hs
    | number => rfl
  | name =>
    cases h' with
    | sum hlast => exact (without_singleton _ _ _ _ hlast.toTopBinary).elim
    | product _ hlast => exact (without_singleton _ _ _ _ hlast.toTopBinary).elim
    | sign _ _ hs => cases hs
    | name => rfl

theorem split_binary {op : Operator} {p : Int} {before after : List Token}
    (h : Cuts us (.binary op p before after)) : ∃ k, us = before ++ k :: after := by
  generalize hc : Cut.binary op p before after = c at h
  cases h with
  | sum h =>
    cases hc
    exact ⟨_, h.split⟩
  | product _ h =>
    cases hc
    exact ⟨_, h.split⟩
  | _ => cases hc

end Cuts

/-! ### Trees -/

/-- The tree is made as its tokens are cut, from the trees of their parts. -/
inductive Made (R : List Token → Tree → Prop) (us : List Token) : Tree → Prop
  | binary {op p before after l r} : Cuts us (.binary op p before after) → R before l → R after r →
      Made R us (.binary op p l r)
  | sign {s p rest t} : Cuts us (.sign s p rest) → R rest t → Made R us (.unary s p t)
  | parens {inner t} : Cuts us (.parens inner) → R inner t → Made R us t
  | number {x p} : Cuts us (.number x p) → Made R us (.number x p)
  | name {x p} : Cuts us (.name x p) → Made R us (.name x p)

theorem Made.mono {R R' : List Token → Tree → Prop} (h : Made R us t)
    (hR : ∀ before part after u, us = before ++ (part ++ after) → part.length < us.length →
      R part u → R' part u) : Made R' us t := by
  cases h with
  | @binary _ _ before after _ _ hc hl hr =>
    obtain ⟨k, rfl⟩ := hc.split_binary
    refine .binary hc (hR [] before (k :: after) _ rfl ?_ hl)
      (hR (before ++ [k]) after [] _ (by simp) ?_ hr)
    · simp
    · simp only [List.length_append, List.length_cons]
      omega
  | @sign _ _ rest _ hc h =>
    refine .sign hc ?_
    cases hc with
    | @sign k => exact hR [k] rest [] _ (by simp) (by simp) h
  | @parens inner _ hc h =>
    refine .parens hc ?_
    cases hc with
    | @parens p q =>
      refine hR [⟨.openParen, p⟩] inner [⟨.closeParen, q⟩] _ rfl ?_ h
      simp only [List.length_append, List.length_cons]
      omega
  | number hc => exact .number hc
  | name hc => exact .name hc

/-- **The trees of the grammar are made by the rule.** -/
theorem made_of_within {d : Nat} (h : ExpressionWithin d us t) :
    Made (ExpressionWithin d) us t := by
  -- The three levels of the grammar, from the loosest to the tightest.
  cases h with
  | @more _ _ _ p _ _ _ hl hk hr =>
    have hafter : Without additive? _ :=
      TermOver.without hr (fun _ _ hf => hf.whole) fun _ _ hf => hf.without
    refine .binary (.sum (last_join (ExpressionWithin.whole hl) (joins_additive hk p) ?_ hafter))
      hl (.one hr)
    cases hk <;> rfl
  | one hterm =>
    have hsum : Without additive? us :=
      TermOver.without hterm (fun _ _ hf => hf.whole) fun _ _ hf => hf.without
    cases hterm with
    | @more _ _ _ p _ _ _ hl hk hr =>
      have hbefore := TermOver.whole hl fun _ _ hf => hf.whole
      refine .binary (.product hsum (last_join hbefore (joins_multiplicative hk p) ?_ hr.without))
        (.one hl) (.one (.one hr))
      cases hk <;> rfl
    | one hfactor =>
      have hproduct : Without multiplicative? us := hfactor.without
      rcases d with _ | d
      · exact hfactor.elim
      · cases hfactor with
        | @sign k s p _ _ hk hinner =>
          have hs : Sign.ofKind? (Token.kind ⟨k, p⟩) = some s := by cases hk <;> rfl
          exact .sign (.sign hsum hproduct hs)
            (.one (.one (FactorWithin.of_le (Nat.le_succ d) hinner)))
        | number => exact .number .number
        | name => exact .name .name
        | parens hinner =>
          have hwhole : Whole _ := ExpressionWithin.whole hinner
          exact .parens (.parens hsum hproduct hwhole.balanced)
            (ExpressionWithin.of_le (Nat.le_succ d) hinner)

/-! ### Values -/

/-- What arithmetic gives for tokens that are cut by the rule. The operand on the left comes first,
and its fault is the fault of both. -/
inductive Computes (env : Environment) : List Token → Except Cause Binary64 → Prop
  | binary {us op p before after a b} : Cuts us (.binary op p before after) →
      Computes env before a → Computes env after b →
      Computes env us (a.bind fun x => b.map (op.apply x))
  | sign {us s p rest a} : Cuts us (.sign s p rest) → Computes env rest a →
      Computes env us (a.map s.apply)
  | parens {us inner a} : Cuts us (.parens inner) → Computes env inner a → Computes env us a
  | number {us x p} : Cuts us (.number x p) → Computes env us (.ok x)
  | name {us x p} : Cuts us (.name x p) → Computes env us (env.lookup x)

/-- The value of a cut, from the values of its parts. -/
def Cut.Value (env : Environment) (R : List Token → Except Cause Binary64 → Prop) :
    Cut → Except Cause Binary64 → Prop
  | .binary op _ before after, v =>
    ∃ a b, R before a ∧ R after b ∧ v = a.bind fun x => b.map (op.apply x)
  | .sign s _ rest, v => ∃ a, R rest a ∧ v = a.map s.apply
  | .parens inner, v => R inner v
  | .number x _, v => v = .ok x
  | .name x _, v => v = env.lookup x

namespace Computes

theorem cut {v : Except Cause Binary64} (h : Computes env us v) :
    ∃ c, Cuts us c ∧ c.Value env (Computes env) v := by
  cases h with
  | binary hc hl hr => exact ⟨_, hc, _, _, hl, hr, rfl⟩
  | sign hc h => exact ⟨_, hc, _, h, rfl⟩
  | parens hc h => exact ⟨_, hc, h⟩
  | number hc => exact ⟨_, hc, rfl⟩
  | name hc => exact ⟨_, hc, rfl⟩

theorem unique {v w : Except Cause Binary64} (h : Computes env us v) (h' : Computes env us w) :
    w = v := by
  induction h generalizing w with
  | binary hc _ _ ihl ihr =>
    obtain ⟨c, hc', hw⟩ := h'.cut
    cases hc.unique hc'
    obtain ⟨a, b, ha, hb, rfl⟩ := hw
    rw [ihl ha, ihr hb]
  | sign hc _ ih =>
    obtain ⟨c, hc', hw⟩ := h'.cut
    cases hc.unique hc'
    obtain ⟨a, ha, rfl⟩ := hw
    rw [ih ha]
  | parens hc _ ih =>
    obtain ⟨c, hc', hw⟩ := h'.cut
    cases hc.unique hc'
    exact ih hw
  | number hc =>
    obtain ⟨c, hc', hw⟩ := h'.cut
    cases hc.unique hc'
    exact hw
  | name hc =>
    obtain ⟨c, hc', hw⟩ := h'.cut
    cases hc.unique hc'
    exact hw

end Computes

theorem Made.computes
    (h : Made (fun us t => Computes env us (t.meaning env)) us t) :
    Computes env us (t.meaning env) := by
  cases h with
  | binary hc hl hr =>
    rw [Tree.meaning_binary]
    exact .binary hc hl hr
  | sign hc h =>
    rw [Tree.meaning_unary]
    exact .sign hc h
  | parens hc h => exact .parens hc h
  | number hc => exact .number hc
  | name hc => exact .name hc

theorem computes_of_within (env : Environment) {d : Nat} (h : ExpressionWithin d us t) :
    Computes env us (t.meaning env) := by
  -- By the number of tokens and not by the tree, since parentheses leave the tree as it is.
  induction hn : us.length using Nat.strongRecOn generalizing us t with
  | ind n ih =>
    refine ((made_of_within h).mono fun _ part _ u _ hlt hu => ?_).computes
    exact ih part.length (hn ▸ hlt) hu rfl

/-! ### Parts of a text -/

/-- A text whose tokens are these, wherever they stand. -/
def HasTokens (text : List Char) (us : List Token) : Prop :=
  ∃ ts p, tokenize text = .ok (ts ++ [⟨.endOfInput, p⟩]) ∧
    ts.map Token.lexeme = us.map Token.lexeme

/-- There is a text with these tokens, and every such text is parsed to this tree. -/
structure ParsedAlone (limit : Nat) (us : List Token) (t : Tree) : Prop where
  exists_text : ∃ text, HasTokens text us
  parsed : ∀ text, HasTokens text us →
    ∃ u, parseExpression limit text = .ok u ∧ t.same u = true ∧ u.unplaced = t.unplaced

theorem hasTokens_rest {c : Cursor} {p : Int} (h : c.feed = (us ++ [⟨.endOfInput, p⟩], none)) :
    HasTokens c.rest us := by
  have hl : lexemes (Cursor.feed ⟨c.offset, c.rest⟩) = lexemes (Cursor.start c.rest).feed :=
    Cursor.lexemes_feed_offset _ _ _
  obtain ⟨hl, hc⟩ := Prod.mk.inj hl
  rw [h] at hl hc
  have hfeed : (Cursor.start c.rest).feed = ((Cursor.start c.rest).feed.1, none) :=
    Prod.ext rfl (Option.map_eq_none_iff.mp hc.symm)
  obtain ⟨ts, q, hts⟩ := Cursor.exists_end_of_feed hfeed
  rw [hts] at hfeed hl
  refine ⟨ts, q, Cursor.tokenize_eq_ok_iff.mpr hfeed, ?_⟩
  rw [List.map_append, List.map_append] at hl
  exact (List.append_inj_left' hl rfl).symm

/-- **Parts of a text can be parsed by themselves.** -/
theorem alone_of_within {source : List Char} {before part after : List Token} {q : Int}
    (hsource : tokenize source = .ok (before ++ (part ++ after) ++ [⟨.endOfInput, q⟩]))
    (h : ExpressionWithin limit part t) : ParsedAlone limit part t := by
  obtain ⟨c, p, hc⟩ := Cursor.exists_part hsource
  refine ⟨⟨c.rest, hasTokens_rest hc⟩, ?_⟩
  rintro text ⟨ts, p', hts, hlexemes⟩
  rw [Cursor.tokenize_eq_ok_iff] at hts
  have hl : lexemes c.feed = lexemes (Cursor.start text).feed := by
    simp only [lexemes, hc, hts, List.map_append, hlexemes]
    rfl
  obtain ⟨s, hrun⟩ := Parse.run_soleExpression (s := ⟨c, none⟩) h (.unread hc)
  have hbeside : TokenStream.Beside BothEnd ⟨c, none⟩ (TokenStream.start text) :=
    ⟨_, _, _, _, .unread rfl, TokenStream.holds_start text, matched_of_lexemes hl⟩
  have hlt : limit < limit → False := Nat.lt_irrefl limit
  have htallies := Parse.parallel_soleExpression hlt hlt _ _ hbeside
  rw [hrun] at htallies
  have hparse : ∃ u, parseExpression limit text = .ok u ∧ t.unplaced = u.unplaced := by
    unfold parseExpression Parse.onSource
    generalize (Parse.soleExpression limit).run (TokenStream.start text) = r at htallies
    cases htallies with
    | ok htu _ => exact ⟨_, rfl, htu⟩
    | deepRight hd => exact hd.elim
  obtain ⟨u, hu, htu⟩ := hparse
  exact ⟨u, hu, same_of_unplaced hu htu, htu.symm⟩

/-- **Precedence and association.** The tree of an expression is made as the rule cuts its tokens:
the last `+` or `-` outside of parentheses that stands behind an operand is the root, if there is one,
else the last such `*` or `/`, else a sign at the beginning; otherwise the tokens are enclosed in
parentheses that belong together, or are a single number or name. The subtrees are what the parts of
the tokens are parsed to by themselves. In every environment arithmetic by this rule gives one value
or fault, and evaluation gives the same, unless the tree is higher than the limit allows. -/
theorem expression_precedence {limit : Nat} {source : List Char} {t : Tree}
    (h : parseExpression limit source = .ok t) :
    ∃ us p, tokenize source = .ok (us ++ [⟨.endOfInput, p⟩]) ∧ Brackets.parens.Balanced us ∧
      Made (ParsedAlone limit) us t ∧
      ∀ env, ∃ v, Computes env us v ∧ (∀ w, Computes env us w → w = v) ∧
        (evaluateSource limit source env = v.mapError Fault.of ∨
          limit < t.height ∧
            evaluateSource limit source env = .error (Fault.of .evaluationTooDeep)) := by
  obtain ⟨us, p, hts, hus⟩ := parseExpression_iff_within.mp h
  refine ⟨us, p, hts, hus.whole.balanced, ?_, fun env => ?_⟩
  · refine (made_of_within hus).mono fun before part after u hsplit _ hu => ?_
    exact alone_of_within (hsplit ▸ hts) hu
  · have hv := computes_of_within env hus
    refine ⟨t.meaning env, hv, fun w hw => hv.unique hw, ?_⟩
    rw [evaluateSource_of_parse h]
    rcases evaluate_cases limit t env with he | ⟨hlt, he⟩
    · rw [he]
      exact .inl rfl
    · rw [he]
      exact .inr ⟨hlt, rfl⟩

/-- Of three tokens `-` one is a sign and binds tightest, and the last one is the root. -/
theorem expression_precedence_signs : ∃ us p t,
    tokenize "8 - -2 * 3 - 1".toList = .ok (us ++ [⟨.endOfInput, p⟩]) ∧
    Made (ParsedAlone depthLimit) us t ∧ t.render = "((8 - (-2 * 3)) - 1)".toList ∧
    Computes .empty us (.ok (numeralValue "13".toList)) := by
  have hv : evaluateSource depthLimit "8 - -2 * 3 - 1".toList .empty =
      .ok (numeralValue "13".toList) := by decide +kernel
  obtain ⟨t, ht, hrender⟩ := exists_ok_of_map (r := parseExpression depthLimit
    "8 - -2 * 3 - 1".toList) (f := Tree.render) (b := "((8 - (-2 * 3)) - 1)".toList)
    (by decide +kernel)
  obtain ⟨us, p, hts, -, hmade, hvalue⟩ := expression_precedence ht
  obtain ⟨v, hcomputes, -, he⟩ := hvalue .empty
  generalize numeralValue "13".toList = y at hv ⊢
  rcases he with he | ⟨-, he⟩
  · rw [hv] at he
    rcases v with c | x
    · cases he
    · cases he
      exact ⟨us, p, t, hts, hmade, hrender, hcomputes⟩
  · rw [hv] at he
    cases he

end BlockCalc
