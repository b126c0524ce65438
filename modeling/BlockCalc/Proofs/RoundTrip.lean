import BlockCalc.Proofs.Tree.Spelling

/-! # Parsing the text of a tree

The text of a tree, read again, gives back its tree up to offsets, as long as the text of every number
is read as one lexeme. There are two exceptions. Infinity is read as a name, which leaves a name in
the tree where there was a number. A number below `10 ^ (-4)` is written with an exponent, and the
letter of the exponent is a name after a number, where no sentence has one.

* `factor_of_spelling`, `block_of_spelling`: without tiny numbers, the spelling of a tree is a
  sentence, and its tree is the same with infinite numbers named.
* `sticks_of_spelling`, `block_sticks`: with a tiny number, the spelling sticks at a name.
* `parse_render`: what becomes of the text of a parsed tree. -/

namespace BlockCalc

open Grammar

namespace Tree

/-! ### From lexemes to a tree -/

theorem exists_of_map_cons {ts : List Token} {l : Lexeme} {ls : List Lexeme}
    (h : ts.map Token.lexeme = l :: ls) : ∃ p us, ts = ⟨l, p⟩ :: us ∧ us.map Token.lexeme = ls := by
  obtain ⟨⟨k, p⟩, us, rfl, hk, hus⟩ := List.map_eq_cons_iff.mp h
  exact ⟨p, us, by rw [← hk], hus⟩

theorem eq_singleton_of_map {ts : List Token} {l : Lexeme} (h : ts.map Token.lexeme = [l]) :
    ∃ p, ts = [⟨l, p⟩] := by
  obtain ⟨p, us, rfl, hus⟩ := exists_of_map_cons h
  exact ⟨p, by rw [List.map_eq_nil_iff.mp hus]⟩

end Tree

namespace Grammar

theorem Term.of_factor {ts : List Token} {t : Tree} (h : Factor ts t) : Term ts t := by
  have := Term.chain h .done
  rwa [List.append_nil] at this

theorem Expression.of_term {ts : List Token} {t : Tree} (h : Term ts t) : Expression ts t := by
  have := Expression.chain h .done
  rwa [List.append_nil] at this

theorem Expression.of_factor {ts : List Token} {t : Tree} (h : Factor ts t) : Expression ts t :=
  .of_term (.of_factor h)

theorem Products.one {k : Lexeme} {op : Operator} {p : Int} {ts : List Token} {l r : Tree}
    (hk : Multiplicative k op) (h : Factor ts r) : Products l (⟨k, p⟩ :: ts) (.binary op p l r) := by
  have := Products.more (p := p) (l := l) hk h .done
  rwa [List.append_nil] at this

theorem Sums.one {k : Lexeme} {op : Operator} {p : Int} {ts : List Token} {l r : Tree}
    (hk : Additive k op) (h : Term ts r) : Sums l (⟨k, p⟩ :: ts) (.binary op p l r) := by
  have := Sums.more (p := p) (l := l) hk h .done
  rwa [List.append_nil] at this

theorem Expression.binary {ts us : List Token} {l r : Tree} (hl : Factor ts l) (hr : Factor us r)
    (p : Int) : ∀ op : Operator, Expression (ts ++ ⟨op.lexeme, p⟩ :: us) (.binary op p l r)
  | .add => .chain (.of_factor hl) (.one .plus (.of_factor hr))
  | .sub => .chain (.of_factor hl) (.one .minus (.of_factor hr))
  | .mul => .of_term (.chain hl (.one .times hr))
  | .div => .of_term (.chain hl (.one .slash hr))

theorem signed_lexeme : ∀ s : Sign, Signed s.lexeme s
  | .plus => .plus
  | .minus => .minus

end Grammar

namespace Tree

/-- No number is tiny. -/
def NoTiny (ns : List Binary64) : Prop := ∀ x ∈ ns, x.isTiny = false

/-- **The spelling of an expression is a factor**, with infinite numbers named. -/
theorem factor_of_spelling : ∀ (t : Tree), t.isExpression = true → NoTiny t.numbers →
    ∀ ts : List Token, ts.map Token.lexeme = t.spelling →
      ∃ u, Factor ts u ∧ u.unplaced = t.nameInfinite.unplaced
  | number x q, _, hn, ts, hts => by
    rw [spelling] at hts
    rw [nameInfinite]
    rcases hx : x.isInfinite with _ | _
    · rw [Binary64.spelling_plain hx (hn x List.mem_cons_self)] at hts
      obtain ⟨p, rfl⟩ := eq_singleton_of_map hts
      exact ⟨_, .number, rfl⟩
    · rw [Binary64.spelling, if_pos hx] at hts
      obtain ⟨p, rfl⟩ := eq_singleton_of_map hts
      exact ⟨_, .name, rfl⟩
  | name s q, _, _, ts, hts => by
    obtain ⟨p, rfl⟩ := eq_singleton_of_map hts
    exact ⟨_, .name, rfl⟩
  | binary op q l r, ht, hn, ts, hts => by
    rw [isExpression, Bool.and_eq_true] at ht
    obtain ⟨p, us, rfl, hus⟩ := exists_of_map_cons hts
    obtain ⟨vs, ys, rfl, hvs, hys⟩ := List.map_eq_append_iff.mp hus
    obtain ⟨o, zs, rfl, hzs⟩ := exists_of_map_cons hys
    obtain ⟨ws, xs, rfl, hws, hxs⟩ := List.map_eq_append_iff.mp hzs
    obtain ⟨z, rfl⟩ := eq_singleton_of_map hxs
    obtain ⟨hnl, hnr⟩ := List.forall_mem_append.mp hn
    obtain ⟨l', hl, hul⟩ := factor_of_spelling l ht.1 hnl vs hvs
    obtain ⟨r', hr, hur⟩ := factor_of_spelling r ht.2 hnr ws hws
    refine ⟨.binary op o l' r', ?_, ?_⟩
    · have := Factor.parens (p := p) (q := z) (Expression.binary hl hr o op)
      rwa [List.append_assoc] at this
    · rw [unplaced, nameInfinite, unplaced, hul, hur]
  | unary s q t, ht, hn, ts, hts => by
    rw [isExpression] at ht
    obtain ⟨p, us, rfl, hus⟩ := exists_of_map_cons hts
    obtain ⟨u, hu, huu⟩ := factor_of_spelling t ht hn us hus
    refine ⟨.unary s p u, .sign (signed_lexeme s) hu, ?_⟩
    rw [unplaced, nameInfinite, unplaced, huu]

mutual

theorem statement_of_spelling : ∀ (t : Tree), t.isStatement = true → NoTiny t.numbers →
    ∀ ts : List Token, ts.map Token.lexeme = t.spelling →
      ∃ u, Statement ts u ∧ u.unplaced = t.nameInfinite.unplaced
  | assign x _ _ v, ht, hn, ts, hts => by
    rw [isStatement] at ht
    obtain ⟨q, us, rfl, hus⟩ := exists_of_map_cons hts
    obtain ⟨p, vs, rfl, hvs⟩ := exists_of_map_cons hus
    obtain ⟨w, hw, huw⟩ := factor_of_spelling v ht hn vs hvs
    refine ⟨.assign x q p w, .assignment (.mk (.of_factor hw)), ?_⟩
    rw [unplaced, nameInfinite, unplaced, huw]
  | block q cs, ht, hn, ts, hts => by
    rw [isStatement, Bool.and_eq_true] at ht
    obtain ⟨u, hu, huu⟩ := block_of_spelling cs q ht.1 ht.2 hn ts hts
    exact ⟨u, .block hu, huu⟩
  | empty, _, _, ts, hts => by
    rw [List.map_eq_nil_iff.mp hts]
    exact ⟨_, .empty, rfl⟩

theorem statements_of_spelling : ∀ (cs : List Tree), areStatements cs = true →
    NoTiny (numbersAll cs) → ∀ ts : List Token, ts.map Token.lexeme = spellingRest cs →
      ∃ us, Statements ts us ∧ unplacedAll us = unplacedAll (nameInfiniteAll cs)
  | [], _, _, ts, hts => by
    rw [List.map_eq_nil_iff.mp hts]
    exact ⟨_, .done, rfl⟩
  | c :: cs, ht, hn, ts, hts => by
    rw [areStatements, Bool.and_eq_true] at ht
    obtain ⟨p, us, rfl, hus⟩ := exists_of_map_cons hts
    obtain ⟨vs, ws, rfl, hvs, hws⟩ := List.map_eq_append_iff.mp hus
    obtain ⟨hc, hcs⟩ := List.forall_mem_append.mp hn
    obtain ⟨u, hu, huu⟩ := statement_of_spelling c ht.1 hc vs hvs
    obtain ⟨ds, hds, hud⟩ := statements_of_spelling cs ht.2 hcs ws hws
    refine ⟨u :: ds, .more hu hds, ?_⟩
    rw [unplacedAll, nameInfiniteAll, unplacedAll, huu, hud]

/-- **The spelling of a block is a block**, with infinite numbers named. -/
theorem block_of_spelling : ∀ (cs : List Tree) (q : Int), (!cs.isEmpty) = true →
    areStatements cs = true → NoTiny (numbersAll cs) →
    ∀ ts : List Token, ts.map Token.lexeme = (block q cs).spelling →
      ∃ u, Block ts u ∧ u.unplaced = (block q cs).nameInfinite.unplaced
  | c :: cs, q, _, ht, hn, ts, hts => by
    rw [areStatements, Bool.and_eq_true] at ht
    obtain ⟨p, us, rfl, hus⟩ := exists_of_map_cons hts
    obtain ⟨ys, ws, rfl, hys, hws⟩ := List.map_eq_append_iff.mp hus
    obtain ⟨vs, xs, rfl, hvs, hxs⟩ := List.map_eq_append_iff.mp hys
    obtain ⟨z, rfl⟩ := eq_singleton_of_map hws
    obtain ⟨hc, hcs⟩ := List.forall_mem_append.mp hn
    obtain ⟨u, hu, huu⟩ := statement_of_spelling c ht.1 hc vs hvs
    obtain ⟨ds, hds, hud⟩ := statements_of_spelling cs ht.2 hcs xs hxs
    refine ⟨.block p (u :: ds), ?_, ?_⟩
    · rw [List.append_assoc]
      exact .mk hu hds
    · rw [unplaced, nameInfinite, unplaced, nameInfiniteAll, unplacedAll, unplacedAll, huu, hud]

end

/-! ### Where a spelling sticks -/

/-- The kinds of lexemes. -/
abbrev lexemeKinds (ls : List Lexeme) : List Kind := ls.map Lexeme.kind

theorem exists_tokens (ls : List Lexeme) :
    ∃ ts : List Token, ts.map Token.lexeme = ls ∧ kinds ts = lexemeKinds ls := by
  refine ⟨ls.map fun l => ⟨l, 0⟩, ?_, ?_⟩
  · rw [List.map_map]
    exact List.map_id ls
  · rw [kinds, List.map_map]
    rfl

theorem follow_of_spelling {t : Tree} (ht : t.isExpression = true) (hn : NoTiny t.numbers)
    (σ : List Part) : follow? (.factor :: σ) (lexemeKinds t.spelling) = some σ := by
  obtain ⟨ts, hts, hk⟩ := exists_tokens t.spelling
  obtain ⟨u, hu, -⟩ := factor_of_spelling t ht hn ts hts
  rw [← hk]
  exact hu.follow σ

theorem follow_of_spelling_semicolon {t : Tree} (ht : t.isStatement = true) (hn : NoTiny t.numbers)
    (σ : List Part) :
    follow? ([.statement, .statements] ++ σ) (lexemeKinds t.spelling ++ [.semicolon]) =
      some ([.statement, .statements] ++ σ) := by
  obtain ⟨ts, hts, hk⟩ := exists_tokens t.spelling
  obtain ⟨u, hu, -⟩ := statement_of_spelling t ht hn ts hts
  obtain ⟨τ, hτ, hf⟩ := hu.follow
  rw [← hk, follow?_append, List.cons_append, hf]
  exact hτ.1.follow? _ _

/-- An agenda can be followed along these kinds up to a name, and not along it. -/
def Sticks (X : List Part) (ks : List Kind) : Prop :=
  ∃ us vs, ks = us ++ .name :: vs ∧ ∀ σ, advance? σ .name = none →
    (follow? (X ++ σ) us).isSome = true ∧ follow? (X ++ σ) (us ++ [.name]) = none

variable {X Y Z : List Part} {ks : List Kind}

theorem Sticks.append (h : Sticks X ks) (js : List Kind) : Sticks X (ks ++ js) := by
  obtain ⟨us, vs, rfl, h⟩ := h
  exact ⟨us, vs ++ js, by rw [List.append_assoc, List.cons_append], h⟩

theorem Sticks.after (h : Sticks Y ks) (js : List Kind)
    (hX : ∀ σ, follow? (X ++ σ) js = some (Y ++ σ)) : Sticks X (js ++ ks) := by
  obtain ⟨us, vs, rfl, h⟩ := h
  refine ⟨js ++ us, vs, by rw [List.append_assoc], fun σ hσ => ?_⟩
  rw [List.append_assoc, follow?_append, follow?_append, hX]
  exact h σ hσ

theorem Sticks.before (h : Sticks X ks)
    (hZ : ∀ σ, advance? σ .name = none → advance? (Z ++ σ) .name = none) : Sticks (X ++ Z) ks := by
  obtain ⟨us, vs, rfl, h⟩ := h
  refine ⟨us, vs, rfl, fun σ hσ => ?_⟩
  rw [List.append_assoc]
  exact h _ (hZ σ hσ)

/-- A number and then a name: the number can be taken, the name cannot. -/
theorem sticks_tiny (ls : List Lexeme) (x : Binary64) (s : String) :
    Sticks [.factor] (lexemeKinds (.number x :: .name s :: ls)) :=
  ⟨[.number], lexemeKinds ls, rfl, fun σ hσ => ⟨rfl, (follow?_singleton σ _).trans hσ⟩⟩

theorem follow?_operator (op : Operator) (σ : List Part) :
    follow? (.products :: .sums :: .token .closeParen :: σ) [op.lexeme.kind] =
      some (.factor :: .products :: .sums :: .token .closeParen :: σ) := by
  cases op <;> rfl

theorem follow?_sign (s : Sign) (σ : List Part) :
    follow? (.factor :: σ) [s.lexeme.kind] = some (.factor :: σ) := by
  cases s <;> rfl

theorem noTiny_or_exists (ns : List Binary64) : NoTiny ns ∨ ∃ x ∈ ns, x.isTiny = true := by
  by_cases h : ∃ x ∈ ns, x.isTiny = true
  · exact .inr h
  · refine .inl fun x hx => ?_
    rcases ht : x.isTiny with _ | _
    · rfl
    · exact absurd ⟨x, hx, ht⟩ h

theorem exists_right_of_noTiny {ns ms : List Binary64} (hn : NoTiny ns)
    (h : ∃ x ∈ ns ++ ms, x.isTiny = true) : ∃ x ∈ ms, x.isTiny = true := by
  obtain ⟨x, hx, ht⟩ := h
  rcases List.mem_append.mp hx with hx | hx
  · rw [hn x hx] at ht
    cases ht
  · exact ⟨x, hx, ht⟩

/-- **The spelling of an expression with a tiny number sticks.** -/
theorem sticks_of_spelling : ∀ t : Tree, t.isExpression = true →
    (∃ x ∈ t.numbers, x.isTiny = true) → Sticks [.factor] (lexemeKinds t.spelling)
  | number x _, _, hx => by
    obtain ⟨y, hy, ht⟩ := hx
    cases List.mem_singleton.mp hy
    have hi : x.isInfinite = false := by
      rcases x with _ | _ | _
      · rfl
      · cases ht
      · rfl
    rw [spelling, Binary64.spelling_tiny hi ht]
    exact sticks_tiny _ _ _
  | name _ _, _, hx => by
    obtain ⟨y, hy, -⟩ := hx
    cases hy
  | unary s _ t, ht, hx => by
    rw [spelling, lexemeKinds, List.map_cons]
    exact (sticks_of_spelling t ht hx).after [s.lexeme.kind] (follow?_sign s)
  | binary op _ l r, ht, hx => by
    rw [isExpression, Bool.and_eq_true] at ht
    have hopen : ∀ σ, follow? ([.factor] ++ σ) [.openParen] =
        some ([.factor] ++ [.products, .sums, .token .closeParen] ++ σ) := fun _ => rfl
    rcases noTiny_or_exists l.numbers with hl | hl
    · -- The left operand is a factor, so it is the right one that sticks.
      have hr := exists_right_of_noTiny hl hx
      have h1 : Sticks ([.factor] ++ [.products, .sums, .token .closeParen])
          (lexemeKinds (r.spelling ++ [.closeParen])) := by
        rw [lexemeKinds, List.map_append]
        exact ((sticks_of_spelling r ht.2 hr).before fun _ _ => rfl).append _
      have h2 := h1.after (X := [.products, .sums, .token .closeParen]) [op.lexeme.kind]
        (follow?_operator op)
      have h3 := h2.after (X := [.factor] ++ [.products, .sums, .token .closeParen]) _
        fun σ => follow_of_spelling ht.1 hl (.products :: .sums :: .token .closeParen :: σ)
      rw [spelling, lexemeKinds, List.map_cons, List.map_append, List.map_cons]
      exact h3.after [.openParen] hopen
    · have h1 := (sticks_of_spelling l ht.1 hl).before (Z := [.products, .sums, .token .closeParen])
        fun _ _ => rfl
      rw [spelling, lexemeKinds, List.map_cons, List.map_append]
      exact (h1.append _).after [.openParen] hopen

theorem block_sticks {cs : List Tree} (q : Int)
    (hX : ∀ σ, follow? (X ++ σ) [.openBrace] =
      some ([.statement, .statements] ++ [.token .closeBrace] ++ σ))
    (h : Sticks [.statement, .statements] (lexemeKinds (spellingAll cs))) :
    Sticks X (lexemeKinds (block q cs).spelling) := by
  have hclose := (h.before (Z := [.token .closeBrace]) fun _ _ => rfl).append [.closeBrace]
  rw [spelling, lexemeKinds, List.map_cons, List.map_append]
  exact hclose.after [.openBrace] hX

mutual

theorem statement_sticks : ∀ t : Tree, t.isStatement = true →
    (∃ x ∈ t.numbers, x.isTiny = true) → Sticks [.statement] (lexemeKinds t.spelling)
  | assign x _ _ v, ht, hx => by
    have h := (sticks_of_spelling v ht hx).before (Z := [.products, .sums]) fun _ hσ => hσ
    rw [spelling, lexemeKinds, List.map_cons, List.map_cons]
    exact h.after [.name, .equals] fun _ => rfl
  | block q cs, ht, hx => by
    rw [isStatement, Bool.and_eq_true] at ht
    exact block_sticks q (fun _ => rfl) (statements_stick cs ht.2 hx)
  | empty, _, hx => by
    obtain ⟨x, hx, -⟩ := hx
    cases hx

/-- **The spelling of statements with a tiny number sticks.** -/
theorem statements_stick : ∀ cs : List Tree, areStatements cs = true →
    (∃ x ∈ numbersAll cs, x.isTiny = true) →
      Sticks [.statement, .statements] (lexemeKinds (spellingAll cs))
  | [], _, hx => by
    obtain ⟨x, hx, -⟩ := hx
    cases hx
  | [c], ht, hx => by
    rw [areStatements, Bool.and_eq_true] at ht
    rw [numbersAll, numbersAll, List.append_nil] at hx
    rw [spellingAll, spellingRest, List.append_nil]
    exact (statement_sticks c ht.1 hx).before (Z := [.statements]) fun _ hσ => hσ
  | c :: d :: ds, ht, hx => by
    rw [areStatements, Bool.and_eq_true] at ht
    rcases noTiny_or_exists c.numbers with hc | hc
    · -- The first statement is one, so it is a later one that sticks.
      have h := statements_stick (d :: ds) ht.2 (exists_right_of_noTiny hc hx)
      have hs := h.after _ (follow_of_spelling_semicolon ht.1 hc)
      rw [List.append_assoc] at hs
      rw [spellingAll, lexemeKinds, List.map_append]
      exact hs
    · have h := (statement_sticks c ht.1 hc).before (Z := [.statements]) fun _ hσ => hσ
      rw [spellingAll, lexemeKinds, List.map_append]
      exact h.append _

end

end Tree

/-! ### The text of a parsed tree -/

/-- What becomes of the text of a tree when it is parsed. -/
structure ReadsBack (t : Tree) (r : Except Fault Tree) : Prop where
  /-- The tree comes back exactly if every number is finite, and zero or at least `10 ^ (-4)`. -/
  equal : (∃ u, r = .ok u ∧ u.same t = true) ↔ ∀ x ∈ t.numbers, x.isPlain = true
  /-- With a number strictly between zero and `10 ^ (-4)`, a name is refused. -/
  tiny : (∃ x ∈ t.numbers, x.isTiny = true) → ∃ x l, r = .error ⟨.unexpectedToken x .name, l⟩
  /-- With an infinite number and no tiny one, the name `inf` takes the place of every infinite
  number, which leaves the text as it was. -/
  infinite : (∀ x ∈ t.numbers, x.isTiny = false) → (∃ x ∈ t.numbers, x.isInfinite = true) →
    ∃ u, r = .ok u ∧ u.same t.nameInfinite = true ∧ u.render = t.render

section ReadsBack

variable {t : Tree} {r : Except Fault Tree} {file : Option String} {X : List Part}
  {sentence : List Token → Tree → Prop}

open BlockCalc.Tree

/-- Where the spelling of a tree sticks, its text is refused at a name. -/
theorem refused_of_sticks (hv : Verdict sentence t.render file r) (hc : Covers (toEnd X) sentence)
    (ht : Spelled t.tokens) (hs : Sticks X (lexemeKinds t.spelling)) :
    ∃ x l, r = .error ⟨.unexpectedToken x .name, l⟩ := by
  obtain ⟨ts, p, hts, hf⟩ := exists_feed_render ht
  obtain ⟨us, vs, hk, hσ⟩ := hs
  obtain ⟨h1, h2⟩ := hσ [.token .endOfInput] rfl
  have hkinds : kinds ts = us ++ .name :: vs := by
    rw [← hk, ← hts, lexemeKinds, List.map_map]
    rfl
  obtain ⟨as, bs, rfl, rfl, hbs⟩ := List.map_eq_append_iff.mp hkinds
  obtain ⟨k, cs, rfl, hkind, -⟩ := List.map_eq_cons_iff.mp hbs
  have hfeed : (Cursor.start t.render).feed.1 = as ++ k :: (cs ++ [⟨.endOfInput, p⟩]) := by
    rw [hf, List.append_assoc, List.cons_append]
  have hn : ¬ Viable sentence (kinds as ++ [k.kind]) := by
    rw [hc.viable_iff, hkind, toEnd, h2]
    exact Bool.false_ne_true
  obtain ⟨x, hx⟩ := hv.refused_at hfeed (hc.viable_iff.mpr h1) hn
  exact ⟨x, _, by rw [hx, hkind]⟩

theorem ok_of_spelling (hv : Verdict sentence t.render file r)
    (hu : ∀ {ts t u}, sentence ts t → sentence ts u → t = u) (ht : Spelled t.tokens)
    (hs : ∀ ts p, ts.map Token.lexeme = t.spelling → ∃ u, sentence (ts ++ [⟨.endOfInput, p⟩]) u ∧
      u.unplaced = t.nameInfinite.unplaced) :
    ∃ u, r = .ok u ∧ u.unplaced = t.nameInfinite.unplaced := by
  obtain ⟨ts, p, hts, hf⟩ := exists_feed_render ht
  obtain ⟨u, hsu, huu⟩ := hs ts p hts
  exact ⟨u, (hv.ok_iff hu).mpr ⟨_, Cursor.tokenize_eq_ok_iff.mpr hf, hsu⟩, huu⟩

/-- **Reading back**, from what becomes of a spelling without and with tiny numbers. -/
theorem readsBack_of_spelling (ht : Spelled t.tokens)
    (hplain : NoTiny t.numbers → ∃ u, r = .ok u ∧ u.unplaced = t.nameInfinite.unplaced)
    (htiny : (∃ x ∈ t.numbers, x.isTiny = true) → ∃ x l, r = .error ⟨.unexpectedToken x .name, l⟩) :
    ReadsBack t r := by
  have hlit : Literal t.numbers := literal_of_spelled t ht
  have hnamed : Literal t.nameInfinite.numbers := by
    rw [numbers_nameInfinite]
    exact fun x hx => hlit x (List.mem_of_mem_filter hx)
  have hlike : ∀ {u : Tree}, u.unplaced = t.nameInfinite.unplaced → Literal u.numbers := by
    intro u hu
    rw [← numbers_unplaced, hu, numbers_unplaced]
    exact hnamed
  refine ⟨⟨?_, fun h => ?_⟩, htiny, fun hn _ => ?_⟩
  · rintro ⟨u, rfl, hs⟩
    rcases noTiny_or_exists t.numbers with hn | hn
    · obtain ⟨u', hu', huu⟩ := hplain hn
      cases hu'
      have hut := (same_iff_unplaced u t (hlike huu) hlit).mp hs
      have hinf := (unplaced_nameInfinite_iff t).mp (huu.symm.trans hut)
      exact fun x hx => (Binary64.isPlain_iff (hlit x hx)).mpr ⟨hn x hx, hinf x hx⟩
    · obtain ⟨x, l, hr⟩ := htiny hn
      cases hr
  · have hp := fun x hx => (Binary64.isPlain_iff (hlit x hx)).mp (h x hx)
    obtain ⟨u, hr, huu⟩ := hplain fun x hx => (hp x hx).1
    refine ⟨u, hr, (same_iff_unplaced u t (hlike huu) hlit).mpr (huu.trans ?_)⟩
    exact (unplaced_nameInfinite_iff t).mpr fun x hx => (hp x hx).2
  · obtain ⟨u, hr, huu⟩ := hplain hn
    refine ⟨u, hr, (same_iff_unplaced u _ (hlike huu) hnamed).mpr huu, ?_⟩
    rw [← render_unplaced u, huu, render_unplaced, render_nameInfinite t hlit]

end ReadsBack

theorem readsBack_expression {limit : Nat} {t : Tree} (he : t.isExpression = true)
    (ht : Tree.Spelled t.tokens)
    (hd : ¬ TooDeep (parseExpression limit t.render)) :
    ReadsBack t (parseExpression limit t.render) := by
  have hv := verdict_soleExpression hd
  refine readsBack_of_spelling ht (fun hn => ?_) fun hx => ?_
  · refine ok_of_spelling hv SoleExpression.unique ht fun ts p hts => ?_
    obtain ⟨u, hu, huu⟩ := Tree.factor_of_spelling t he hn ts hts
    exact ⟨u, .mk (.of_factor hu), huu⟩
  · have hs := (Tree.sticks_of_spelling t he hx).before (Z := [.products, .sums]) fun _ hσ => hσ
    exact refused_of_sticks hv covers_soleExpression ht hs

theorem readsBack_program {limit : Nat} {file : Option String} {q : Int} {cs : List Tree}
    (hs : (Tree.block q cs).isStatement = true) (ht : Tree.Spelled (Tree.block q cs).tokens)
    (hd : ¬ TooDeep (parseProgram limit (Tree.block q cs).render file)) :
    ReadsBack (.block q cs) (parseProgram limit (Tree.block q cs).render file) := by
  have hv := verdict_program hd
  rw [Tree.isStatement, Bool.and_eq_true] at hs
  refine readsBack_of_spelling ht (fun hn => ?_) fun hx => ?_
  · refine ok_of_spelling hv Program.unique ht fun ts p hts => ?_
    obtain ⟨u, hu, huu⟩ := Tree.block_of_spelling cs q hs.1 hs.2 hn ts hts
    exact ⟨u, .mk hu, huu⟩
  · refine refused_of_sticks hv covers_program ht (Tree.block_sticks q (fun _ => rfl) ?_)
    exact Tree.statements_stick cs hs.2 hx

theorem eq_of_within {limit : Nat} {t : Tree} {text : List Char}
    (h : t.within limit Tree.render = .ok text) : text = t.render := by
  unfold Tree.within at h
  split at h
  · exact (Except.ok.inj h).symm
  · cases h

/-- **Parsing the text of a parsed tree.** If neither rendering nor the second parse reaches its
depth limit, the tree comes back exactly if every number is finite, and zero or at least
`10 ^ (-4)`; a smaller number makes the second parse refuse a name; and otherwise every infinite
number comes back as the name `inf`, in a tree with the same text. -/
theorem parse_render (limit₁ limit₂ limit₃ : Nat) (source text : List Char)
    (file₁ file₂ : Option String) (t : Tree) (hr : t.within limit₂ Tree.render = .ok text) :
    (parseExpression limit₁ source = .ok t →
      ¬ TooDeep (parseExpression limit₃ text) →
      ReadsBack t (parseExpression limit₃ text)) ∧
    (parseProgram limit₁ source file₁ = .ok t →
      ¬ TooDeep (parseProgram limit₃ text file₂) →
      ReadsBack t (parseProgram limit₃ text file₂)) := by
  obtain rfl := eq_of_within hr
  constructor
  · intro ht hd
    obtain ⟨he, hp⟩ := placed_of_parseExpression ht
    exact readsBack_expression he hp.spelled hd
  · intro ht hd
    obtain ⟨hs, hp⟩ := placed_of_parseProgram ht
    obtain ⟨ts, -, hprog⟩ := sentence_of_parseProgram ht
    obtain ⟨⟨_, _⟩⟩ := hprog
    exact readsBack_program hs hp.spelled hd

theorem exists_ok_of_any {r : Except Fault Tree} {P : Tree → Bool}
    (h : r.toOption.any P = true) : ∃ t, r = .ok t ∧ P t = true := by
  rcases r with f | t
  · cases h
  · exact ⟨t, rfl, h⟩

/-- A program with the number `2.50` comes back, an expression with the number `0.00001` does
not. -/
theorem parse_render_numbers :
    (∃ t x l, parseExpression 9 "2 * 0.00001".toList = .ok t ∧
      parseExpression 9 t.render = .error ⟨.unexpectedToken x .name, l⟩) ∧
    ∃ t u, parseProgram 9 "{x = 2.50}".toList none = .ok t ∧
      parseProgram 9 t.render none = .ok u ∧ u.same t = true := by
  constructor
  · obtain ⟨t, ht, hp⟩ := exists_ok_of_any (r := parseExpression 9 "2 * 0.00001".toList)
      (P := fun t => withinLimit (parseExpression 9 t.render) && t.numbers.any Binary64.isTiny)
      (by decide +kernel)
    rw [Bool.and_eq_true, List.any_eq_true] at hp
    have h := parse_render 9 t.height 9 "2 * 0.00001".toList t.render none none t (if_pos le_rfl)
    obtain ⟨x, l, hx⟩ := (h.1 ht (not_tooDeep_of_withinLimit hp.1)).tiny hp.2
    exact ⟨t, x, l, ht, hx⟩
  · obtain ⟨t, ht, hp⟩ := exists_ok_of_any (r := parseProgram 9 "{x = 2.50}".toList none)
      (P := fun t => withinLimit (parseProgram 9 t.render none) && t.numbers.all Binary64.isPlain)
      (by decide +kernel)
    rw [Bool.and_eq_true, List.all_eq_true] at hp
    have h := parse_render 9 t.height 9 "{x = 2.50}".toList t.render none none t (if_pos le_rfl)
    obtain ⟨u, hu, hs⟩ := (h.2 ht (not_tooDeep_of_withinLimit hp.1)).equal.mpr hp.2
    exact ⟨t, u, ht, hu, hs⟩

end BlockCalc
