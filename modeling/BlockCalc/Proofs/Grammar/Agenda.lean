import BlockCalc.Proofs.Grammar
import Mathlib.Tactic.FinCases

/-! # What may come next

Reading tokens from left to right, one always knows what is still to come: a list of parts of the
grammar, here called an *agenda*. The next kind of token decides what becomes of an agenda, since no
two alternatives of a part start alike and no optional part starts with what may follow it.
`advance?` takes one kind, `follow?` many; they fail where the grammar has nothing to go on with.

An agenda is the language of the grammar turned into a machine. The machine and the grammar agree:

* `Program.follow`, `SoleExpression.follow`: an agenda can be followed along every sentence.
* `Spells.of_follow?`, `exists_spells`: where an agenda can be followed, it can be followed to its
  end, along a sentence.
* `Covers.viable_iff`: so the kinds that a sentence can start with are those along which the agenda
  of a whole source can be followed. -/

namespace BlockCalc

namespace Grammar

/-- The kinds of tokens in a list. -/
abbrev kinds (ts : List Token) : List Kind := ts.map Token.kind

theorem kinds_append (ts us : List Token) : kinds (ts ++ us) = kinds ts ++ kinds us :=
  List.map_append

/-! ### Agendas -/

/-- What may still be to come. -/
inductive Part
  /-- A token of this kind. -/
  | token (kind : Kind)
  /-- A factor. -/
  | factor
  /-- More factors, each after an operator. -/
  | products
  /-- More terms, each after an operator. -/
  | sums
  /-- A statement. -/
  | statement
  /-- More statements, each after a semicolon. -/
  | statements
deriving DecidableEq

namespace Part

/-- Whether a part may be missing. -/
def optional : Part → Bool
  | products | sums | statement | statements => true
  | token _ | factor => false

/-- What is left of a part after its first token, if it can start with a token of that kind. -/
def after? : Part → Kind → Option (List Part)
  | token k, k' => if k' = k then some [] else none
  | factor, .plus | factor, .minus => some [factor]
  | factor, .number | factor, .name => some []
  | factor, .openParen => some [factor, products, sums, token .closeParen]
  | products, .times | products, .slash => some [factor, products]
  | sums, .plus | sums, .minus => some [factor, products, sums]
  | statement, .name => some [token .equals, factor, products, sums]
  | statement, .openBrace => some [statement, statements, token .closeBrace]
  | statements, .semicolon => some [statement, statements]
  | _, _ => none

end Part

/-- An agenda after one more token. -/
def advance? : List Part → Kind → Option (List Part)
  | [], _ => none
  | x :: σ, k =>
    match x.after? k with
    | some τ => some (τ ++ σ)
    | none => if x.optional then advance? σ k else none

/-- An agenda after more tokens. -/
def follow? : List Part → List Kind → Option (List Part)
  | σ, [] => some σ
  | σ, k :: ks => (advance? σ k).bind fun τ => follow? τ ks

/-- The agenda of an expression. -/
def expressionAgenda : List Part := [.factor, .products, .sums]

/-- The agenda of a block. -/
def blockAgenda : List Part :=
  [.token .openBrace, .statement, .statements, .token .closeBrace]

/-- The agenda of what ends with the input. -/
def toEnd (σ : List Part) : List Part := σ ++ [.token .endOfInput]

theorem follow?_append (σ : List Part) : ∀ ks js : List Kind,
    follow? σ (ks ++ js) = (follow? σ ks).bind fun τ => follow? τ js
  | [], js => rfl
  | k :: ks, js => by
    simp only [List.cons_append, follow?]
    rcases advance? σ k with _ | τ
    · rfl
    · exact follow?_append τ ks js

theorem follow?_of_append {σ : List Part} {ks js : List Kind}
    (h : (follow? σ (ks ++ js)).isSome = true) : (follow? σ ks).isSome = true := by
  rw [follow?_append] at h
  rcases hk : follow? σ ks with _ | τ
  · rw [hk] at h
    cases h
  · rfl

theorem follow?_singleton (σ : List Part) (k : Kind) : follow? σ [k] = advance? σ k := by
  simp only [follow?]
  rcases advance? σ k with _ | τ <;> rfl

/-! ### Parts that are left but do not go on -/

/-- Parts that may all be missing, and none of which starts with a token of this kind. -/
def Spent (τ : List Part) (k : Kind) : Prop :=
  ∀ x ∈ τ, x.optional = true ∧ x.after? k = none

theorem spent_nil (k : Kind) : Spent [] k := by
  intro x hx
  cases hx

theorem Spent.append {τ υ : List Part} {k : Kind} (h : Spent τ k) (h' : Spent υ k) :
    Spent (τ ++ υ) k := by
  intro x hx
  rcases List.mem_append.mp hx with hx | hx
  · exact h x hx
  · exact h' x hx

theorem Spent.advance? {k : Kind} (σ : List Part) : ∀ {τ : List Part}, Spent τ k →
    advance? (τ ++ σ) k = Grammar.advance? σ k
  | [], _ => rfl
  | x :: τ, h => by
    obtain ⟨ho, ha⟩ := h x (by simp)
    have ih := Spent.advance? σ (τ := τ) fun y hy => h y (by simp [hy])
    simp only [List.cons_append, Grammar.advance?, ha, ho, if_true]
    exact ih

theorem Spent.follow? {τ : List Part} {k : Kind} (h : Spent τ k) (σ : List Part) (ks : List Kind) :
    follow? (τ ++ σ) (k :: ks) = Grammar.follow? σ (k :: ks) := by
  simp only [Grammar.follow?, h.advance? σ]

/-- What can go on after parts that may be missing can also go on before them. -/
theorem isSome_advance?_append {k : Kind} {σ : List Part} (hσ : (advance? σ k).isSome = true) :
    ∀ {τ : List Part}, (∀ x ∈ τ, x.optional = true) → (advance? (τ ++ σ) k).isSome = true
  | [], _ => hσ
  | x :: τ, h => by
    have ih := isSome_advance?_append hσ (τ := τ) fun y hy => h y (by simp [hy])
    simp only [List.cons_append, advance?]
    rcases x.after? k with _ | υ
    · simp only [h x (by simp), if_true]
      exact ih
    · rfl

/-! ### Following a sentence -/

mutual

theorem Factor.follow : ∀ {ts : List Token} {t : Tree}, Factor ts t → ∀ σ,
    follow? (.factor :: σ) (kinds ts) = some σ
  | _, _, .sign hk h, σ => by cases hk <;> exact h.follow σ
  | _, _, .number, _ => rfl
  | _, _, .name, _ => rfl
  | _, _, @Factor.parens p q ts _ h, σ => by
    have ih := h.follow (.token .closeParen :: σ)
    rw [kinds, List.map_cons, List.map_append]
    show follow? (expressionAgenda ++ .token .closeParen :: σ) (kinds ts ++ [.closeParen]) = some σ
    rw [follow?_append, ih]
    rfl

theorem Products.follow : ∀ {l t : Tree} {ts : List Token}, Products l ts t → ∀ σ,
    follow? (.products :: σ) (kinds ts) = some (.products :: σ)
  | _, _, _, .done, _ => rfl
  | _, _, _, @Products.more k op p ts us _ _ _ hk hf h, σ => by
    have h1 := hf.follow (.products :: σ)
    have h2 := h.follow σ
    have hs : follow? (.products :: σ) (kinds (⟨k, p⟩ :: (ts ++ us))) =
        follow? (.factor :: .products :: σ) (kinds ts ++ kinds us) := by
      rw [kinds, List.map_cons, List.map_append]
      cases hk <;> rfl
    rw [hs, follow?_append, h1]
    exact h2

theorem Term.follow : ∀ {ts : List Token} {t : Tree}, Term ts t → ∀ σ,
    follow? (.factor :: .products :: σ) (kinds ts) = some (.products :: σ)
  | _, _, @Term.chain ts us _ _ hf h, σ => by
    rw [kinds_append, follow?_append, hf.follow (.products :: σ)]
    exact h.follow σ

theorem Sums.follow : ∀ {l t : Tree} {ts : List Token}, Sums l ts t → ∀ σ,
    follow? (.products :: .sums :: σ) (kinds ts) = some (.products :: .sums :: σ)
  | _, _, _, .done, _ => rfl
  | _, _, _, @Sums.more k op p ts us _ _ _ hk ht h, σ => by
    have h1 := ht.follow (.sums :: σ)
    have h2 := h.follow σ
    have hs : follow? (.products :: .sums :: σ) (kinds (⟨k, p⟩ :: (ts ++ us))) =
        follow? (.factor :: .products :: .sums :: σ) (kinds ts ++ kinds us) := by
      rw [kinds, List.map_cons, List.map_append]
      cases hk <;> rfl
    rw [hs, follow?_append, h1]
    exact h2

theorem Expression.follow : ∀ {ts : List Token} {t : Tree}, Expression ts t → ∀ σ,
    follow? (expressionAgenda ++ σ) (kinds ts) = some (.products :: .sums :: σ)
  | _, _, @Expression.chain ts us _ _ ht h, σ => by
    show follow? (.factor :: .products :: .sums :: σ) _ = _
    rw [kinds_append, follow?_append, ht.follow (.sums :: σ)]
    exact h.follow σ

end

/-- Parts that are left at the end of a statement: they end with it. -/
def Quiet (τ : List Part) : Prop := Spent τ .semicolon ∧ Spent τ .closeBrace

theorem Closed.follow? {τ : List Part} (hτ : Quiet τ) (σ : List Part) {ts : List Token}
    (h : Closed ts) : follow? (τ ++ σ) (kinds ts) = Grammar.follow? σ (kinds ts) := by
  cases h with
  | semicolon => exact hτ.1.follow? σ _
  | brace => exact hτ.2.follow? σ _

theorem Assignment.follow {ts : List Token} {t : Tree} (h : Assignment ts t) (σ : List Part) :
    Grammar.follow? (.statement :: σ) (kinds ts) = some (.products :: .sums :: σ) := by
  obtain ⟨h⟩ := h
  exact h.follow σ

mutual

theorem Statement.follow : ∀ {ts : List Token} {t : Tree}, Statement ts t →
    ∃ τ, Quiet τ ∧ ∀ σ, follow? (.statement :: σ) (kinds ts) = some (τ ++ σ)
  | _, _, .assignment h => by
    refine ⟨[.products, .sums], ?_, h.follow⟩
    constructor <;> intro x hx <;> fin_cases hx <;> exact ⟨rfl, rfl⟩
  | _, _, @Statement.block ts _ h => by
    refine ⟨[], ⟨spent_nil _, spent_nil _⟩, fun σ => ?_⟩
    have ih := h.follow σ
    cases h with
    | mk _ _ => exact ih
  | _, _, .empty => by
    refine ⟨[.statement], ?_, fun _ => rfl⟩
    constructor <;> intro x hx <;> fin_cases hx <;> exact ⟨rfl, rfl⟩

theorem Statements.follow : ∀ {ts rs : List Token} {cs : List Tree}, Statements ts cs →
    Closed rs → ∀ σ, follow? (.statements :: σ) (kinds (ts ++ rs)) =
      follow? (.statements :: σ) (kinds rs)
  | _, _, _, .done, _, _ => rfl
  | _, rs, _, @Statements.more p ts us _ _ hs h, hr, σ => by
    obtain ⟨τ, hτ, h1⟩ := hs.follow
    have h2 := h.follow hr σ
    have hstep : follow? (.statements :: σ) (kinds ((⟨.semicolon, p⟩ :: (ts ++ us)) ++ rs)) =
        follow? (.statement :: .statements :: σ) (kinds ts ++ kinds (us ++ rs)) := by
      rw [← List.map_append, ← List.append_assoc]
      rfl
    rw [hstep, follow?_append, h1]
    exact ((h.closed hr).follow? hτ _).trans h2

theorem Block.follow : ∀ {ts : List Token} {t : Tree}, Block ts t → ∀ σ,
    follow? (blockAgenda ++ σ) (kinds ts) = some σ
  | _, _, @Block.mk p q ts us _ _ hs h, σ => by
    obtain ⟨τ, hτ, h1⟩ := hs.follow
    have hc : Closed [⟨.closeBrace, q⟩] := .brace
    have h2 := h.follow hc (.token .closeBrace :: σ)
    have hstep : follow? (blockAgenda ++ σ)
          (kinds (⟨.openBrace, p⟩ :: (ts ++ (us ++ [⟨.closeBrace, q⟩])))) =
        follow? (.statement :: .statements :: .token .closeBrace :: σ)
          (kinds ts ++ kinds (us ++ [⟨.closeBrace, q⟩])) := by
      rw [← List.map_append]
      rfl
    rw [hstep, follow?_append, h1]
    exact ((h.closed hc).follow? hτ _).trans h2

end

/-- **The agenda of a program can be followed along every program.** -/
theorem Program.follow {ts : List Token} {t : Tree} (h : Program ts t) :
    follow? (toEnd blockAgenda) (kinds ts) = some [] := by
  obtain ⟨h⟩ := h
  rw [kinds_append, follow?_append, toEnd, h.follow]
  rfl

/-- **The agenda of an expression can be followed along every expression.** -/
theorem SoleExpression.follow {ts : List Token} {t : Tree} (h : SoleExpression ts t) :
    follow? (toEnd expressionAgenda) (kinds ts) = some [] := by
  obtain ⟨h⟩ := h
  rw [kinds_append, follow?_append, toEnd, h.follow]
  rfl

/-! ### Following to the end -/

/-- The kinds of the tokens of a part, whatever stands before it. -/
def Part.Spells : Part → List Kind → Prop
  | .token k, ks => ks = [k]
  | .factor, ks => ∃ ts t, Factor ts t ∧ kinds ts = ks
  | .products, ks => ∀ l, ∃ ts t, Products l ts t ∧ kinds ts = ks
  | .sums, ks => ∀ l, ∃ ts t, Sums l ts t ∧ kinds ts = ks
  | .statement, ks => ∃ ts t, Statement ts t ∧ kinds ts = ks
  | .statements, ks => ∃ ts cs, Statements ts cs ∧ kinds ts = ks

/-- The kinds of the tokens of an agenda, part by part. -/
inductive Spells : List Part → List Kind → Prop
  | nil : Spells [] []
  | cons {x σ ks js} : x.Spells ks → Spells σ js → Spells (x :: σ) (ks ++ js)

theorem Spells.of_cons {x : Part} {σ : List Part} {ks : List Kind} (h : Spells (x :: σ) ks) :
    ∃ js is, ks = js ++ is ∧ x.Spells js ∧ Spells σ is := by
  cases h with
  | cons hx h => exact ⟨_, _, rfl, hx, h⟩

theorem Spells.of_append {σ : List Part} : ∀ {τ : List Part} {ks : List Kind},
    Spells (τ ++ σ) ks → ∃ js is, ks = js ++ is ∧ Spells τ js ∧ Spells σ is
  | [], ks, h => ⟨[], ks, rfl, .nil, h⟩
  | _ :: _, _, .cons hx h => by
    obtain ⟨js, is, rfl, hj, hi⟩ := Spells.of_append h
    exact ⟨_ ++ js, is, by rw [List.append_assoc], .cons hx hj, hi⟩

theorem Spells.of_singleton {x : Part} {ks : List Kind} (h : Spells [x] ks) : x.Spells ks := by
  obtain ⟨js, is, rfl, hx, h⟩ := h.of_cons
  cases h
  rw [List.append_nil]
  exact hx

theorem Spells.token_last {σ : List Part} {k : Kind} {ks : List Kind}
    (h : Spells (σ ++ [.token k]) ks) : ∃ js, ks = js ++ [k] ∧ Spells σ js := by
  obtain ⟨js, is, rfl, hj, hi⟩ := h.of_append
  cases hi.of_singleton
  exact ⟨js, rfl, hj⟩

theorem Spells.term {ks : List Kind} (h : Spells [.factor, .products] ks) :
    ∃ ts t, Term ts t ∧ kinds ts = ks := by
  obtain ⟨_, _, rfl, ⟨ts, l, hf, rfl⟩, hr⟩ := h.of_cons
  obtain ⟨us, t, hp, rfl⟩ := hr.of_singleton l
  exact ⟨ts ++ us, t, .chain hf hp, List.map_append⟩

theorem Spells.expression {ks : List Kind} (h : Spells expressionAgenda ks) :
    ∃ ts t, Expression ts t ∧ kinds ts = ks := by
  obtain ⟨js, is, rfl, hj, hi⟩ := Spells.of_append (τ := [.factor, .products]) h
  obtain ⟨ts, l, ht, rfl⟩ := hj.term
  obtain ⟨us, t, hs, rfl⟩ := hi.of_singleton l
  exact ⟨ts ++ us, t, .chain ht hs, List.map_append⟩

theorem Spells.block {ks : List Kind}
    (h : Spells [.statement, .statements, .token .closeBrace] ks) :
    ∃ ts t, Block ts t ∧ kinds ts = .openBrace :: ks := by
  obtain ⟨js, rfl, h'⟩ := Spells.token_last (σ := [.statement, .statements]) h
  obtain ⟨_, _, rfl, ⟨ts, c, hs, rfl⟩, h''⟩ := h'.of_cons
  obtain ⟨us, cs, hm, rfl⟩ := h''.of_singleton
  exact ⟨_, _, .mk (p := 0) (q := 0) hs hm, by simp [kinds, Token.kind, Lexeme.kind]⟩

/-- What is left of a part, with the first token before it, is the part. -/
theorem Part.spells_of_after? {x : Part} {k : Kind} {τ : List Part} {ks : List Kind}
    (hx : x.after? k = some τ) (h : Grammar.Spells τ ks) : x.Spells (k :: ks) := by
  unfold Part.after? at hx
  split at hx
  · split at hx
    · next hk => cases hx; cases h; exact congrArg (fun j => [j]) hk
    · cases hx
  · cases hx
    obtain ⟨ts, t, hf, rfl⟩ := h.of_singleton
    exact ⟨_, _, .sign (p := 0) .plus hf, rfl⟩
  · cases hx
    obtain ⟨ts, t, hf, rfl⟩ := h.of_singleton
    exact ⟨_, _, .sign (p := 0) .minus hf, rfl⟩
  · cases hx
    cases h
    exact ⟨_, _, .number (x := .nan) (p := 0), rfl⟩
  · cases hx
    cases h
    exact ⟨_, _, .name (x := "") (p := 0), rfl⟩
  · cases hx
    obtain ⟨js, rfl, h'⟩ := Spells.token_last (σ := expressionAgenda) h
    obtain ⟨ts, t, he, rfl⟩ := h'.expression
    exact ⟨_, _, .parens (p := 0) (q := 0) he, by simp [kinds, Token.kind, Lexeme.kind]⟩
  · cases hx
    intro l
    obtain ⟨_, _, rfl, ⟨ts, r, hf, rfl⟩, hr⟩ := h.of_cons
    obtain ⟨us, t, hp, rfl⟩ := hr.of_singleton (.binary .mul 0 l r)
    exact ⟨_, _, .more .times hf hp, by simp [kinds, Token.kind, Lexeme.kind]⟩
  · cases hx
    intro l
    obtain ⟨_, _, rfl, ⟨ts, r, hf, rfl⟩, hr⟩ := h.of_cons
    obtain ⟨us, t, hp, rfl⟩ := hr.of_singleton (.binary .div 0 l r)
    exact ⟨_, _, .more .slash hf hp, by simp [kinds, Token.kind, Lexeme.kind]⟩
  · cases hx
    intro l
    obtain ⟨js, is, rfl, hj, hi⟩ := Spells.of_append (τ := [.factor, .products]) h
    obtain ⟨ts, r, ht, rfl⟩ := hj.term
    obtain ⟨us, t, hs, rfl⟩ := hi.of_singleton (.binary .add 0 l r)
    exact ⟨_, _, .more .plus ht hs, by simp [kinds, Token.kind, Lexeme.kind]⟩
  · cases hx
    intro l
    obtain ⟨js, is, rfl, hj, hi⟩ := Spells.of_append (τ := [.factor, .products]) h
    obtain ⟨ts, r, ht, rfl⟩ := hj.term
    obtain ⟨us, t, hs, rfl⟩ := hi.of_singleton (.binary .sub 0 l r)
    exact ⟨_, _, .more .minus ht hs, by simp [kinds, Token.kind, Lexeme.kind]⟩
  · cases hx
    obtain ⟨_, _, rfl, rfl, hr⟩ := h.of_cons
    obtain ⟨ts, t, he, rfl⟩ := hr.expression
    exact ⟨_, _, .assignment (.mk (x := "") (q := 0) (p := 0) he), rfl⟩
  · cases hx
    obtain ⟨ts, t, hb, hk⟩ := h.block
    exact ⟨_, _, .block hb, hk⟩
  · cases hx
    obtain ⟨_, _, rfl, ⟨ts, c, hs, rfl⟩, hr⟩ := h.of_cons
    obtain ⟨us, cs, hm, rfl⟩ := hr.of_singleton
    exact ⟨_, _, .more (p := 0) hs hm, by simp [kinds, Token.kind, Lexeme.kind]⟩
  · cases hx

theorem Part.spells_nil {x : Part} (h : x.optional = true) : x.Spells [] := by
  cases x with
  | token k => cases h
  | factor => cases h
  | products => exact fun _ => ⟨[], _, .done, rfl⟩
  | sums => exact fun _ => ⟨[], _, .done, rfl⟩
  | statement => exact ⟨[], _, .empty, rfl⟩
  | statements => exact ⟨[], _, .done, rfl⟩

theorem Spells.of_advance? {k : Kind} {ks : List Kind} : ∀ {σ τ : List Part},
    advance? σ k = some τ → Spells τ ks → Spells σ (k :: ks)
  | [], _, ha, _ => by cases ha
  | x :: σ, τ, ha, h => by
    simp only [advance?] at ha
    split at ha
    · next υ hx =>
      cases ha
      obtain ⟨js, is, rfl, hj, hi⟩ := h.of_append
      exact .cons (Part.spells_of_after? hx hj) hi
    · split at ha
      · next ho => exact .cons (Part.spells_nil ho) (Spells.of_advance? ha h)
      · cases ha

theorem Spells.of_follow? {js : List Kind} : ∀ {ks : List Kind} {σ τ : List Part},
    follow? σ ks = some τ → Spells τ js → Spells σ (ks ++ js)
  | [], _, _, hf, h => by cases hf; exact h
  | k :: ks, σ, τ, hf, h => by
    simp only [follow?] at hf
    obtain ⟨υ, ha, hf⟩ := Option.bind_eq_some_iff.mp hf
    exact Spells.of_advance? ha (Spells.of_follow? hf h)

/-- Every agenda can be brought to its end. -/
theorem exists_spells : ∀ σ : List Part, ∃ ks, Spells σ ks
  | [] => ⟨[], .nil⟩
  | x :: σ => by
    obtain ⟨js, h⟩ := exists_spells σ
    have hx : ∃ ks, x.Spells ks := by
      cases x with
      | token k => exact ⟨[k], rfl⟩
      | factor => exact ⟨_, _, _, .number (x := .nan) (p := 0), rfl⟩
      | products | sums | statement | statements => exact ⟨[], Part.spells_nil rfl⟩
    obtain ⟨ks, hx⟩ := hx
    exact ⟨ks ++ js, .cons hx h⟩

/-! ### Viable beginnings -/

/-- A sentence starts with tokens of these kinds. -/
def Viable (sentence : List Token → Tree → Prop) (ks : List Kind) : Prop :=
  ∃ ts t, sentence ts t ∧ ks <+: kinds ts

theorem Viable.of_append {sentence : List Token → Tree → Prop} {ks js : List Kind}
    (h : Viable sentence (ks ++ js)) : Viable sentence ks := by
  obtain ⟨ts, t, hs, hp⟩ := h
  exact ⟨ts, t, hs, (List.prefix_append ks js).trans hp⟩

/-- An agenda stands for a kind of sentence: it can be followed along every one, and what it spells
is one. -/
structure Covers (σ : List Part) (sentence : List Token → Tree → Prop) : Prop where
  follow : ∀ {ts t}, sentence ts t → follow? σ (kinds ts) = some []
  spell : ∀ {ks}, Spells σ ks → ∃ ts t, sentence ts t ∧ kinds ts = ks

theorem covers_program : Covers (toEnd blockAgenda) Program where
  follow := Program.follow
  spell h := by
    obtain ⟨js, rfl, hj⟩ := h.token_last
    obtain ⟨_, is, rfl, rfl, hi⟩ := hj.of_cons
    obtain ⟨ts, t, hb, hk⟩ := hi.block
    exact ⟨_, _, .mk (p := 0) hb, by rw [List.singleton_append, ← hk]; exact List.map_append⟩

theorem covers_soleExpression : Covers (toEnd expressionAgenda) SoleExpression where
  follow := SoleExpression.follow
  spell h := by
    obtain ⟨js, rfl, hj⟩ := h.token_last
    obtain ⟨ts, t, he, hk⟩ := hj.expression
    exact ⟨_, _, .mk (p := 0) he, by rw [← hk]; exact List.map_append⟩

/-- **Viable beginnings**: those along which the agenda can be followed. -/
theorem Covers.viable_iff {σ : List Part} {sentence : List Token → Tree → Prop}
    (hc : Covers σ sentence) {ks : List Kind} :
    Viable sentence ks ↔ (follow? σ ks).isSome = true := by
  constructor
  · rintro ⟨ts, t, hs, js, hk⟩
    have h := hc.follow hs
    rw [← hk] at h
    exact follow?_of_append (by rw [h]; rfl)
  · intro h
    obtain ⟨τ, hτ⟩ := Option.isSome_iff_exists.mp h
    obtain ⟨js, hj⟩ := exists_spells τ
    obtain ⟨ts, t, hs, hk⟩ := hc.spell (Spells.of_follow? hτ hj)
    exact ⟨ts, t, hs, js, hk.symm⟩

end Grammar

end BlockCalc
