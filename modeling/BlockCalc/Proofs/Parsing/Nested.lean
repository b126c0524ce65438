import BlockCalc.Proofs.Parsing.Depth
import BlockCalc.Proofs.Parsing.Limit
import BlockCalc.Proofs.Token.Opened
import BlockCalc.Proofs.Tree.Spelling

/-! # The limit that a text needs

A rule of the parser takes one level of depth for each sign or bracket that it is inside of, and
loops take none. So a limit above the nesting of the tokens is never reached, however many tokens
there are.

The stream of a parser stands at a place where certain things are open (`Parse.Stands`), and
`Parse.Keeps L p x q` says that the action `x` takes a stream from a place as in `p` to one as in `q`
and does not come to its limit, if at most `L` levels are needed from there on. What the limit of a
rule still allows and what is open around it add up to `L`, which is why the level `L` can stay the
same through sequences, loops and rules.

* `keeps_factor`, `keeps_block`: the rules.
* `parseProgram_ne_deep`, `parseExpression_ne_deep`: whole sources.
* `exists_parse_flatText`: chains of any length need one level. -/

namespace BlockCalc

namespace Parse

open TokenStream

variable {α β : Type} {L : Nat} {p q r : Opened → Prop}

/-- The stream stands at a place as in `p`, from which on less than `L` things are open at once. -/
def Stands (L : Nat) (p : Opened → Prop) (s : TokenStream) : Prop :=
  ∃ o ts e, p o ∧ s.Holds ts e ∧ o.deepest ts < L

/-- An outcome at a place as in `q`, if it is no failure, and not at the depth limit. -/
def Arrives (L : Nat) (q : Opened → Prop) (r : Except (Stop SourceFault) α × TokenStream) : Prop :=
  r.1 ≠ .error .depth ∧ ∀ a s', r = (.ok a, s') → Stands L q s'

/-- An action that leads from places as in `p` to places as in `q`, and does not come to its depth
limit. -/
def Keeps (L : Nat) (p : Opened → Prop) (x : Parse α) (q : Opened → Prop) : Prop :=
  ∀ s, Stands L p s → Arrives L q (x.run s)

theorem Stands.mono {s : TokenStream} (h : Stands L p s) (hpq : ∀ o, p o → q o) : Stands L q s := by
  obtain ⟨o, ts, e, ho, hs, hd⟩ := h
  exact ⟨o, ts, e, hpq o ho, hs, hd⟩

theorem Keeps.mono {x : Parse α} {p' q' : Opened → Prop} (h : Keeps L p x q)
    (hp : ∀ o, p' o → p o) (hq : ∀ o, q o → q' o) : Keeps L p' x q' := by
  intro s hs
  obtain ⟨hne, hok⟩ := h s (hs.mono hp)
  exact ⟨hne, fun a s' hx => (hok a s' hx).mono hq⟩

theorem arrives_fault {f : SourceFault} {s : TokenStream} :
    Arrives L q ((.error (.fault f), s) : Except (Stop SourceFault) α × TokenStream) :=
  ⟨nofun, nofun⟩

theorem arrives_ok {a : α} {s : TokenStream} (h : Stands L q s) : Arrives L q (.ok a, s) := by
  refine ⟨nofun, fun b s' hx => ?_⟩
  obtain ⟨-, rfl⟩ := Prod.mk.inj hx
  exact h

theorem keeps_pure (a : α) : Keeps L p (pure a : Parse α) p := fun _ hs => arrives_ok hs

theorem Arrives.bind {x : Parse α} {f : α → Parse β} {s : TokenStream} (h : Arrives L q (x.run s))
    (hf : ∀ a s', x.run s = (.ok a, s') → Stands L q s' → Arrives L r ((f a).run s')) :
    Arrives L r ((x >>= f).run s) := by
  obtain ⟨hne, hok⟩ := h
  refine ⟨ne_depth_bind hne fun a s' ha => (hf a s' ha (hok a s' ha)).1, fun b s'' hb => ?_⟩
  rcases ha : x.run s with ⟨e | a, s'⟩
  · rw [run_bind_error ha] at hb
    cases hb
  · rw [run_bind_ok ha] at hb
    exact (hf a s' ha (hok a s' ha)).2 b s'' hb

theorem Keeps.bind {x : Parse α} {f : α → Parse β} (hx : Keeps L p x q)
    (hf : ∀ a, Keeps L q (f a) r) : Keeps L p (x >>= f) r :=
  fun s hs => (hx s hs).bind fun a s' _ => hf a s'

theorem Keeps.map {x : Parse α} (hx : Keeps L p x q) (f : α → β) :
    Keeps L p (x >>= fun a => pure (f a)) q :=
  hx.bind fun a => keeps_pure (f a)

/-! ### Tokens -/

theorem keeps_current : Keeps L p current p := by
  rintro s ⟨o, ts, e, ho, hs, hd⟩
  rcases ts with _ | ⟨t, ts⟩
  · obtain ⟨f, s1, -, h1⟩ := run_current_nil hs
    rw [h1]
    exact arrives_fault
  · obtain ⟨s1, h1, hs1⟩ := run_current_cons hs
    rw [h1]
    exact arrives_ok ⟨o, _, e, ho, hs1, hd⟩

theorem keeps_refuse (x : Expected) : Keeps L p (refuse x : Parse α) q :=
  keeps_current.bind fun _ _ _ => arrives_fault

/-- **A token that is taken** leads to the place behind it. -/
theorem keeps_eat {k : Kind} (hk : k ≠ .endOfInput) (hpq : ∀ o, p o → q (o.after k)) :
    Keeps L p (eat k) q := by
  rintro s ⟨o, ts, e, ho, hs, hd⟩
  rcases ts with _ | ⟨u, ts⟩
  · obtain ⟨f, s1, -, h1⟩ := run_current_nil hs
    rw [eat, run_bind_error h1]
    exact arrives_fault
  by_cases hu : u.kind = k
  · rcases ts with _ | ⟨v, ts⟩
    · rcases e with _ | f
      · exact absurd (hu.symm.trans hs.kind_of_last) hk
      · obtain ⟨s1, h1⟩ := run_eat_last hs hu
        rw [h1]
        exact arrives_fault
    · obtain ⟨s1, h1, hs1⟩ := run_eat_cons hs hu
      rw [h1]
      refine arrives_ok ⟨o.after k, _, e, hpq o ho, hs1, ?_⟩
      rw [← hu]
      exact Nat.lt_of_le_of_lt (o.deepest_after_le u (v :: ts)) hd
  · obtain ⟨s1, h1⟩ := run_eat_ne hs hu
    rw [h1]
    exact arrives_fault

/-- **Loops** stay at places of one sort, if every round comes back to them. -/
theorem keeps_loop {accepts : Kind → Option β} {body : α → Token → β → Parse α}
    (hpq : ∀ k b, accepts k = some b → ∀ o, p o → q (o.after k))
    (hb : ∀ a t b, Keeps L q (body a t b) p) (a : α) : Keeps L p (loop accepts body a) p := by
  intro s hs
  -- By induction on what is left to read: a round takes a token.
  induction hn : s.remaining using Nat.strongRecOn generalizing s a with
  | ind n ih =>
    rw [run_loop]
    refine (keeps_current s hs).bind fun t s1 hc hs1 => ?_
    have hcur := run_remaining_le current s
    rw [hc] at hcur
    rcases hk : accepts t.kind with _ | b
    · exact keeps_pure a s1 hs1
    dsimp only at hcur ⊢
    split
    · exact keeps_pure a s1 hs1
    · next hend =>
      refine (keeps_eat hend (hpq _ b hk) s1 hs1).bind fun u s2 he hs2 => ?_
      refine (hb a t b s2 hs2).bind fun a' s3 hx hs3 => ?_
      have hlt := eat_remaining_lt he hend
      have hle := run_remaining_le (body a t b) s2
      rw [hx] at hle
      dsimp only at hle
      exact ih s3.remaining (by omega) a' s3 hs3 rfl

/-! ### Expressions -/

/-- Exactly this is open, and an operand is to come. -/
def Before (σ : List Kind) (o : Opened) : Prop := o = ⟨σ, false⟩

/-- Exactly this is open, and an operand has come to its end. -/
def Behind (σ : List Kind) (o : Opened) : Prop := o = ⟨σ, true⟩

/-- Exactly this is open. -/
def Inside (σ : List Kind) (o : Opened) : Prop := o.stack = σ

section Expressions

variable {σ : List Kind} {operand : Parse Tree}

theorem keeps_chain {operators : Kind → Option Operator}
    (hop : ∀ k op, operators k = some op → k = .plus ∨ k = .minus ∨ k = .times ∨ k = .slash)
    (h : Keeps L (Before σ) operand (Behind σ)) :
    Keeps L (Before σ) (chain operators operand) (Behind σ) := by
  refine h.bind fun first => keeps_loop (q := Before σ) (fun k op hk o ho => ?_)
    (fun left t op => h.map (Tree.binary op t.offset left)) first
  rw [Behind] at ho
  subst ho
  rcases hop k op hk with rfl | rfl | rfl | rfl <;> rfl

theorem keeps_expressionOf (h : Keeps L (Before σ) operand (Behind σ)) :
    Keeps L (Before σ) (expressionOf operand) (Behind σ) := by
  refine keeps_chain (fun k op hk => ?_) (keeps_chain (fun k op hk => ?_) h)
  · cases k <;> cases hk <;> simp
  · cases k <;> cases hk <;> simp

/-- **A factor** within what the limit still allows. It ends the signs that are right before it. -/
theorem keeps_factor : ∀ (d : Nat) (σ : List Kind),
    Keeps (σ.length + d) (Before σ) (factor d) (· = Opened.operandEnds σ)
  | 0, σ => by
    rintro s ⟨o, ts, e, rfl, -, hd⟩
    exact absurd (Opened.length_le_deepest ⟨σ, false⟩ ts) (Nat.not_le_of_lt hd)
  | d + 1, σ => by
    -- What is inside of one thing more has one level less.
    have ih : ∀ k : Kind, Keeps (σ.length + (d + 1)) (Before (k :: σ)) (factor d)
        (· = Opened.operandEnds (k :: σ)) := by
      intro k
      have h := keeps_factor d (k :: σ)
      rwa [List.length_cons, Nat.add_assoc, Nat.add_comm 1] at h
    rw [factor_succ]
    refine keeps_current.bind fun t => ?_
    rcases t with ⟨l, i⟩
    cases l with
    | plus =>
      refine (keeps_eat (k := .plus) (q := Before (.plus :: σ)) nofun ?_).bind
        fun _ => (ih .plus).map _
      rintro _ rfl
      rfl
    | minus =>
      refine (keeps_eat (k := .minus) (q := Before (.minus :: σ)) nofun ?_).bind
        fun _ => (ih .minus).map _
      rintro _ rfl
      rfl
    | number x =>
      refine (keeps_eat (k := .number) nofun ?_).map _
      rintro _ rfl
      rfl
    | name x =>
      refine (keeps_eat (k := .name) nofun ?_).map _
      rintro _ rfl
      rfl
    | openParen =>
      refine (keeps_eat (k := .openParen) (q := Before (.openParen :: σ)) nofun ?_).bind fun _ => ?_
      · rintro _ rfl
        rfl
      refine (keeps_expressionOf (ih .openParen)).bind fun t => ?_
      refine (keeps_eat (k := .closeParen) nofun ?_).map _
      rintro _ rfl
      rfl
    | _ => exact keeps_refuse _

theorem keeps_expression (d : Nat) (hσ : Opened.operandEnds σ = ⟨σ, true⟩) :
    Keeps (σ.length + d) (Before σ) (expression d) (Behind σ) := by
  have h := keeps_factor d σ
  rw [hσ] at h
  exact keeps_expressionOf h

end Expressions

/-! ### Statements -/

section Statements

variable {σ : List Kind}

theorem keeps_assignment (d : Nat) (hσ : Opened.operandEnds σ = ⟨σ, true⟩) :
    Keeps (σ.length + d) (Inside σ) (assignment d) (Inside σ) := by
  have hname : Keeps (σ.length + d) (Inside σ) eatName (Behind σ) := by
    refine keeps_current.bind fun t => ?_
    rcases t with ⟨l, i⟩
    cases l with
    | name x =>
      refine (keeps_eat (k := .name) nofun fun o ho => ?_).map _
      rw [Inside] at ho
      rw [Opened.after, ho, hσ]
      rfl
    | _ => exact keeps_refuse _
  refine hname.bind fun r => (keeps_eat (k := .equals) (q := Before σ) nofun ?_).bind fun t => ?_
  · rintro _ rfl
    rfl
  refine ((keeps_expression d hσ).map (Tree.assign r.1 r.2 t.offset)).mono (fun _ h => h) ?_
  rintro _ rfl
  rfl

theorem keeps_statementOf {assignment block : Parse Tree}
    (ha : Keeps L (Inside σ) assignment (Inside σ)) (hb : Keeps L (Inside σ) block (Inside σ)) :
    Keeps L (Inside σ) (statementOf assignment block) (Inside σ) := by
  refine keeps_current.bind fun t => ?_
  rcases t with ⟨l, i⟩
  cases l with
  | name x => exact ha
  | openBrace => exact hb
  | _ => exact keeps_pure _

/-- **A block** within what the limit still allows. -/
theorem keeps_block : ∀ (d : Nat) (σ : List Kind), Keeps (σ.length + d) (Inside σ) (block d) (Inside σ)
  | 0, σ => by
    rintro s ⟨o, ts, e, rfl, -, hd⟩
    exact absurd (o.length_le_deepest ts) (Nat.not_le_of_lt hd)
  | d + 1, σ => by
    have hst : Keeps (σ.length + (d + 1)) (Inside (.openBrace :: σ)) (statement d)
        (Inside (.openBrace :: σ)) := by
      have ha := keeps_assignment (σ := .openBrace :: σ) d rfl
      have hb := keeps_block d (.openBrace :: σ)
      rw [List.length_cons, Nat.add_assoc, Nat.add_comm 1] at ha hb
      exact keeps_statementOf ha hb
    rw [block_succ]
    refine (keeps_eat (k := .openBrace) nofun ?_).bind fun t => hst.bind fun first => ?_
    · rintro _ rfl
      rfl
    refine (keeps_loop ?_ (fun cs _ _ => hst.map (cs ++ [·])) [first]).bind fun cs => ?_
    · rintro k ⟨⟩ hk o ho
      obtain rfl : k = .semicolon := by
        cases k <;> first | rfl | cases hk
      exact ho
    · refine (keeps_eat (k := .closeBrace) nofun fun o ho => ?_).map _
      rw [Inside] at ho
      rw [Inside, Opened.after, ho]
      rfl

end Statements

theorem ne_depth_toEndOfInput {x : Parse α} {s : TokenStream} (h : (x.run s).1 ≠ .error .depth) :
    ((toEndOfInput x).run s).1 ≠ .error .depth := by
  refine ne_depth_bind h fun a s' _ => ?_
  exact ne_depth_bind (roomy_eat _ _ s' (Nat.lt_succ_self _)) fun _ _ _ => nofun

end Parse

/-! ### Whole sources -/

section Sources

open Parse

variable {limit : Nat} {source : List Char}

theorem stands_start (h : nesting source < limit) :
    Stands (([] : List Kind).length + limit) (· = Opened.start) (TokenStream.start source) := by
  rw [List.length_nil, Nat.zero_add]
  exact ⟨_, _, _, rfl, TokenStream.holds_start source, h⟩

/-- **A limit above the nesting of a text is not reached**: programs. -/
theorem parseProgram_ne_deep (h : nesting source < limit) (file : Option String) :
    ¬ TooDeep (parseProgram limit source file) := by
  have hs := (stands_start h).mono (q := Inside []) (by rintro _ rfl; rfl)
  exact fun hd => ne_depth_toEndOfInput (keeps_block limit [] _ hs).1
    ((ends_program limit source).depth_of_tooDeep hd)

/-- **A limit above the nesting of a text is not reached**: expressions. -/
theorem parseExpression_ne_deep (h : nesting source < limit) :
    ¬ TooDeep (parseExpression limit source) := by
  have hs := (stands_start h).mono (q := Before []) (by rintro _ rfl; rfl)
  exact fun hd => ne_depth_toEndOfInput (keeps_expression limit rfl _ hs).1
    ((ends_soleExpression limit source).depth_of_tooDeep hd)

end Sources

/-! ### Flat chains -/

/-- Numerals with operators between them. -/
def flatText (first : List Char) (links : List (Operator × List Char)) : List Char :=
  first ++ links.flatMap fun l => l.1.symbol :: l.2

/-- What follows the first operand of a flat chain, as lexemes. -/
def linkLexemes (links : List (Operator × List Char)) : List Lexeme :=
  links.flatMap fun l => [l.1.lexeme, .number (numeralValue l.2)]

section Chains

open Grammar Cursor

variable {links : List (Operator × List Char)}

theorem stops_links (links : List (Operator × List Char)) :
    Stops isNumberChar (links.flatMap (fun l => l.1.symbol :: l.2) ++ []) := by
  rcases links with _ | ⟨⟨op, run⟩, links⟩
  · nofun
  · cases op <;> exact stops_cons rfl

theorem reads_links : ∀ {links : List (Operator × List Char)}, (∀ l ∈ links, Numeral l.2) →
    Reads (links.flatMap fun l => l.1.symbol :: l.2) [] (linkLexemes links)
  | [], _ => reads_nil []
  | (op, run) :: links, h => by
    have hrest := reads_links fun l hl => h l (List.mem_cons_of_mem _ hl)
    have hrun := (reads_numeral (h _ List.mem_cons_self) (stops_links links)).append hrest
    exact reads_symbol (Tree.ofSymbol?_operator op) hrun

theorem exists_within_snoc {d : Nat} {ts us : List Token} {l r : Tree}
    (hl : ExpressionWithin d ts l) (hr : FactorWithin d us r) (op : Operator) (i : Int) :
    ∃ t, ExpressionWithin d (ts ++ ⟨op.lexeme, i⟩ :: us) t := by
  -- A product goes on with the last term, and a sum starts a new one.
  have hterm : ∀ {k op}, Multiplicative k op →
      ∃ t, ExpressionWithin d (ts ++ ⟨k, i⟩ :: us) t := by
    intro k op hk
    cases hl with
    | one h => exact ⟨_, .one (.more h hk hr)⟩
    | more h ha h' =>
      rw [List.append_assoc]
      exact ⟨_, .more h ha (.more h' hk hr)⟩
  cases op with
  | add => exact ⟨_, .more hl .plus (.one hr)⟩
  | sub => exact ⟨_, .more hl .minus (.one hr)⟩
  | mul => exact hterm .times
  | div => exact hterm .slash

theorem exists_within_links {d : Nat} : ∀ {links : List (Operator × List Char)} {ts us : List Token}
    {l : Tree}, ExpressionWithin (d + 1) ts l → us.map Token.lexeme = linkLexemes links →
      ∃ t, ExpressionWithin (d + 1) (ts ++ us) t
  | [], _, _, l, hl, hus => by
    rw [List.map_eq_nil_iff.mp hus, List.append_nil]
    exact ⟨l, hl⟩
  | (op, run) :: links, ts, us, l, hl, hus => by
    obtain ⟨⟨k, i⟩, vs, rfl, rfl, hvs⟩ := List.map_eq_cons_iff.mp hus
    obtain ⟨⟨m, j⟩, ws, rfl, rfl, hws⟩ := List.map_eq_cons_iff.mp hvs
    have hr : FactorWithin (d + 1) [⟨.number (numeralValue run), j⟩] _ := .number
    obtain ⟨l', hl'⟩ := exists_within_snoc hl hr op i
    have h := exists_within_links hl' hws
    rwa [List.append_assoc] at h

/-- **Chains of any length** are parsed under any limit. -/
theorem exists_parse_flatText {limit : Nat} (hlimit : 0 < limit) {first : List Char}
    (hfirst : Numeral first) (hlinks : ∀ l ∈ links, Numeral l.2) :
    ∃ t, parseExpression limit (flatText first links) = .ok t := by
  obtain ⟨d, rfl⟩ := Nat.exists_eq_add_of_lt hlimit
  rw [Nat.zero_add]
  obtain ⟨ts, hts, hf⟩ := (reads_numeral hfirst (stops_links links)).append (reads_links hlinks) 0
  obtain ⟨⟨k, i⟩, us, rfl, rfl, hus⟩ := List.map_eq_cons_iff.mp hts
  have hone : ExpressionWithin (d + 1) [⟨.number (numeralValue first), i⟩] _ := .one (.one .number)
  obtain ⟨t, ht⟩ := exists_within_links hone hus
  have hend := feed_of_end (c := ⟨0 + (flatText first links).length, []⟩) (next_of_rest_nil rfl) rfl
  rw [List.append_nil, ← flatText, hend] at hf
  exact ⟨t, parseExpression_iff_within.mpr ⟨_, _, tokenize_eq_ok_iff.mpr hf, ht⟩⟩

end Chains

end BlockCalc
