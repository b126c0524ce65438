import BlockCalc.Proofs.Token.Feed
import BlockCalc.Proofs.Tree.Likeness
import BlockCalc.Tree.Parser

/-! # Two parses side by side

The same rule runs on two streams whose tokens say the same, wherever they stand, up to a place from
which on the streams may differ. `Matched T ts e us f` says this of what two streams hold: tokens
with the same lexemes, and then faults with the same cause, or rests in the relation `T`. A rule
that comes to such rests takes nothing more if it has no use for the tokens with which they start
(`Starts`). So the two runs go together (`Parse.Tallies`): both have an answer, with trees that
differ in their offsets only, or both fail for the same cause, or both refuse the token with which
the rests start.

The depth limits of the two runs may differ too. A limit is reached on both sides at once, or on the
side with the lower limit alone: `L` has to hold for a limit reached on the left alone, and `R` for
one on the right.

* `Parse.Tallies.bind`, `Parse.parallel_eat`, `Parse.parallel_loop`: what keeps two runs together.
* `Parse.parallel_expression`: expressions, whatever follows them.
* `Parse.parallel_program`, `Parse.parallel_soleExpression`: whole sources. -/

namespace BlockCalc

/-! ### What two streams hold -/

/-- A relation between what is left of two streams: tokens, and the fault after them. -/
abbrev Rests : Type := List Token → Option SourceFault → List Token → Option SourceFault → Prop

/-- Tokens with the same lexemes, and then faults with the same cause or rests in a relation. -/
inductive Matched (T : Rests) : Rests
  | fault {f g} : f.cause = g.cause → Matched T [] (some f) [] (some g)
  | rest {ts e us f} : T ts e us f → Matched T ts e us f
  | token {t u ts e us f} : t.lexeme = u.lexeme → Matched T ts e us f →
      Matched T (t :: ts) e (u :: us) f

theorem Matched.append {T : Rests} {ts us : List Token} {e f : Option SourceFault}
    (h : Matched T ts e us f) : ∀ {as bs : List Token},
      as.map Token.lexeme = bs.map Token.lexeme → Matched T (as ++ ts) e (bs ++ us) f
  | [], [], _ => h
  | [], _ :: _, hl => by cases hl
  | _ :: _, [], hl => by cases hl
  | a :: as, b :: bs, hl => by
    obtain ⟨h1, h2⟩ := List.cons.inj hl
    exact .token h1 (h.append h2)

/-- Both rests start with a token of such a kind. -/
def Starts (T : Rests) (p : Kind → Prop) : Prop := ∀ ts e us f, T ts e us f →
  ∃ t ts' u us', ts = t :: ts' ∧ us = u :: us' ∧ p t.kind ∧ p u.kind

theorem Starts.mono {T : Rests} {p q : Kind → Prop} (h : Starts T p) (hpq : ∀ k, p k → q k) :
    Starts T q := by
  intro ts e us f hT
  obtain ⟨t, ts', u, us', h1, h2, ht, hu⟩ := h ts e us f hT
  exact ⟨t, ts', u, us', h1, h2, hpq _ ht, hpq _ hu⟩

/-- Kinds of tokens that no expression has. -/
def Kind.isOutside : Kind → Bool
  | .openBrace | .closeBrace | .semicolon | .equals | .endOfInput => true
  | _ => false

/-- Both rests start with a token that no expression has. -/
abbrev Outside (T : Rests) : Prop := Starts T fun k => k.isOutside = true

/-- Both rests are the end of the input. -/
def BothEnd : Rests := fun ts e us f =>
  ∃ p q, ts = [⟨.endOfInput, p⟩] ∧ us = [⟨.endOfInput, q⟩] ∧ e = none ∧ f = none

theorem starts_bothEnd : Starts BothEnd (· = .endOfInput) := by
  rintro _ _ _ _ ⟨p, q, rfl, rfl, -, -⟩
  exact ⟨_, _, _, _, rfl, rfl, rfl, rfl⟩

theorem outside_bothEnd : Outside BothEnd := starts_bothEnd.mono fun _ hk => hk ▸ rfl

/-- Two streams that hold what matches. -/
def TokenStream.Beside (T : Rests) (s s' : TokenStream) : Prop :=
  ∃ ts e us f, s.Holds ts e ∧ s'.Holds us f ∧ Matched T ts e us f

namespace Parse

open TokenStream

/-! ### Outcomes that go together -/

/-- Two outcomes that go together. -/
inductive Tallies {α β : Type} (T : Rests) (L R : Prop) (A : α → β → Prop) :
    Except (Stop SourceFault) α × TokenStream → Except (Stop SourceFault) β × TokenStream → Prop
  | ok {a b s s'} : A a b → Beside T s s' → Tallies T L R A (.ok a, s) (.ok b, s')
  | fault {f g s s'} : f.cause = g.cause →
      Tallies T L R A (.error (.fault f), s) (.error (.fault g), s')
  | refused {x t ts e u us f s s'} : T (t :: ts) e (u :: us) f →
      Tallies T L R A (.error (.fault ⟨.unexpectedToken x t.kind, t.offset⟩), s)
        (.error (.fault ⟨.unexpectedToken x u.kind, u.offset⟩), s')
  | deep {s s'} : Tallies T L R A (.error .depth, s) (.error .depth, s')
  | deepLeft {s r} : L → Tallies T L R A (.error .depth, s) r
  | deepRight {r s} : R → Tallies T L R A r (.error .depth, s)

variable {α β γ δ κ : Type} {T : Rests} {L R : Prop} {A : α → β → Prop} {B : γ → δ → Prop}
  {s s' : TokenStream}

/-- Two actions whose outcomes go together on all streams that match. -/
def Parallel (T : Rests) (L R : Prop) (A : α → β → Prop) (x : Parse α) (y : Parse β) : Prop :=
  ∀ s s', Beside T s s' → Tallies T L R A (x.run s) (y.run s')

/-- **One action after another**, on both sides. -/
theorem Tallies.bind {x : Parse α} {y : Parse β} {f : α → Parse γ} {g : β → Parse δ}
    (h : Tallies T L R A (x.run s) (y.run s'))
    (hfg : ∀ a b s1 s1', x.run s = (.ok a, s1) → A a b → Beside T s1 s1' →
      Tallies T L R B ((f a).run s1) ((g b).run s1')) :
    Tallies T L R B ((x >>= f).run s) ((y >>= g).run s') := by
  rw [run_bind, run_bind]
  generalize x.run s = r, y.run s' = r' at h hfg
  cases h with
  | ok hab hs => exact hfg _ _ _ _ rfl hab hs
  | fault h => exact .fault h
  | refused h => exact .refused h
  | deep => exact .deep
  | deepLeft hl => exact .deepLeft hl
  | deepRight hr => exact .deepRight hr

theorem Parallel.bind {x : Parse α} {y : Parse β} {f : α → Parse γ} {g : β → Parse δ}
    (h : Parallel T L R A x y) (hfg : ∀ a b, A a b → Parallel T L R B (f a) (g b)) :
    Parallel T L R B (x >>= f) (y >>= g) :=
  fun s s' hs => (h s s' hs).bind fun a b s1 s1' _ hab hs1 => hfg a b hab s1 s1' hs1

theorem parallel_pure {a : α} {b : β} (h : A a b) : Parallel T L R A (pure a) (pure b) :=
  fun _ _ hs => .ok h hs

theorem parallel_map {x : Parse α} {y : Parse β} {f : α → γ} {g : β → δ}
    (h : Parallel T L R A x y) (hfg : ∀ a b, A a b → B (f a) (g b)) :
    Parallel T L R B (x >>= fun a => pure (f a)) (y >>= fun b => pure (g b)) :=
  h.bind fun a b hab => parallel_pure (hfg a b hab)

/-! ### Tokens -/

theorem tallies_current_fault {f : Token → Parse α} {g : Token → Parse β} {e e' : SourceFault}
    (hs : s.Holds [] (some e)) (hs' : s'.Holds [] (some e')) (he : e.cause = e'.cause) :
    Tallies T L R A ((current >>= f).run s) ((current >>= g).run s') := by
  obtain ⟨_, s1, h, h1⟩ := run_current_nil hs
  obtain ⟨_, s1', h', h1'⟩ := run_current_nil hs'
  cases h
  cases h'
  rw [run_bind, h1, run_bind, h1']
  exact .fault he

/-- **A look at the next token.** It says the same on both sides, or it is the one with which the
rests start. -/
theorem tallies_current {f : Token → Parse α} {g : Token → Parse β} {p : Kind → Prop}
    (hT : Starts T p) (hs : Beside T s s')
    (hsame : ∀ t u s1 s1', current.run s = (.ok t, s1) → t.lexeme = u.lexeme → Beside T s1 s1' →
      Tallies T L R A ((f t).run s1) ((g u).run s1'))
    (hrest : ∀ t u s1 s1', p t.kind → p u.kind → Beside T s1 s1' →
      Tallies T L R A ((f t).run s1) ((g u).run s1')) :
    Tallies T L R A ((current >>= f).run s) ((current >>= g).run s') := by
  obtain ⟨ts, e, us, e', hts, hus, hm⟩ := hs
  cases hm with
  | fault hc => exact tallies_current_fault hts hus hc
  | token hl hm =>
    obtain ⟨s1, h1, hs1⟩ := run_current_cons hts
    obtain ⟨s1', h1', hs1'⟩ := run_current_cons hus
    rw [run_bind, h1, run_bind, h1']
    exact hsame _ _ s1 s1' h1 hl ⟨_, _, _, _, hs1, hs1', .token hl hm⟩
  | rest h =>
    obtain ⟨t, ts, u, us, rfl, rfl, ht, hu⟩ := hT _ _ _ _ h
    obtain ⟨s1, h1, hs1⟩ := run_current_cons hts
    obtain ⟨s1', h1', hs1'⟩ := run_current_cons hus
    rw [run_bind, h1, run_bind, h1']
    exact hrest t u s1 s1' ht hu ⟨_, _, _, _, hs1, hs1', .rest h⟩

theorem parallel_refuse {p : Kind → Prop} (hT : Starts T p) (x : Expected) :
    Parallel T L R A (refuse x) (refuse x) := by
  rintro s s' ⟨ts, e, us, f, hts, hus, hm⟩
  cases hm with
  | fault hc => exact tallies_current_fault hts hus hc
  | @token t u _ _ _ _ hl _ =>
    obtain ⟨s1, h1⟩ := run_refuse (α := α) x hts
    obtain ⟨s1', h1'⟩ := run_refuse (α := β) x hus
    have hk : t.kind = u.kind := congrArg Lexeme.kind hl
    rw [h1, h1']
    exact .fault (by rw [hk])
  | rest h =>
    obtain ⟨t, ts, u, us, rfl, rfl, -, -⟩ := hT _ _ _ _ h
    obtain ⟨s1, h1⟩ := run_refuse (α := α) x hts
    obtain ⟨s1', h1'⟩ := run_refuse (α := β) x hus
    rw [h1, h1']
    exact .refused h

/-- A choice by the next token, which has no alternative for the tokens of the rests. -/
theorem tallies_choice {f : Token → Parse α} {g : Token → Parse β} {p : Kind → Prop}
    {x : Expected} (hT : Starts T p) (hs : Beside T s s')
    (hsame : ∀ t u s1 s1', t.lexeme = u.lexeme → Beside T s1 s1' →
      Tallies T L R A ((f t).run s1) ((g u).run s1'))
    (hf : ∀ t, p t.kind → f t = refuse x) (hg : ∀ t, p t.kind → g t = refuse x) :
    Tallies T L R A ((current >>= f).run s) ((current >>= g).run s') := by
  refine tallies_current hT hs (fun t u s1 s1' _ => hsame t u s1 s1') fun t u s1 s1' ht hu hs1 => ?_
  rw [hf t ht, hg u hu]
  exact parallel_refuse hT x s1 s1' hs1

theorem tallies_take {t u : Token} {ts us : List Token} {e f : Option SourceFault} {p : Kind → Prop}
    (hT : Starts T p) (hs : s.Holds (t :: ts) e) (hs' : s'.Holds (u :: us) f)
    (hl : t.lexeme = u.lexeme) (hm : Matched T ts e us f) :
    Tallies T L R (fun t u => t.lexeme = u.lexeme) ((eat t.kind).run s) ((eat t.kind).run s') := by
  have hu : u.kind = t.kind := congrArg Lexeme.kind hl.symm
  have hcons : ∀ {a b : Token} {as bs : List Token}, ts = a :: as → us = b :: bs →
      Tallies T L R (fun t u => t.lexeme = u.lexeme) ((eat t.kind).run s)
        ((eat t.kind).run s') := by
    rintro a b as bs rfl rfl
    obtain ⟨s1, h1, hs1⟩ := run_eat_cons hs rfl
    obtain ⟨s1', h1', hs1'⟩ := run_eat_cons hs' hu
    rw [h1, h1']
    exact .ok hl ⟨_, _, _, _, hs1, hs1', hm⟩
  cases hm with
  | fault hc =>
    obtain ⟨s1, h1⟩ := run_eat_last hs rfl
    obtain ⟨s1', h1'⟩ := run_eat_last hs' hu
    rw [h1, h1']
    exact .fault hc
  | token _ _ => exact hcons rfl rfl
  | rest h =>
    obtain ⟨a, as, b, bs, hts, hus, -, -⟩ := hT _ _ _ _ h
    exact hcons hts hus

/-- **Taking a token** of a kind with which the rests do not start. -/
theorem parallel_eat {k : Kind} (hT : Starts T (· ≠ k)) :
    Parallel T L R (fun t u => t.lexeme = u.lexeme) (eat k) (eat k) := by
  rintro s s' ⟨ts, e, us, f, hts, hus, hm⟩
  cases hm with
  | fault hc => exact tallies_current_fault hts hus hc
  | @token t u _ _ _ _ hl hm =>
    have hk : t.kind = u.kind := congrArg Lexeme.kind hl
    by_cases ht : t.kind = k
    · subst ht
      exact tallies_take hT hts hus hl hm
    · obtain ⟨s1, h1⟩ := run_eat_ne hts ht
      obtain ⟨s1', h1'⟩ := run_eat_ne hus (hk ▸ ht)
      rw [h1, h1']
      exact .fault (by rw [hk])
  | rest h =>
    obtain ⟨t, ts, u, us, rfl, rfl, ht, hu⟩ := hT _ _ _ _ h
    obtain ⟨s1, h1⟩ := run_eat_ne hts ht
    obtain ⟨s1', h1'⟩ := run_eat_ne hus hu
    rw [h1, h1']
    exact .refused h

/-! ### Loops -/

/-- **Loops go together** if their bodies do and they stop at the rests. -/
theorem parallel_loop {accepts : Kind → Option κ} {f : α → Token → κ → Parse α}
    {g : β → Token → κ → Parse β} (hT : Starts T (accepts · = none))
    (hfg : ∀ a b t u c, A a b → t.lexeme = u.lexeme → Parallel T L R A (f a t c) (g b u c))
    {a : α} {b : β} (hab : A a b) : Parallel T L R A (loop accepts f a) (loop accepts g b) := by
  intro s s' hs
  -- By induction on what is left to read on the left: a round takes a token.
  induction hn : s.remaining using Nat.strongRecOn generalizing s s' a b with
  | ind n ih =>
    rw [run_loop, run_loop]
    refine tallies_current hT hs (fun t u s1 s1' hc hl hs1 => ?_) fun t u s1 s1' ht hu hs1 => ?_
    · have hk : u.kind = t.kind := congrArg Lexeme.kind hl.symm
      have hcur := run_remaining_le current s
      rw [hc] at hcur
      rw [hk]
      rcases hacc : accepts t.kind with _ | c
      · exact .ok hab hs1
      · dsimp only
        by_cases hend : t.kind = .endOfInput
        · rw [if_pos hend, if_pos hend]
          exact .ok hab hs1
        · rw [if_neg hend, if_neg hend]
          have hne : Starts T (· ≠ t.kind) := hT.mono fun k hk => by
            rintro rfl
            rw [hacc] at hk
            cases hk
          refine (parallel_eat hne s1 s1' hs1).bind fun _ _ s2 s2' he _ hs2 => ?_
          refine (hfg a b t u c hab hl s2 s2' hs2).bind fun a' b' s3 s3' hf hab' hs3 => ?_
          have hlt := eat_remaining_lt he hend
          have hbody := run_remaining_le (f a t c) s2
          rw [hf] at hbody
          dsimp only at hcur hbody
          exact ih s3.remaining (by omega) hab' s3 s3' hs3 rfl
    · rw [ht, hu]
      exact .ok hab hs1

/-! ### Expressions -/

/-- The same tree, up to offsets. -/
def Likened (t u : Tree) : Prop := t.unplaced = u.unplaced

theorem parallel_chain {operators : Kind → Option Operator} {x y : Parse Tree}
    (hT : Starts T (operators · = none)) (h : Parallel T L R Likened x y) :
    Parallel T L R Likened (chain operators x) (chain operators y) := by
  refine h.bind fun l m hlm => parallel_loop hT (fun a b t u op hab hl => ?_) hlm
  refine parallel_map h fun r r' hr => ?_
  have hab : a.unplaced = b.unplaced := hab
  have hr : r.unplaced = r'.unplaced := hr
  simp only [Likened, Tree.unplaced, hab, hr]

theorem additive?_of_isOutside (k : Kind) (h : k.isOutside = true) : additive? k = none := by
  cases k <;> first | rfl | cases h

theorem multiplicative?_of_isOutside (k : Kind) (h : k.isOutside = true) :
    multiplicative? k = none := by
  cases k <;> first | rfl | cases h

theorem ne_of_isOutside {k : Kind} (h : k.isOutside = false) (j : Kind) (hj : j.isOutside = true) :
    j ≠ k := by
  rintro rfl
  rw [h] at hj
  cases hj

theorem parallel_expressionOf {x y : Parse Tree} (hT : Outside T)
    (h : Parallel T L R Likened x y) :
    Parallel T L R Likened (expressionOf x) (expressionOf y) :=
  parallel_chain (hT.mono additive?_of_isOutside)
    (parallel_chain (hT.mono multiplicative?_of_isOutside) h)

theorem parallel_sign (hT : Outside T) {k : Kind} (hk : k.isOutside = false) {x y : Parse Tree}
    (h : Parallel T L R Likened x y) (sign : Sign) (p q : Int) :
    Parallel T L R Likened (eat k >>= fun _ => x >>= fun t => pure (.unary sign p t))
      (eat k >>= fun _ => y >>= fun t => pure (.unary sign q t)) := by
  refine (parallel_eat (hT.mono (ne_of_isOutside hk))).bind fun _ _ _ => ?_
  refine parallel_map h fun t u htu => ?_
  have htu : t.unplaced = u.unplaced := htu
  simp only [Likened, Tree.unplaced, htu]

theorem parallel_leaf (hT : Outside T) {k : Kind} (hk : k.isOutside = false) {t u : Tree}
    (h : Likened t u) :
    Parallel T L R Likened (eat k >>= fun _ => pure t) (eat k >>= fun _ => pure u) :=
  parallel_map (parallel_eat (hT.mono (ne_of_isOutside hk))) fun _ _ _ => h

theorem parallel_parens {x y : Parse Tree} (hT : Outside T) (h : Parallel T L R Likened x y) :
    Parallel T L R Likened
      (eat .openParen >>= fun _ => expressionOf x >>= fun t => eat .closeParen >>= fun _ => pure t)
      (eat .openParen >>= fun _ => expressionOf y >>= fun t => eat .closeParen >>= fun _ =>
        pure t) := by
  refine (parallel_eat (hT.mono (ne_of_isOutside rfl))).bind fun _ _ _ => ?_
  refine (parallel_expressionOf hT h).bind fun t u htu => ?_
  exact parallel_leaf hT rfl htu

/-- **Factors**, each within its own limit. -/
theorem parallel_factor (hT : Outside T) : ∀ {d d' : Nat}, (d < d' → L) → (d' < d → R) →
    Parallel T L R Likened (factor d) (factor d')
  | 0, 0, _, _ => fun _ _ _ => .deep
  | 0, d' + 1, hL, _ => fun _ _ _ => .deepLeft (hL d'.succ_pos)
  | d + 1, 0, _, hR => fun _ _ _ => .deepRight (hR d.succ_pos)
  | d + 1, d' + 1, hL, hR => by
    have ih : Parallel T L R Likened (factor d) (factor d') :=
      parallel_factor hT (fun h => hL (Nat.succ_lt_succ h)) fun h => hR (Nat.succ_lt_succ h)
    intro s s' hs
    unfold factor
    refine tallies_choice (x := .oneOf factorStarts) hT hs (fun t u s1 s1' hl hs1 => ?_) ?_ ?_
    · rcases t with ⟨l, p⟩
      rcases u with ⟨m, q⟩
      obtain rfl : l = m := hl
      cases l with
      | plus => exact parallel_sign hT rfl ih .plus p q s1 s1' hs1
      | minus => exact parallel_sign hT rfl ih .minus p q s1 s1' hs1
      | number x =>
        have h : Likened (.number x p) (.number x q) := rfl
        exact parallel_leaf (k := .number) hT rfl h s1 s1' hs1
      | name x =>
        have h : Likened (.name x p) (.name x q) := rfl
        exact parallel_leaf (k := .name) hT rfl h s1 s1' hs1
      | openParen => exact parallel_parens hT ih s1 s1' hs1
      | _ => exact parallel_refuse hT _ s1 s1' hs1
    all_goals
      rintro ⟨l, p⟩ h
      cases l <;> first | rfl | cases h

theorem parallel_expression (hT : Outside T) {d d' : Nat} (hL : d < d' → L) (hR : d' < d → R) :
    Parallel T L R Likened (expression d) (expression d') :=
  parallel_expressionOf hT (parallel_factor hT hL hR)

/-! ### Statements -/

theorem ne_of_eq_endOfInput {k : Kind} (h : k ≠ .endOfInput) (j : Kind) (hj : j = .endOfInput) :
    j ≠ k := by
  rintro rfl
  exact h hj

theorem parallel_eat_bothEnd {k : Kind} (h : k ≠ .endOfInput) :
    Parallel BothEnd L R (fun t u => t.lexeme = u.lexeme) (eat k) (eat k) :=
  parallel_eat (starts_bothEnd.mono (ne_of_eq_endOfInput h))

theorem parallel_eatName :
    Parallel BothEnd L R (fun r r' => r.1 = r'.1) eatName eatName := by
  intro s s' hs
  refine tallies_choice (x := .exactly .name) starts_bothEnd hs (fun t u s1 s1' hl hs1 => ?_) ?_ ?_
  · rcases t with ⟨l, p⟩
    rcases u with ⟨m, q⟩
    obtain rfl : l = m := hl
    cases l with
    | name x =>
      have heat := parallel_eat_bothEnd (L := L) (R := R) (k := .name) nofun
      exact parallel_map (f := fun _ => (x, p)) (g := fun _ => (x, q)) heat (fun _ _ _ => rfl)
        s1 s1' hs1
    | _ => exact parallel_refuse starts_bothEnd _ s1 s1' hs1
  all_goals
    rintro ⟨l, p⟩ h
    cases l <;> first | rfl | cases h

theorem parallel_assignment {d d' : Nat} (hL : d < d' → L) (hR : d' < d → R) :
    Parallel BothEnd L R Likened (assignment d) (assignment d') := by
  refine parallel_eatName.bind fun r r' hr => ?_
  obtain ⟨x, q⟩ := r
  obtain ⟨y, q'⟩ := r'
  obtain rfl : x = y := hr
  refine (parallel_eat_bothEnd (k := .equals) nofun).bind fun t u _ => ?_
  refine parallel_map (parallel_expression outside_bothEnd hL hR) fun v w hvw => ?_
  have hvw : v.unplaced = w.unplaced := hvw
  simp only [Likened, Tree.unplaced, hvw]

theorem parallel_statementOf {x x' y y' : Parse Tree} (h : Parallel BothEnd L R Likened x y)
    (h' : Parallel BothEnd L R Likened x' y') :
    Parallel BothEnd L R Likened (statementOf x x') (statementOf y y') := by
  intro s s' hs
  refine tallies_current starts_bothEnd hs (fun t u s1 s1' _ hl hs1 => ?_)
    fun t u s1 s1' ht hu hs1 => ?_
  · rcases t with ⟨l, p⟩
    rcases u with ⟨m, q⟩
    obtain rfl : l = m := hl
    cases l with
    | name x => exact h s1 s1' hs1
    | openBrace => exact h' s1 s1' hs1
    | _ => exact .ok rfl hs1
  · rw [ht, hu]
    exact .ok rfl hs1

theorem unplacedAll_append : ∀ ts us : List Tree,
    Tree.unplacedAll (ts ++ us) = Tree.unplacedAll ts ++ Tree.unplacedAll us
  | [], _ => rfl
  | t :: ts, us => by
    rw [List.cons_append, Tree.unplacedAll, unplacedAll_append ts us, Tree.unplacedAll,
      List.cons_append]

/-- **Blocks**, each within its own limit. -/
theorem parallel_block : ∀ {d d' : Nat}, (d < d' → L) → (d' < d → R) →
    Parallel BothEnd L R Likened (block d) (block d')
  | 0, 0, _, _ => fun _ _ _ => .deep
  | 0, d' + 1, hL, _ => fun _ _ _ => .deepLeft (hL d'.succ_pos)
  | d + 1, 0, _, hR => fun _ _ _ => .deepRight (hR d.succ_pos)
  | d + 1, d' + 1, hL, hR => by
    have hL' : d < d' → L := fun h => hL (Nat.succ_lt_succ h)
    have hR' : d' < d → R := fun h => hR (Nat.succ_lt_succ h)
    have hst := parallel_statementOf (parallel_assignment hL' hR') (parallel_block hL' hR')
    have hsep : Starts BothEnd (separator? · = none) := starts_bothEnd.mono fun k hk => hk ▸ rfl
    unfold block
    refine (parallel_eat_bothEnd (k := .openBrace) nofun).bind fun t u _ => ?_
    refine hst.bind fun c c' hc => ?_
    have hfirst : Tree.unplacedAll [c] = Tree.unplacedAll [c'] := by
      have hc : c.unplaced = c'.unplaced := hc
      simp only [Tree.unplacedAll, hc]
    refine (parallel_loop (A := fun cs ds => Tree.unplacedAll cs = Tree.unplacedAll ds) hsep
      (fun cs ds t u _ hcs _ => ?_) hfirst).bind fun cs ds hcs => ?_
    · refine parallel_map hst fun a b hab => ?_
      have hab : a.unplaced = b.unplaced := hab
      simp only [unplacedAll_append, Tree.unplacedAll, hcs, hab]
    · refine parallel_map (parallel_eat_bothEnd (k := .closeBrace) nofun) fun _ _ _ => ?_
      simp only [Likened, Tree.unplaced, hcs]

/-! ### Whole sources -/

/-- The end of the input is taken, and comes once more. -/
theorem run_eat_end_again {t : Token} (h : s.Holds [t] none) :
    ∃ s1 p, (eat .endOfInput).run s = (.ok t, s1) ∧ s1.Holds [⟨.endOfInput, p⟩] none := by
  have ht := h.kind_of_last
  obtain ⟨s1, h1, hl, hr⟩ := run_eat_of_kind h ht
  cases h1 with
  | unread _ => cases hl
  | ahead hn _ => exact absurd ht hn
  | @ended c _ _ hrest =>
    refine ⟨⟨c, some ⟨.endOfInput, c.offset⟩⟩, c.offset, ?_, .ended rfl hrest⟩
    rw [hr, run_pull, Cursor.next_of_rest_nil hrest]

theorem parallel_eat_endOfInput :
    Parallel BothEnd L R (fun _ _ => True) (eat .endOfInput) (eat .endOfInput) := by
  rintro s s' ⟨ts, e, us, f, hts, hus, hm⟩
  cases hm with
  | fault hc => exact tallies_current_fault hts hus hc
  | @token t u _ _ _ _ hl hm =>
    have hk : t.kind = u.kind := congrArg Lexeme.kind hl
    have ht : t.kind ≠ .endOfInput := by
      intro ht
      obtain ⟨rfl, rfl⟩ := hts.eq_nil ht
      rcases hm with _ | ⟨p, q, hnil, -⟩
      cases hnil
    obtain ⟨s1, h1⟩ := run_eat_ne hts ht
    obtain ⟨s1', h1'⟩ := run_eat_ne hus (hk ▸ ht)
    rw [h1, h1']
    exact .fault (by rw [hk])
  | rest h =>
    obtain ⟨p, q, rfl, rfl, rfl, rfl⟩ := h
    obtain ⟨s1, p', h1, hs1⟩ := run_eat_end_again hts
    obtain ⟨s1', q', h1', hs1'⟩ := run_eat_end_again hus
    rw [h1, h1']
    exact .ok trivial ⟨_, _, _, _, hs1, hs1', .rest ⟨p', q', rfl, rfl, rfl, rfl⟩⟩

/-- **Programs**, each within its own limit. -/
theorem parallel_program {d d' : Nat} (hL : d < d' → L) (hR : d' < d → R) :
    Parallel BothEnd L R Likened (program d) (program d') :=
  (parallel_block hL hR).bind fun _ _ htu => parallel_map parallel_eat_endOfInput fun _ _ _ => htu

/-- **Expressions and nothing after them**, each within its own limit. -/
theorem parallel_soleExpression {d d' : Nat} (hL : d < d' → L) (hR : d' < d → R) :
    Parallel BothEnd L R Likened (soleExpression d) (soleExpression d') :=
  (parallel_expression outside_bothEnd hL hR).bind fun _ _ htu =>
    parallel_map parallel_eat_endOfInput fun _ _ _ => htu

end Parse

end BlockCalc
