import BlockCalc.Proofs.Grammar.Agenda
import BlockCalc.Proofs.Grammar.Nesting
import BlockCalc.Proofs.Token.Feed
import BlockCalc.Tree.Parser

/-! # Parsing against the grammar

`Parse.Meets X D ts e r` says how an action that stands for the agenda `X` may end on a stream that
holds the tokens `ts` and then the fault `e`:

* with a result: it took the tokens of a part of the grammar (`D`), and what is left of its agenda
  does not go on with the token that now comes next;
* with a refused token: the agenda cannot be followed along the tokens up to this one, and it could
  have been with any of the kinds that were expected;
* with the fault of the text: all tokens before it were taken or could have been;
* at the depth limit, of which nothing is said.

A refused token thus is the first that no sentence has in its place, and a fault of the text is
reported only where all tokens before it start a sentence. `Parse.Follows` says this of an action on
all streams. Sequences, choices by the next token and loops keep it (`Meets.bind`, `meets_current`,
`follows_loop`), and so every rule of the parser follows its part of the grammar
(`follows_factor`, `follows_expression`, `follows_block`). -/

namespace BlockCalc

namespace Parse

open Grammar

/-- How an action may end that stands for an agenda. -/
inductive Meets {α : Type} (X : List Part) (D : List Token → α → Prop) (ts : List Token)
    (e : Option SourceFault) : Except (Stop SourceFault) α × TokenStream → Prop
  | ok (us) {rest h τ a s} : ts = us ++ h :: rest → s.Holds (h :: rest) e → D us a →
      Spent τ h.kind → (∀ σ, follow? (X ++ σ) (kinds us) = some (τ ++ σ)) →
      Meets X D ts e (.ok a, s)
  | refused (us) {rest t x s} : ts = us ++ t :: rest → x.kinds ≠ [] →
      (∀ σ, follow? (X ++ σ) (kinds us ++ [t.kind]) = none) →
      (∀ k ∈ x.kinds, ∀ σ, (follow? (X ++ σ) (kinds us ++ [k])).isSome = true) →
      Meets X D ts e (.error (.fault ⟨.unexpectedToken x t.kind, t.offset⟩), s)
  | faulty {f s} : e = some f → (∀ σ, (follow? (X ++ σ) (kinds ts)).isSome = true) →
      Meets X D ts e (.error (.fault f), s)
  | deep {s} : Meets X D ts e (.error .depth, s)

variable {α β : Type} {X Y : List Part} {D : List Token → α → Prop} {E : List Token → β → Prop}
  {ts : List Token} {e : Option SourceFault} {s : TokenStream}

/-- An action that stands for an agenda on every stream. -/
def Follows (x : Parse α) (X : List Part) (D : List Token → α → Prop) : Prop :=
  ∀ s ts e, s.Holds ts e → Meets X D ts e (x.run s)

theorem Meets.mono {D' : List Token → α → Prop} {r : Except (Stop SourceFault) α × TokenStream}
    (h : Meets X D ts e r) (hD : ∀ us a, D us a → D' us a) : Meets X D' ts e r := by
  cases h with
  | ok us h1 h2 h3 h4 h5 => exact .ok us h1 h2 (hD _ _ h3) h4 h5
  | refused us h1 h2 h3 h4 => exact .refused us h1 h2 h3 h4
  | faulty h1 h2 => exact .faulty h1 h2
  | deep => exact .deep

/-! ### Single steps -/

theorem meets_pure {h : Token} {rest : List Token} {a : α} (hs : s.Holds (h :: rest) e)
    (hD : D [] a) : Meets [] D (h :: rest) e ((pure a : Parse α).run s) :=
  .ok [] rfl hs hD (spent_nil _) fun _ => rfl

theorem meets_refuse {h : Token} {rest : List Token} (x : Expected) (hs : s.Holds (h :: rest) e)
    (hx : x.kinds ≠ []) (hh : ∀ σ, advance? (X ++ σ) h.kind = none)
    (hk : ∀ k ∈ x.kinds, ∀ σ, (advance? (X ++ σ) k).isSome = true) :
    Meets X D (h :: rest) e ((refuse x : Parse α).run s) := by
  obtain ⟨s', hr⟩ := run_refuse (α := α) x hs
  rw [hr]
  refine .refused [] rfl hx (fun σ => ?_) (fun k hkx σ => ?_)
  · exact (follow?_singleton _ _).trans (hh σ)
  · exact (congrArg Option.isSome (follow?_singleton _ _)).trans (hk k hkx σ)

theorem advance?_token (k : Kind) (σ : List Part) : advance? (.token k :: σ) k = some σ := by
  simp [advance?, Part.after?]

theorem advance?_token_ne {k j : Kind} (h : j ≠ k) (σ : List Part) :
    advance? (.token k :: σ) j = none := by
  simp [advance?, Part.after?, Part.optional, h]

theorem follows_eat {k : Kind} (hk : k ≠ .endOfInput) :
    Follows (eat k) [.token k] fun us t => us = [t] ∧ t.kind = k := by
  intro s ts e hs
  rcases ts with _ | ⟨t, ts⟩
  · obtain ⟨f, s', rfl, hc⟩ := run_current_nil hs
    rw [eat, run_bind, hc]
    exact .faulty rfl fun _ => rfl
  · by_cases ht : t.kind = k
    · rcases ts with _ | ⟨u, ts⟩
      · rcases e with _ | f
        · exact absurd (ht.symm.trans hs.kind_of_last) hk
        · obtain ⟨s', hr⟩ := run_eat_last hs ht
          rw [hr]
          refine .faulty rfl fun σ => ?_
          simp [ht, follow?, advance?_token]
      · obtain ⟨s', hr, hs'⟩ := run_eat_cons hs ht
        rw [hr]
        refine .ok [t] (τ := []) rfl hs' ⟨rfl, ht⟩ (spent_nil _) fun σ => ?_
        simp [ht, follow?, advance?_token]
    · obtain ⟨s', hr⟩ := run_eat_ne hs ht
      rw [hr]
      refine .refused [] rfl (by simp [Expected.kinds]) (fun σ => ?_) (fun j hj σ => ?_)
      · exact (follow?_singleton _ _).trans (advance?_token_ne ht σ)
      · cases List.mem_singleton.mp hj
        rw [show kinds [] ++ [k] = [k] from rfl, follow?_singleton]
        exact congrArg Option.isSome (advance?_token k σ)

/-! ### Sequences -/

theorem follow?_past {us : List Token} {τ : List Part}
    (h : ∀ σ, follow? (X ++ σ) (kinds us) = some (τ ++ σ)) (σ : List Part) (ks : List Kind) :
    follow? (X ++ σ) (kinds us ++ ks) = follow? (τ ++ σ) ks := by
  rw [follow?_append, h]
  rfl

/-- What is spent makes no difference to tokens of which the first is the one that comes next. -/
theorem follow?_next {τ : List Part} {h : Token} {rest us : List Token} (vs : List Token)
    (hτ : Spent τ h.kind) (hv : h :: rest = us ++ vs) (hne : us ≠ []) (σ : List Part)
    (ks : List Kind) : follow? (τ ++ σ) (kinds us ++ ks) = follow? σ (kinds us ++ ks) := by
  obtain ⟨u, us, rfl⟩ := List.exists_cons_of_ne_nil hne
  rw [(List.cons.inj hv).1] at hτ
  exact hτ.follow? σ _

/-- **One action after another.** -/
theorem Meets.bind {x : Parse α} {f : α → Parse β} (hx : Meets X D ts e (x.run s))
    (hf : ∀ us rest h a s', ts = us ++ h :: rest → s'.Holds (h :: rest) e → D us a →
      Meets Y (fun vs b => E (us ++ vs) b) (h :: rest) e ((f a).run s')) :
    Meets (X ++ Y) E ts e ((x >>= f).run s) := by
  rw [run_bind]
  generalize x.run s = r at hx
  cases hx with
  | refused us h1 h2 h3 h4 =>
    refine .refused us h1 h2 (fun σ => ?_) (fun k hk σ => ?_)
    · rw [List.append_assoc]; exact h3 _
    · rw [List.append_assoc]; exact h4 k hk _
  | faulty h1 h2 => exact .faulty h1 fun σ => by rw [List.append_assoc]; exact h2 _
  | deep => exact .deep
  | @ok us rest h τ a s' h1 h2 h3 h4 h5 =>
    have hm := hf us rest h a s' h1 h2 h3
    dsimp only
    generalize (f a).run s' = r at hm
    cases hm with
    | deep => exact .deep
    | faulty g1 g2 =>
      refine .faulty g1 fun σ => ?_
      rw [h1, kinds_append, List.append_assoc, follow?_past h5]
      exact (congrArg Option.isSome (h4.follow? _ _)).trans (g2 σ)
    | @refused vs rest' t x s'' g1 g2 g3 g4 =>
      refine .refused (us ++ vs) (by rw [h1, g1, List.append_assoc]) g2 (fun σ => ?_)
        (fun k hk σ => ?_)
      · have hvt : h :: rest = (vs ++ [t]) ++ rest' := by rw [g1, List.append_assoc]; rfl
        have hnext := follow?_next rest' h4 hvt (by simp) (Y ++ σ) []
        rw [kinds_append, List.append_nil] at hnext
        rw [kinds_append, List.append_assoc, List.append_assoc, follow?_past h5]
        exact hnext.trans (g3 σ)
      · rw [kinds_append, List.append_assoc, List.append_assoc, follow?_past h5]
        have hk' := g4 k hk σ
        rcases vs with _ | ⟨v, vs⟩
        · -- Nothing was taken, so a kind that was expected may also go on with what is spent.
          rw [show kinds [] ++ [k] = [k] from rfl, follow?_singleton] at hk' ⊢
          exact isSome_advance?_append hk' fun y hy => (h4 y hy).1
        · rw [follow?_next _ h4 g1 (by simp)]
          exact hk'
    | @ok vs rest' h' τ' b s'' g1 g2 g3 g4 g5 =>
      rcases vs with _ | ⟨v, vs⟩
      · -- The second action took nothing, so all of its agenda is left.
        have hY : Y = τ' := by simpa [follow?] using g5 []
        obtain ⟨rfl, rfl⟩ := List.cons.inj g1
        subst hY
        refine .ok us h1 g2 (by simpa using g3) (h4.append g4) fun σ => ?_
        rw [List.append_assoc, h5, List.append_assoc]
      · refine .ok (us ++ v :: vs) (by rw [h1, g1, List.append_assoc]) g2 g3 g4 fun σ => ?_
        have hnext := follow?_next _ h4 g1 (by simp) (Y ++ σ) []
        rw [List.append_nil] at hnext
        rw [kinds_append, List.append_assoc, follow?_past h5]
        exact hnext.trans (g5 σ)

theorem Follows.bind {x : Parse α} {f : α → Parse β} (hx : Follows x X D)
    (hf : ∀ us a, D us a → Follows (f a) Y fun vs b => E (us ++ vs) b) :
    Follows (x >>= f) (X ++ Y) E :=
  fun s ts e hs => (hx s ts e hs).bind fun us _ _ a s' _ hs' hD => hf us a hD s' _ e hs'

theorem follows_map {x : Parse α} {f : α → β} (hx : Follows x X D)
    (hE : ∀ us a, D us a → E us (f a)) : Follows (x >>= fun a => pure (f a)) X E := by
  intro s ts e hs
  have := (hx s ts e hs).bind (Y := []) (f := fun a => pure (f a)) (E := E)
    fun us rest h a s' _ hs' hD => meets_pure hs' (by rw [List.append_nil]; exact hE us a hD)
  rwa [List.append_nil] at this

/-! ### Choices -/

theorem meets_current {f : Token → Parse α} (hs : s.Holds ts e)
    (hf : ∀ h rest s', ts = h :: rest → s'.Holds (h :: rest) e →
      Meets X D (h :: rest) e ((f h).run s')) :
    Meets X D ts e ((current >>= f).run s) := by
  rw [run_bind]
  rcases ts with _ | ⟨h, rest⟩
  · obtain ⟨f, s', rfl, hc⟩ := run_current_nil hs
    rw [hc]
    exact .faulty rfl fun _ => rfl
  · obtain ⟨s', hc, hs'⟩ := run_current_cons hs
    rw [hc]
    exact hf h rest s' rfl hs'

/-- After a token of this kind, the two agendas are the same. -/
def Agree (X Y : List Part) (k : Kind) : Prop :=
  ∃ υ, ∀ σ, advance? (X ++ σ) k = some (υ ++ σ) ∧ advance? (Y ++ σ) k = some (υ ++ σ)

theorem Agree.follow? {k : Kind} (h : Agree X Y k) (σ : List Part) (ks : List Kind) :
    follow? (X ++ σ) (k :: ks) = Grammar.follow? (Y ++ σ) (k :: ks) := by
  obtain ⟨υ, hυ⟩ := h
  simp only [Grammar.follow?, (hυ σ).1, (hυ σ).2]

/-- Where the next token decides for an alternative, what stands for the alternative stands for the
choice. -/
theorem Meets.choose {h : Token} {rest : List Token}
    {r : Except (Stop SourceFault) α × TokenStream} (hm : Meets X D (h :: rest) e r)
    (hA : Agree X Y h.kind) : Meets Y D (h :: rest) e r := by
  have hX : advance? X h.kind ≠ none := by
    obtain ⟨υ, hυ⟩ := hA
    have := (hυ []).1
    rw [List.append_nil] at this
    rw [this]
    exact Option.some_ne_none _
  cases hm with
  | deep => exact .deep
  | faulty g1 g2 => exact .faulty g1 fun σ => by rw [kinds, List.map_cons, ← hA.follow?]; exact g2 σ
  | refused us g1 g2 g3 g4 =>
    rcases us with _ | ⟨u, us⟩
    · obtain ⟨rfl, rfl⟩ := List.cons.inj g1
      have := g3 []
      rw [List.append_nil, show kinds [] ++ [h.kind] = [h.kind] from rfl,
        follow?_singleton] at this
      exact absurd this hX
    · obtain ⟨rfl, -⟩ := List.cons.inj g1
      refine .refused (h :: us) g1 g2 (fun σ => ?_) (fun k hk σ => ?_)
      · rw [kinds, List.map_cons, List.cons_append, ← hA.follow?]; exact g3 σ
      · rw [kinds, List.map_cons, List.cons_append, ← hA.follow?]; exact g4 k hk σ
  | @ok us rest' h' τ a s' g1 g2 g3 g4 g5 =>
    rcases us with _ | ⟨u, us⟩
    · -- Nothing can be spent, since the next token is taken.
      obtain ⟨rfl, rfl⟩ := List.cons.inj g1
      have hτ : X = τ := by simpa [Grammar.follow?] using g5 []
      have := g4.advance? []
      rw [List.append_nil, ← hτ] at this
      exact absurd this hX
    · obtain ⟨rfl, -⟩ := List.cons.inj g1
      refine .ok (h :: us) g1 g2 g3 g4 fun σ => ?_
      rw [kinds, List.map_cons, ← hA.follow?]
      exact g5 σ

theorem meets_take {h : Token} {rest : List Token} {k : Kind} {f : Token → Parse α}
    (hs : s.Holds (h :: rest) e) (hk : k ≠ .endOfInput)
    (hA : Agree ([.token k] ++ X) Y k) (hh : h.kind = k)
    (hf : ∀ rest' h' s', rest = h' :: rest' → s'.Holds (h' :: rest') e →
      Meets X (fun us a => D (h :: us) a) (h' :: rest') e ((f h).run s')) :
    Meets Y D (h :: rest) e ((eat k >>= f).run s) := by
  subst hh
  refine Meets.choose ?_ hA
  refine (follows_eat hk s _ e hs).bind fun us rest' h' t s' he hs' hD => ?_
  obtain ⟨rfl, -⟩ := hD
  obtain ⟨rfl, hr⟩ := List.cons.inj he
  exact hf rest' h' s' hr hs'

/-! ### Loops -/

/-- What a loop over an optional part needs: the kinds that the loop accepts are those that the part
starts with, and then a round and the part itself are to come. -/
structure Round (accepts : Kind → Option β) (x : Part) (Y : List Part) : Prop where
  optional : x.optional = true
  stop : ∀ k, accepts k = none → x.after? k = none
  more : ∀ k b, accepts k = some b → k ≠ .endOfInput ∧ x.after? k = some (Y ++ [x])

theorem Round.agree {accepts : Kind → Option β} {x : Part} (h : Round accepts x Y) {k : Kind}
    {b : β} (hk : accepts k = some b) : Agree ([.token k] ++ (Y ++ [x])) [x] k := by
  refine ⟨Y ++ [x], fun σ => ⟨advance?_token k _, ?_⟩⟩
  simp [advance?, (h.more k b hk).2]

/-- **A loop stands for its optional part**, if its body stands for a round. -/
theorem follows_loop {accepts : Kind → Option β} (body : α → Token → β → Parse α) {x : Part}
    {B : α → Token → β → List Token → α → Prop} {D : α → List Token → α → Prop}
    (hx : Round accepts x Y) (hbody : ∀ a t b, Follows (body a t b) Y (B a t b))
    (hdone : ∀ a, D a [] a)
    (hmore : ∀ a t b us a' vs a'', accepts t.kind = some b → B a t b us a' → D a' vs a'' →
      D a (t :: (us ++ vs)) a'') :
    ∀ a, Follows (loop accepts body a) [x] (D a) := by
  intro a s ts e hs
  -- By induction on what is left: every round takes at least one token.
  induction hn : ts.length using Nat.strongRecOn generalizing a s ts with
  | ind n ih =>
    rw [run_loop]
    refine meets_current hs fun h rest s' hts hs' => ?_
    rcases hk : accepts h.kind with _ | b
    · refine .ok [] rfl hs' (hdone a) (τ := [x]) (fun y hy => ?_) fun σ => rfl
      cases List.mem_singleton.mp hy
      exact ⟨hx.optional, hx.stop _ hk⟩
    · dsimp only
      rw [if_neg (hx.more _ b hk).1]
      refine meets_take hs' (hx.more _ b hk).1 (hx.agree hk) rfl fun rest1 h1 s1 e1 hs1 => ?_
      refine (hbody a h b s1 _ e hs1).bind fun vs rest2 h2 a' s2 e2 hs2 hB => ?_
      have hlt : (h2 :: rest2).length < n := by
        have h1 := congrArg List.length hts
        have h2 := congrArg List.length e1
        have h3 := congrArg List.length e2
        simp only [List.length_cons, List.length_append] at *
        omega
      refine (ih _ hlt a' s2 _ hs2 rfl).mono fun ws a'' hw => ?_
      exact hmore a h b vs a' ws a'' hk hB hw

/-! ### Expressions -/

theorem round_products : Round multiplicative? .products [.factor] where
  optional := rfl
  stop k hk := by cases k <;> first | rfl | cases hk
  more k b hk := by cases k <;> first | exact ⟨nofun, rfl⟩ | cases hk

theorem round_sums : Round additive? .sums [.factor, .products] where
  optional := rfl
  stop k hk := by cases k <;> first | rfl | cases hk
  more k b hk := by cases k <;> first | exact ⟨nofun, rfl⟩ | cases hk

theorem multiplicative_of_eq {k : Lexeme} {op : Operator} (h : multiplicative? k.kind = some op) :
    Multiplicative k op := by
  cases k <;> cases h <;> constructor

theorem additive_of_eq {k : Lexeme} {op : Operator} (h : additive? k.kind = some op) :
    Additive k op := by
  cases k <;> cases h <;> constructor

theorem follows_chain {operators : Kind → Option Operator} {operand : Parse Tree} {x : Part}
    {operator : Lexeme → Operator → Prop} {T : List Token → Tree → Prop} (hx : Round operators x Y)
    (ho : Follows operand Y T) (hop : ∀ {k op}, operators k.kind = some op → operator k op) :
    Follows (chain operators operand) (Y ++ [x]) (Chain operator T) := by
  refine ho.bind fun us l hl => ?_
  have hloop := follows_loop
    (D := fun l us t => ∀ ws, Chain operator T ws l → Chain operator T (ws ++ us) t)
    (fun left t op => do return .binary op t.offset left (← operand)) hx
    (fun a t op => follows_map (E := fun vs u => ∃ r, T vs r ∧ u = .binary op t.offset a r) ho
      fun vs r hr => ⟨r, hr, rfl⟩)
    (fun l ws hws => by rwa [List.append_nil]) (by
      rintro a ⟨k, p⟩ op vs _ ws t hk ⟨r, hr, rfl⟩ ht ys hys
      have hmore := ht _ (.more hys (hop hk) hr)
      rwa [List.append_assoc] at hmore)
  intro s ts e hs
  exact (hloop l s ts e hs).mono fun vs t ht => ht us (.one hl)

theorem follows_termOf {factor : Parse Tree} {D : List Token → Tree → Prop}
    (hf : Follows factor [.factor] D) :
    Follows (termOf factor) [.factor, .products] (TermOver D) :=
  follows_chain round_products hf multiplicative_of_eq

theorem follows_expressionOf {factor : Parse Tree} {D : List Token → Tree → Prop}
    (hf : Follows factor [.factor] D) :
    Follows (expressionOf factor) expressionAgenda (ExpressionOver D) :=
  follows_chain round_sums (follows_termOf hf) additive_of_eq

theorem agree_sign {k : Kind} (h : k = .plus ∨ k = .minus) :
    Agree ([.token k] ++ [.factor]) [.factor] k := by
  refine ⟨[.factor], fun σ => ?_⟩
  rcases h with rfl | rfl <;> exact ⟨rfl, rfl⟩

theorem agree_leaf {k : Kind} (h : k = .number ∨ k = .name) :
    Agree ([.token k] ++ []) [.factor] k := by
  refine ⟨[], fun σ => ?_⟩
  rcases h with rfl | rfl <;> exact ⟨rfl, rfl⟩

theorem agree_parens :
    Agree ([.token .openParen] ++ (expressionAgenda ++ [.token .closeParen])) [.factor]
      .openParen :=
  ⟨expressionAgenda ++ [.token .closeParen], fun _ => ⟨rfl, rfl⟩⟩

theorem isSome_factorStarts : ∀ k ∈ (Expected.oneOf factorStarts).kinds, ∀ σ,
    (advance? ([.factor] ++ σ) k).isSome = true := by
  intro k hk σ
  fin_cases hk <;> rfl

/-- **A factor.** -/
theorem follows_factor : ∀ d, Follows (factor d) [.factor] (FactorWithin d)
  | 0 => fun s ts e hs => .deep
  | d + 1 => by
    have ih := follows_factor d
    intro s ts e hs
    unfold factor
    refine meets_current hs fun h rest s' _ hs' => ?_
    rcases h with ⟨l, p⟩
    cases l with
    | plus =>
      refine meets_take hs' (k := .plus) nofun (agree_sign (.inl rfl)) rfl fun rest' h' s1 _ hs1 => ?_
      exact follows_map ih (fun us t ht => .sign .plus ht) s1 _ e hs1
    | minus =>
      refine meets_take hs' (k := .minus) nofun (agree_sign (.inr rfl)) rfl
        fun rest' h' s1 _ hs1 => ?_
      exact follows_map ih (fun us t ht => .sign .minus ht) s1 _ e hs1
    | number x =>
      refine meets_take hs' (k := .number) nofun (agree_leaf (.inl rfl)) rfl
        fun rest' h' s1 _ hs1 => ?_
      exact meets_pure hs1 .number
    | name x =>
      refine meets_take hs' (k := .name) nofun (agree_leaf (.inr rfl)) rfl
        fun rest' h' s1 _ hs1 => ?_
      exact meets_pure hs1 .name
    | openParen =>
      refine meets_take hs' (k := .openParen) nofun agree_parens rfl fun rest' h' s1 _ hs1 => ?_
      refine (follows_expressionOf ih s1 _ e hs1).bind fun us rest2 h2 t s2 _ hs2 ht => ?_
      refine follows_map (follows_eat (k := .closeParen) nofun) (fun vs u hu => ?_) s2 _ e hs2
      rcases u with ⟨l, q⟩
      obtain ⟨rfl, hu⟩ := hu
      cases l <;> cases hu
      exact .parens ht
    | _ => exact meets_refuse _ hs' nofun (fun _ => rfl) isSome_factorStarts

/-- **An expression.** -/
theorem follows_expression (d : Nat) : Follows (expression d) expressionAgenda (ExpressionWithin d) :=
  follows_expressionOf (follows_factor d)

/-! ### Statements -/

theorem follows_eatName : Follows eatName [.token .name] fun us r => us = [⟨.name r.1, r.2⟩] := by
  intro s ts e hs
  unfold eatName
  refine meets_current hs fun h rest s' _ hs' => ?_
  rcases h with ⟨l, p⟩
  cases l with
  | name x =>
    have hA : Agree ([.token .name] ++ []) [.token .name] .name := ⟨[], fun _ => ⟨rfl, rfl⟩⟩
    refine meets_take hs' (k := .name) nofun hA rfl fun rest' h' s1 _ hs1 => ?_
    exact meets_pure hs1 rfl
  | _ =>
    refine meets_refuse _ hs' nofun (fun _ => rfl) fun k hk σ => ?_
    cases List.mem_singleton.mp hk
    rfl

/-- The agenda of an assignment. -/
def assignmentAgenda : List Part := .token .name :: .token .equals :: expressionAgenda

theorem follows_assignment (d : Nat) : Follows (assignment d) assignmentAgenda Assignment := by
  refine follows_eatName.bind (Y := .token .equals :: expressionAgenda) fun us r hr => ?_
  obtain ⟨x, q⟩ := r
  refine (follows_eat (k := .equals) nofun).bind (Y := expressionAgenda) fun vs t ht => ?_
  rcases t with ⟨l, p⟩
  obtain ⟨rfl, hl⟩ := ht
  cases l <;> cases hl
  subst hr
  exact follows_map (follows_expression d) fun ws v hv => .mk hv.expression

theorem follows_statementOf {assignment block : Parse Tree}
    (ha : Follows assignment assignmentAgenda Assignment)
    (hb : Follows block blockAgenda Block) :
    Follows (statementOf assignment block) [.statement] Statement := by
  intro s ts e hs
  unfold statementOf
  refine meets_current hs fun h rest s' _ hs' => ?_
  have hempty : h.kind ≠ .name → h.kind ≠ .openBrace →
      Meets [.statement] Statement (h :: rest) e ((pure .empty : Parse Tree).run s') := by
    intro hn ho
    refine .ok [] rfl hs' .empty (τ := [.statement]) (fun y hy => ?_) fun _ => rfl
    cases List.mem_singleton.mp hy
    generalize h.kind = k at hn ho
    cases k <;> first | exact ⟨rfl, rfl⟩ | exact absurd rfl hn | exact absurd rfl ho
  rcases hk : h.kind with _ | _ | _ | _ | _ | _ | _ | _ | _ | _ | _ | _ | _
  case name =>
    have hA : Agree assignmentAgenda [.statement] h.kind := by
      rw [hk]
      exact ⟨.token .equals :: expressionAgenda, fun _ => ⟨rfl, rfl⟩⟩
    exact ((ha s' _ e hs').mono fun us t ht => .assignment ht).choose hA
  case openBrace =>
    have hA : Agree blockAgenda [.statement] h.kind := by
      rw [hk]
      exact ⟨[.statement, .statements, .token .closeBrace], fun _ => ⟨rfl, rfl⟩⟩
    exact ((hb s' _ e hs').mono fun us t ht => .block ht).choose hA
  all_goals exact hempty (by rw [hk]; nofun) (by rw [hk]; nofun)

theorem round_statements : Round separator? .statements [.statement] where
  optional := rfl
  stop k hk := by cases k <;> first | rfl | cases hk
  more k b hk := by cases k <;> first | exact ⟨nofun, rfl⟩ | cases hk

theorem follows_statements {statement : Parse Tree} (hs : Follows statement [.statement] Statement)
    (cs : List Tree) :
    Follows (loop separator? (fun cs _ _ => do return cs ++ [← statement]) cs) [.statements]
      fun us ds => ∃ more, ds = cs ++ more ∧ Statements us more := by
  refine follows_loop (D := fun cs us ds => ∃ more, ds = cs ++ more ∧ Statements us more) _
    round_statements
    (fun a t b => follows_map (E := fun us ds => ∃ c, ds = a ++ [c] ∧ Statement us c) hs
      fun us c hc => ⟨c, rfl, hc⟩)
    (fun a => ⟨[], by simp, .done⟩) ?_ cs
  rintro a ⟨l, p⟩ b us _ vs _ hl ⟨c, rfl, hc⟩ ⟨more, rfl, hm⟩
  have hl : l = .semicolon := by cases l <;> first | rfl | cases hl
  subst hl
  exact ⟨c :: more, by simp, .more hc hm⟩

/-- **A block.** -/
theorem follows_block : ∀ d, Follows (block d) blockAgenda Block
  | 0 => fun s ts e hs => .deep
  | d + 1 => by
    have hst := follows_statementOf (follows_assignment d) (follows_block d)
    unfold block
    refine (follows_eat (k := .openBrace) nofun).bind
      (Y := [.statement, .statements, .token .closeBrace]) fun us t ht => ?_
    rcases t with ⟨l, p⟩
    obtain ⟨rfl, hl⟩ := ht
    cases l <;> cases hl
    refine hst.bind (Y := [.statements, .token .closeBrace]) fun vs c hc => ?_
    refine (follows_statements hst [c]).bind (Y := [.token .closeBrace]) fun ws ds hds => ?_
    obtain ⟨cs, rfl, hcs⟩ := hds
    refine follows_map (follows_eat (k := .closeBrace) nofun) fun xs u hu => ?_
    rcases u with ⟨l, q⟩
    obtain ⟨rfl, hl⟩ := hu
    cases l <;> cases hl
    exact .mk hc hcs

/-! ### Whole sources -/

/-- An action with nothing after what it takes. -/
def toEndOfInput (x : Parse α) : Parse α := do
  let a ← x
  let _ ← eat .endOfInput
  return a

/-- How an action may end that stands for an agenda and then the end of the input. -/
inductive Ends {α : Type} (σ : List Part) (S : List Token → α → Prop) (ts : List Token)
    (e : Option SourceFault) : Except (Stop SourceFault) α → Prop
  | ok {a} : e = none → S ts a → Ends σ S ts e (.ok a)
  | refused (us) {rest t x} : ts = us ++ t :: rest → x.kinds ≠ [] →
      follow? σ (kinds us ++ [t.kind]) = none →
      (∀ k ∈ x.kinds, (follow? σ (kinds us ++ [k])).isSome = true) →
      Ends σ S ts e (.error (.fault ⟨.unexpectedToken x t.kind, t.offset⟩))
  | faulty {f} : e = some f → (follow? σ (kinds ts)).isSome = true →
      Ends σ S ts e (.error (.fault f))
  | deep : Ends σ S ts e (.error .depth)

theorem Follows.ends {x : Parse α} {S : List Token → α → Prop} (hx : Follows x X D)
    (hS : ∀ us a p, D us a → S (us ++ [⟨.endOfInput, p⟩]) a) (hs : s.Holds ts e) :
    Ends (toEnd X) S ts e ((toEndOfInput x).run s).1 := by
  have hm := hx s ts e hs
  unfold toEndOfInput
  rw [run_bind]
  generalize x.run s = r at hm
  cases hm with
  | refused us h1 h2 h3 h4 => exact .refused us h1 h2 (h3 _) fun k hk => h4 k hk _
  | faulty h1 h2 => exact .faulty h1 (h2 _)
  | deep => exact .deep
  | @ok us rest h τ a s' h1 h2 h3 h4 h5 =>
    dsimp only
    rw [run_bind]
    have hpast : ∀ k, follow? (toEnd X) (kinds us ++ [k]) = advance? (τ ++ [.token .endOfInput]) k :=
      fun k => (follow?_past h5 _ _).trans (follow?_singleton _ _)
    by_cases hk : h.kind = .endOfInput
    · obtain ⟨rfl, rfl⟩ := h2.eq_nil hk
      obtain ⟨s'', hr⟩ := run_eat_end h2
      rw [hr]
      rcases h with ⟨l, p⟩
      cases l <;> cases hk
      exact .ok rfl (h1 ▸ hS us a p h3)
    · obtain ⟨s'', hr⟩ := run_eat_ne h2 hk
      rw [hr]
      refine .refused us h1 nofun ?_ fun k hke => ?_
      · rw [hpast, h4.advance? _, advance?_token_ne hk]
      · cases List.mem_singleton.mp hke
        rw [hpast]
        exact isSome_advance?_append rfl fun y hy => (h4 y hy).1

/-- An action that comes to its depth limit faults the source. -/
theorem tooDeep_of_depth {x : Parse α} {source : List Char}
    (h : (x.run (TokenStream.start source)).1 = .error .depth) (file : Option String) :
    TooDeep (x.onSource source file) := by
  unfold onSource
  generalize x.run (TokenStream.start source) = r at h ⊢
  obtain ⟨r, s⟩ := r
  obtain rfl : r = .error .depth := h
  exact ⟨_, rfl⟩

theorem Ends.depth_of_tooDeep {x : Parse α} {S : List Token → α → Prop} {source : List Char}
    {file : Option String} (h : Ends σ S (Cursor.start source).feed.1 (Cursor.start source).feed.2
      (x.run (TokenStream.start source)).1) (hd : TooDeep (x.onSource source file)) :
    (x.run (TokenStream.start source)).1 = .error .depth := by
  obtain ⟨l, hd⟩ := hd
  unfold onSource at hd
  generalize x.run (TokenStream.start source) = r at h hd ⊢
  obtain ⟨r, s⟩ := r
  dsimp only at h
  cases h with
  | ok _ _ => cases hd
  | refused us _ _ _ _ => cases hd
  | @faulty f hf _ =>
    have hfamily := Cursor.family_of_feed hf
    have hcause : f.cause = .nestingTooDeep := congrArg Fault.cause (Except.error.inj hd)
    rw [hcause] at hfamily
    cases hfamily
  | deep => rfl

end Parse

open Parse in
/-- **How parsing a program may end.** -/
theorem ends_program (limit : Nat) (source : List Char) :
    Ends (Grammar.toEnd Grammar.blockAgenda) Grammar.Program (Cursor.start source).feed.1
      (Cursor.start source).feed.2 ((Parse.program limit).run (TokenStream.start source)).1 :=
  (follows_block limit).ends (fun _ _ _ h => .mk h) (TokenStream.holds_start source)

open Parse in
/-- **How parsing an expression may end.** -/
theorem ends_soleExpression (limit : Nat) (source : List Char) :
    Ends (Grammar.toEnd Grammar.expressionAgenda) Grammar.SoleExpression
      (Cursor.start source).feed.1 (Cursor.start source).feed.2
      ((Parse.soleExpression limit).run (TokenStream.start source)).1 :=
  (follows_expression limit).ends (fun _ _ _ h => .mk h.expression) (TokenStream.holds_start source)

end BlockCalc
