import BlockCalc.Proofs.Parsing

/-! # Parsing without a depth limit

The depth limit cuts the rules of the parser off at some place of their recursion, when tokens were
taken already. `Parse.Curtails x y` says that the action `x` does what `y` does, on every stream and
down to the stream it leaves behind, unless it comes to its limit. Sequences and loops keep this
(`Curtails.bind`, `curtails_loop`), and so do the rules, so a lower limit curtails a higher one.

A rule that calls itself has taken a token before. So a limit above what is left of a stream is never
reached (`Roomy`), and the parser without a limit is the one that always has such a limit
(`Parse.unlimited`). It is the only one that obeys the rules of the grammar with nothing cut off.

* `curtails_factor`, `curtails_block`: a limit that is not reached can be raised.
* `obeys_unlimited`, `Obeys.unique`: the rules without a limit have exactly one solution.
* `Curtails.onSource`: whole sources, where the limit is a fault of its own. -/

namespace BlockCalc

namespace Parse

variable {α β : Type}

theorem ext_run {x y : Parse α} (h : ∀ s, x.run s = y.run s) : x = y := by
  funext s
  obtain ⟨h1, h2⟩ := Prod.mk.inj (h s)
  exact Prod.ext h1 (Subtype.ext h2)

/-! ### Actions that are cut off -/

/-- The first outcome is the second, unless it comes from the depth limit. -/
def Short (r r' : Except (Stop SourceFault) α × TokenStream) : Prop :=
  r.1 = .error .depth ∨ r = r'

/-- The first action does what the second does, unless it comes to its depth limit. -/
def Curtails (x y : Parse α) : Prop := ∀ s, Short (x.run s) (y.run s)

theorem curtails_refl (x : Parse α) : Curtails x x := fun _ => .inr rfl

theorem curtails_stop (y : Parse α) : Curtails (stop .depth) y := fun _ => .inl rfl

theorem Curtails.run_eq {x y : Parse α} (h : Curtails x y) {s : TokenStream}
    (hs : (x.run s).1 ≠ .error .depth) : x.run s = y.run s :=
  (h s).resolve_left hs

theorem Short.bind {x y : Parse α} {f g : α → Parse β} {s : TokenStream}
    (h : Short (x.run s) (y.run s))
    (hfg : ∀ a s', y.run s = (.ok a, s') → Short ((f a).run s') ((g a).run s')) :
    Short ((x >>= f).run s) ((y >>= g).run s) := by
  rw [run_bind, run_bind]
  rcases h with h | h
  · generalize x.run s = r at h
    rcases r with ⟨e | a, s'⟩
    · cases h
      exact .inl rfl
    · cases h
  · rw [h]
    rcases hy : y.run s with ⟨e | a, s'⟩
    · exact .inr rfl
    · exact hfg a s' hy

theorem Curtails.bind {x y : Parse α} {f g : α → Parse β} (h : Curtails x y)
    (hfg : ∀ a, Curtails (f a) (g a)) : Curtails (x >>= f) (y >>= g) :=
  fun s => (h s).bind fun a s' _ => hfg a s'

theorem curtails_map {x y : Parse α} (h : Curtails x y) (f : α → β) :
    Curtails (x >>= fun a => pure (f a)) (y >>= fun a => pure (f a)) :=
  h.bind fun _ => curtails_refl _

theorem curtails_loop {accepts : Kind → Option β} {f g : α → Token → β → Parse α}
    (hfg : ∀ a t b, Curtails (f a t b) (g a t b)) (a : α) :
    Curtails (loop accepts f a) (loop accepts g a) := by
  intro s
  -- By induction on what is left to read: a round takes a token.
  induction hn : s.remaining using Nat.strongRecOn generalizing s a with
  | ind n ih =>
    rw [run_loop, run_loop]
    refine (curtails_refl current s).bind fun t s1 hc => ?_
    have hcur := run_remaining_le current s
    rw [hc] at hcur
    rcases accepts t.kind with _ | b
    · exact .inr rfl
    dsimp only
    split
    · exact .inr rfl
    · next hk =>
      refine (curtails_refl (eat t.kind) s1).bind fun u s2 he => ?_
      refine (hfg a t b s2).bind fun a' s3 hb => ?_
      have hlt := eat_remaining_lt he hk
      have hbody := run_remaining_le (g a t b) s2
      rw [hb] at hbody
      dsimp only at hcur hbody
      exact ih s3.remaining (by omega) a' s3 rfl

/-! ### The rules, with their recursion left open -/

/-- The rule of factors, over the factors inside. -/
def factorOver (inner : Parse Tree) : Parse Tree := do
  let t ← current
  match t.lexeme with
  | .plus =>
    let _ ← eat .plus
    return .unary .plus t.offset (← inner)
  | .minus =>
    let _ ← eat .minus
    return .unary .minus t.offset (← inner)
  | .number x =>
    let _ ← eat .number
    return .number x t.offset
  | .name s =>
    let _ ← eat .name
    return .name s t.offset
  | .openParen =>
    let _ ← eat .openParen
    let t ← expressionOf inner
    let _ ← eat .closeParen
    return t
  | _ => refuse (.oneOf factorStarts)

/-- The rule of assignments, over the factors of the value. -/
def assignmentOver (factor : Parse Tree) : Parse Tree := do
  let (x, q) ← eatName
  let t ← eat .equals
  return .assign x q t.offset (← expressionOf factor)

/-- The rule of blocks, over the statements inside. -/
def blockOver (statement : Parse Tree) : Parse Tree := do
  let t ← eat .openBrace
  let first ← statement
  let children ← loop separator? (fun cs _ _ => do return cs ++ [← statement]) [first]
  let _ ← eat .closeBrace
  return .block t.offset children

theorem factor_succ (d : Nat) : factor (d + 1) = factorOver (factor d) := rfl

theorem block_succ (d : Nat) :
    block (d + 1) = blockOver (statementOf (assignmentOver (factor d)) (block d)) := rfl

section Rules

variable {x y : Parse Tree}

theorem curtails_chain (operators : Kind → Option Operator) (h : Curtails x y) :
    Curtails (chain operators x) (chain operators y) :=
  h.bind fun first => curtails_loop (fun left t op => curtails_map h (.binary op t.offset left)) first

theorem curtails_expressionOf (h : Curtails x y) : Curtails (expressionOf x) (expressionOf y) :=
  curtails_chain _ (curtails_chain _ h)

theorem curtails_factorOver (h : Curtails x y) : Curtails (factorOver x) (factorOver y) := by
  refine (curtails_refl current).bind fun t => ?_
  rcases t with ⟨l, p⟩
  cases l with
  | plus => exact (curtails_refl _).bind fun _ => curtails_map h (Tree.unary .plus p)
  | minus => exact (curtails_refl _).bind fun _ => curtails_map h (Tree.unary .minus p)
  | openParen =>
    refine (curtails_refl _).bind fun _ => (curtails_expressionOf h).bind fun _ => ?_
    exact curtails_refl _
  | _ => exact curtails_refl _

theorem curtails_assignmentOver (h : Curtails x y) :
    Curtails (assignmentOver x) (assignmentOver y) := by
  refine (curtails_refl eatName).bind fun r => (curtails_refl _).bind fun t => ?_
  exact curtails_map (curtails_expressionOf h) (Tree.assign r.1 r.2 t.offset)

theorem curtails_statementOf {a b : Parse Tree} (h : Curtails x y) (h' : Curtails a b) :
    Curtails (statementOf x a) (statementOf y b) := by
  refine (curtails_refl current).bind fun t => ?_
  rcases t with ⟨l, p⟩
  cases l with
  | name => exact h
  | openBrace => exact h'
  | _ => exact curtails_refl _

theorem curtails_blockOver (h : Curtails x y) : Curtails (blockOver x) (blockOver y) := by
  refine (curtails_refl _).bind fun t => h.bind fun first => ?_
  refine (curtails_loop (fun cs _ _ => curtails_map h (cs ++ [·])) [first]).bind fun cs => ?_
  exact curtails_refl _

end Rules

/-- **A lower limit curtails a higher one**: factors. -/
theorem curtails_factor : ∀ {d d' : Nat}, d ≤ d' → Curtails (factor d) (factor d')
  | 0, _, _ => curtails_stop _
  | d + 1, 0, h => absurd h (Nat.not_succ_le_zero d)
  | _ + 1, _ + 1, h => curtails_factorOver (curtails_factor (Nat.le_of_succ_le_succ h))

/-- **A lower limit curtails a higher one**: blocks. -/
theorem curtails_block : ∀ {d d' : Nat}, d ≤ d' → Curtails (block d) (block d')
  | 0, _, _ => curtails_stop _
  | d + 1, 0, h => absurd h (Nat.not_succ_le_zero d)
  | _ + 1, _ + 1, h => by
    have h := Nat.le_of_succ_le_succ h
    exact curtails_blockOver (curtails_statementOf (curtails_assignmentOver (curtails_factor h))
      (curtails_block h))

/-! ### Limits that are never reached -/

/-- An action that does not come to its depth limit on streams with less than `n` left to read. -/
def Roomy (n : Nat) (x : Parse α) : Prop := ∀ s, s.remaining < n → (x.run s).1 ≠ .error .depth

theorem roomy_pure (n : Nat) (a : α) : Roomy n (pure a : Parse α) := fun _ _ => nofun

theorem roomy_pull (n : Nat) : Roomy n pull := by
  intro s _
  rw [run_pull]
  split <;> nofun

theorem roomy_current (n : Nat) : Roomy n current := by
  intro s hs
  rw [run_current]
  split
  · nofun
  · exact roomy_pull n s hs

theorem ne_depth_bind {x : Parse α} {f : α → Parse β} {s : TokenStream}
    (h : (x.run s).1 ≠ .error .depth)
    (hf : ∀ a s', x.run s = (.ok a, s') → ((f a).run s').1 ≠ .error .depth) :
    ((x >>= f).run s).1 ≠ .error .depth := by
  rw [run_bind]
  rcases hx : x.run s with ⟨e | a, s'⟩
  · rw [hx] at h
    rintro ⟨⟩
    exact h rfl
  · exact hf a s' hx

theorem Roomy.bind {n : Nat} {x : Parse α} {f : α → Parse β} (h : Roomy n x)
    (hf : ∀ a, Roomy n (f a)) : Roomy n (x >>= f) := by
  refine fun s hs => ne_depth_bind (h s hs) fun a s' hx => hf a s' ?_
  have hle := run_remaining_le x s
  rw [hx] at hle
  exact Nat.lt_of_le_of_lt hle hs

theorem roomy_refuse (n : Nat) (x : Expected) : Roomy n (refuse x : Parse α) :=
  (roomy_current n).bind fun _ _ _ => nofun

theorem roomy_eat (n : Nat) (k : Kind) : Roomy n (eat k) := by
  refine (roomy_current n).bind fun t => ?_
  split
  · exact (roomy_pull n).bind fun _ => roomy_pure n _
  · exact roomy_refuse n _

theorem roomy_take {n : Nat} {k : Kind} {f : Token → Parse α} (hk : k ≠ .endOfInput)
    (hf : ∀ t, Roomy n (f t)) : Roomy (n + 1) (eat k >>= f) := by
  refine fun s hs => ne_depth_bind (roomy_eat _ k s hs) fun t s' he => hf t s' ?_
  have hlt := eat_remaining_lt he hk
  omega

theorem roomy_loop {n : Nat} {accepts : Kind → Option β} {body : α → Token → β → Parse α}
    (hb : ∀ a t b, Roomy n (body a t b)) (a : α) : Roomy n (loop accepts body a) := by
  intro s hs
  -- By induction on what is left to read: a round takes a token.
  induction hm : s.remaining using Nat.strongRecOn generalizing s a with
  | ind m ih =>
    rw [run_loop]
    refine ne_depth_bind (roomy_current n s hs) fun t s1 hc => ?_
    have hcur := run_remaining_le current s
    rw [hc] at hcur
    dsimp only at hcur
    rcases accepts t.kind with _ | b
    · nofun
    dsimp only
    split
    · nofun
    · next hk =>
      refine ne_depth_bind (roomy_eat n t.kind s1 (by omega)) fun u s2 he => ?_
      have hlt := eat_remaining_lt he hk
      refine ne_depth_bind (hb a t b s2 (by omega)) fun a' s3 hx => ?_
      have hle := run_remaining_le (body a t b) s2
      rw [hx] at hle
      dsimp only at hle
      exact ih s3.remaining (by omega) a' s3 (by omega) rfl

section Rules

variable {n : Nat} {x : Parse Tree}

theorem roomy_chain (operators : Kind → Option Operator) (h : Roomy n x) :
    Roomy n (chain operators x) :=
  h.bind fun first => roomy_loop (fun _ _ _ => h.bind fun _ => roomy_pure n _) first

theorem roomy_expressionOf (h : Roomy n x) : Roomy n (expressionOf x) :=
  roomy_chain _ (roomy_chain _ h)

theorem roomy_statementOf {a : Parse Tree} (h : Roomy n x) (h' : Roomy n a) :
    Roomy n (statementOf x a) := by
  refine (roomy_current n).bind fun t => ?_
  rcases t with ⟨l, p⟩
  cases l with
  | name => exact h
  | openBrace => exact h'
  | _ => exact roomy_pure n _

theorem roomy_assignmentOver (h : Roomy n x) : Roomy n (assignmentOver x) := by
  have hname : Roomy n eatName := by
    refine (roomy_current n).bind fun t => ?_
    rcases t with ⟨l, p⟩
    cases l with
    | name => exact (roomy_eat n _).bind fun _ => roomy_pure n _
    | _ => exact roomy_refuse n _
  refine hname.bind fun r => (roomy_eat n _).bind fun t => ?_
  exact (roomy_expressionOf h).bind fun _ => roomy_pure n _

end Rules

/-- A factor that calls for another one has taken a token. -/
theorem roomy_factor : ∀ d, Roomy d (factor d)
  | 0 => fun s hs => absurd hs (Nat.not_lt_zero _)
  | d + 1 => by
    have ih := roomy_factor d
    rw [factor_succ]
    refine (roomy_current _).bind fun t => ?_
    rcases t with ⟨l, p⟩
    cases l with
    | plus => exact roomy_take nofun fun _ => ih.bind fun _ => roomy_pure d _
    | minus => exact roomy_take nofun fun _ => ih.bind fun _ => roomy_pure d _
    | number => exact (roomy_eat _ _).bind fun _ => roomy_pure _ _
    | name => exact (roomy_eat _ _).bind fun _ => roomy_pure _ _
    | openParen =>
      refine roomy_take nofun fun _ => (roomy_expressionOf ih).bind fun _ => ?_
      exact (roomy_eat d _).bind fun _ => roomy_pure d _
    | _ => exact roomy_refuse _ _

/-- A block that calls for another one, or for a factor, has taken a token. -/
theorem roomy_block : ∀ d, Roomy d (block d)
  | 0 => fun s hs => absurd hs (Nat.not_lt_zero _)
  | d + 1 => by
    have hst := roomy_statementOf (roomy_assignmentOver (roomy_factor d)) (roomy_block d)
    rw [block_succ]
    refine roomy_take nofun fun t => hst.bind fun first => ?_
    refine (roomy_loop (fun _ _ _ => hst.bind fun _ => roomy_pure d _) [first]).bind fun cs => ?_
    exact (roomy_eat d _).bind fun _ => roomy_pure d _

/-! ### The parser without a limit -/

/-- The action under a limit above what is left to read. -/
def unlimited (x : Nat → Parse α) : Parse α := fun s => x (s.remaining + 1) s

/-- Limits curtail the higher ones, and are not reached where less is left to read. -/
structure Limits (x : Nat → Parse α) : Prop where
  curtails : ∀ {d d'}, d ≤ d' → Curtails (x d) (x d')
  roomy : ∀ d, Roomy d (x d)

theorem limits_factor : Limits factor := ⟨curtails_factor, roomy_factor⟩

theorem limits_block : Limits block := ⟨curtails_block, roomy_block⟩

section Limits

variable {x : Nat → Parse α}

theorem Limits.run_unlimited (h : Limits x) {s : TokenStream} {n : Nat} (hn : s.remaining < n) :
    (unlimited x).run s = (x n).run s :=
  (h.curtails hn).run_eq (h.roomy _ s (Nat.lt_succ_self _))

/-- **Any limit curtails what there is without one.** -/
theorem Limits.curtails_unlimited (h : Limits x) (d : Nat) : Curtails (x d) (unlimited x) := by
  intro s
  by_cases hd : s.remaining < d
  · exact .inr (h.run_unlimited hd).symm
  · exact h.curtails (by omega) s

/-- Without a limit, no limit is reached. -/
theorem Limits.unlimited_ne_depth (h : Limits x) (s : TokenStream) :
    ((unlimited x).run s).1 ≠ .error .depth :=
  h.roomy _ s (Nat.lt_succ_self _)

/-- What obeys a rule at every limit obeys it without one. -/
theorem Limits.unlimited_eq (h : Limits x) {y : Parse α} (hy : ∀ d, Curtails (x (d + 1)) y) :
    unlimited x = y :=
  ext_run fun s => (hy s.remaining).run_eq (h.unlimited_ne_depth s)

end Limits

/-- Factors and blocks that obey the rules of the grammar with nothing cut off. -/
structure Obeys (factor block : Parse Tree) : Prop where
  factor_eq : factor = factorOver factor
  block_eq : block = blockOver (statementOf (assignmentOver factor) block)

theorem obeys_unlimited : Obeys (unlimited factor) (unlimited block) where
  factor_eq := limits_factor.unlimited_eq fun d =>
    curtails_factorOver (limits_factor.curtails_unlimited d)
  block_eq := limits_block.unlimited_eq fun d =>
    curtails_blockOver (curtails_statementOf
      (curtails_assignmentOver (limits_factor.curtails_unlimited d))
      (limits_block.curtails_unlimited d))

section Obeys

variable {f b : Parse Tree}

theorem Obeys.curtails_factor (h : Obeys f b) : ∀ d, Curtails (factor d) f
  | 0 => curtails_stop f
  | d + 1 => by
    rw [factor_succ, h.factor_eq]
    exact curtails_factorOver (Obeys.curtails_factor h d)

theorem Obeys.curtails_block (h : Obeys f b) : ∀ d, Curtails (block d) b
  | 0 => curtails_stop b
  | d + 1 => by
    rw [block_succ, h.block_eq]
    exact curtails_blockOver (curtails_statementOf
      (curtails_assignmentOver (h.curtails_factor d)) (Obeys.curtails_block h d))

end Obeys

/-- **The rules without a limit have exactly one solution.** -/
theorem Obeys.unique {f b : Parse Tree} (h : Obeys f b) : f = unlimited factor ∧ b = unlimited block :=
  ⟨(limits_factor.unlimited_eq fun d => h.curtails_factor (d + 1)).symm,
    (limits_block.unlimited_eq fun d => h.curtails_block (d + 1)).symm⟩

/-! ### Whole sources -/

theorem curtails_toEndOfInput {x y : Parse α} (h : Curtails x y) :
    Curtails (toEndOfInput x) (toEndOfInput y) :=
  h.bind fun _ => curtails_refl _

/-- What an action does to a source text is what it would do without being cut off, or else the
source is nested too deeply. -/
theorem Curtails.onSource {x y : Parse α} (h : Curtails x y) (source : List Char)
    (file : Option String) :
    TooDeep (x.onSource source file) ∨ x.onSource source file = y.onSource source file := by
  rcases h (TokenStream.start source) with hs | hs
  · exact .inl (tooDeep_of_depth hs file)
  · right
    unfold Parse.onSource
    rw [hs]

end Parse

end BlockCalc
