import BlockCalc.Proofs.Enclosed
import BlockCalc.Proofs.Parsing.Nested
import BlockCalc.Proofs.Tree.Equality

/-! # What depth limits do

The limits on nesting stand between a program and the stack of the machine. They are meant to put a
fault of their own in the place of an outcome, and never to change one. `Guarded` says this of an
operation with a limit: its outcome is that fault or what there would be without a limit, raising a
limit that was not reached changes nothing, and a limit that is high enough is never reached.

Without a limit, evaluation and execution are recursions over the tree (`Tree.meaning`, `Tree.effect`),
and parsing is the only solution of the rules of the grammar (`Parse.unlimited`).

* `guarded_parseProgram`, `guarded_parseExpression`: what is enough depends on the nesting of the
  tokens and not on how many there are.
* `guarded_evaluate`, `guarded_run`: the height of the tree is enough.
* `depth_limits_guard`: all of them together. -/

namespace BlockCalc

/-- An operation with a depth limit, which has a `deep` outcome or what there is without a limit. -/
structure Guarded {β : Type} (deep : β → Prop) (operation : Nat → β) (free : β) (enough : Nat) :
    Prop where
  /-- The limit replaces the outcome or leaves it as it is. -/
  replaced : ∀ limit, deep (operation limit) ∨ operation limit = free
  /-- A limit that was not reached can be raised. -/
  raised : ∀ limit limit', limit ≤ limit' → ¬ deep (operation limit) →
    operation limit' = operation limit
  /-- A high limit is not reached. -/
  reached : ∀ limit, enough ≤ limit → ¬ deep (operation limit)

/-! ### Parsing -/

section Parsing

open Parse

/-- The tree of a program, however deeply it is nested. -/
def unlimitedProgram (source : List Char) (file : Option String) : Except Fault Tree :=
  (toEndOfInput (unlimited block)).onSource source file

/-- The tree of an expression, however deeply it is nested. -/
def unlimitedExpression (source : List Char) : Except Fault Tree :=
  (toEndOfInput (expressionOf (unlimited factor))).onSource source none

theorem guarded_onSource {x : Nat → Parse Tree} {free : Parse Tree} {source : List Char}
    {file : Option String} {enough : Nat} (hfree : ∀ limit, Curtails (x limit) free)
    (hraise : ∀ {limit limit'}, limit ≤ limit' → Curtails (x limit) (x limit'))
    (henough : ∀ limit, enough ≤ limit →
      ¬ TooDeep ((x limit).onSource source file)) :
    Guarded TooDeep (fun limit => (x limit).onSource source file)
      (free.onSource source file) enough where
  replaced limit := (hfree limit).onSource source file
  raised _ _ hle h := (((hraise hle).onSource source file).resolve_left h).symm
  reached := henough

theorem guarded_parseProgram (source : List Char) (file : Option String) :
    Guarded TooDeep (fun limit => parseProgram limit source file)
      (unlimitedProgram source file) (nesting source + 1) :=
  guarded_onSource (fun limit => curtails_toEndOfInput (limits_block.curtails_unlimited limit))
    (fun hle => curtails_toEndOfInput (curtails_block hle))
    fun _ hle => parseProgram_ne_deep hle file

theorem guarded_parseExpression (source : List Char) :
    Guarded TooDeep (fun limit => parseExpression limit source)
      (unlimitedExpression source) (nesting source + 1) :=
  guarded_onSource
    (fun limit =>
      curtails_toEndOfInput (curtails_expressionOf (limits_factor.curtails_unlimited limit)))
    (fun hle => curtails_toEndOfInput (curtails_expressionOf (curtails_factor hle)))
    fun _ hle => parseExpression_ne_deep hle

end Parsing

/-! ### Evaluation -/

theorem Tree.meaning_ne_deep (env : Environment) (t : Tree) :
    t.meaning env ≠ .error .evaluationTooDeep := by
  induction t using Tree.children_induction with
  | h t ih =>
    cases t with
    | name s _ =>
      rw [meaning, Environment.lookup]
      split <;> rintro ⟨⟩
    | binary op _ l r =>
      rw [meaning_binary]
      rcases hl : l.meaning env with c | x
      · exact fun h => ih l (by simp [children]) (hl.trans h)
      · rcases hr : r.meaning env with c | y
        · exact fun h => ih r (by simp [children]) (hr.trans h)
        · rintro ⟨⟩
    | unary s _ u =>
      rw [meaning_unary]
      rcases hu : u.meaning env with c | x
      · exact fun h => ih u (by simp [children]) (hu.trans h)
      · rintro ⟨⟩
    | _ => rintro ⟨⟩

theorem evaluate_eq_deep_iff {limit : Nat} {t : Tree} {env : Environment} :
    evaluate limit t env = .error .evaluationTooDeep ↔ t.value env limit = .error .depth := by
  unfold evaluate
  rcases t.value_eq env limit with h | h
  · rw [h]
    exact ⟨fun _ => rfl, fun _ => rfl⟩
  · rw [h]
    rcases ht : t.meaning env with c | x
    · exact ⟨fun hc => absurd (ht.trans hc) (t.meaning_ne_deep env), nofun⟩
    · exact ⟨nofun, nofun⟩

theorem guarded_evaluate (t : Tree) (env : Environment) :
    Guarded (· = .error .evaluationTooDeep) (fun limit => evaluate limit t env) (t.meaning env)
      t.height where
  replaced limit := by
    rcases evaluate_cases limit t env with h | ⟨-, h⟩
    · exact .inr h
    · exact .inl h
  raised _ _ hle h := evaluate_of_le hle h
  reached _ hle h := t.value_ne_depth env hle (evaluate_eq_deep_iff.mp h)

/-! ### Execution -/

namespace Tree

mutual

/-- Executes a statement, however high it is. -/
def effect : Tree → Progress → Except Cause Unit × Progress
  | block _ cs, p => effectAll cs p
  | assign x _ _ v, p =>
    match v.meaning p.environment with
    | .ok y => (.ok (), p.assign x y)
    | .error c => (.error c, p)
  | empty, p => (.ok (), p)
  | t, p => (.error (.notStatement t.shape.label), p)

/-- Executes statements one after the other, up to the first that fails. -/
def effectAll : List Tree → Progress → Except Cause Unit × Progress
  | [], p => (.ok (), p)
  | t :: ts, p =>
    match effect t p with
    | (.ok (), q) => effectAll ts q
    | (.error c, q) => (.error c, q)

end

theorem effectAll_eq {ts : List Tree}
    (h : ∀ t ∈ ts, ∀ p, t.effect p = performAll t.steps p) (p : Progress) :
    effectAll ts p = performAll (stepsAll ts) p := by
  induction ts generalizing p with
  | nil => rfl
  | cons t ts ih =>
    rw [effectAll, stepsAll, performAll_append, h t List.mem_cons_self]
    rcases performAll t.steps p with ⟨c | _, q⟩
    · rfl
    · exact ih (fun u hu => h u (List.mem_cons_of_mem _ hu)) q

theorem effect_eq (t : Tree) (p : Progress) : t.effect p = performAll t.steps p := by
  induction t using children_induction generalizing p with
  | h t ih =>
    cases t with
    | block _ cs =>
      rw [effect, steps]
      exact effectAll_eq ih p
    | assign x _ _ v =>
      rw [steps, performAll_singleton]
      · rfl
      · rintro _ _ ⟨⟩
      · rintro ⟨⟩
    | _ => rfl

theorem perform_ne_deep (t : Tree) (p : Progress) :
    (t.perform p).1 ≠ .error .evaluationTooDeep := by
  cases t with
  | assign x _ _ v =>
    rw [perform]
    rcases hv : v.meaning p.environment with c | y
    · rintro ⟨⟩
      exact v.meaning_ne_deep p.environment hv
    · rintro ⟨⟩
  | _ => rintro ⟨⟩

theorem performAll_ne_deep (ts : List Tree) (p : Progress) :
    (performAll ts p).1 ≠ .error .evaluationTooDeep := by
  induction ts generalizing p with
  | nil => rintro ⟨⟩
  | cons t ts ih =>
    have ht := t.perform_ne_deep p
    rw [performAll]
    rcases hq : t.perform p with ⟨c | _, q⟩
    · rw [hq] at ht
      exact ht
    · exact ih q

/-- Within a depth limit, execution does the same or the limit is reached. -/
theorem execute_cases (n : Nat) (t : Tree) (p : Progress) :
    (execute n t p).1 = .error .depth ∨ execute n t p = unlimited (t.effect p) := by
  rw [effect_eq]
  exact execute_eq n t p

theorem executeEach_of_le {n m : Nat} (h : ∀ t p, (execute n t p).1 ≠ .error .depth →
      execute m t p = execute n t p) (ts : List Tree) (p : Progress)
    (hne : (executeEach (execute n) ts p).1 ≠ .error .depth) :
    executeEach (execute m) ts p = executeEach (execute n) ts p := by
  induction ts generalizing p with
  | nil => rfl
  | cons t ts ih =>
    rw [executeEach] at hne
    rw [executeEach, executeEach]
    rcases hq : execute n t p with ⟨e | _, q⟩
    · rw [hq] at hne
      rw [h t p (by rw [hq]; exact hne), hq]
    · rw [hq] at hne
      rw [h t p (by rw [hq]; rintro ⟨⟩), hq]
      exact ih q hne

theorem execute_of_le {n m : Nat} (t : Tree) (p : Progress) (hle : n ≤ m)
    (hne : (execute n t p).1 ≠ .error .depth) : execute m t p = execute n t p := by
  induction n generalizing m t p with
  | zero => exact absurd rfl hne
  | succ n ih =>
    obtain ⟨m, rfl⟩ := Nat.exists_eq_succ_of_ne_zero (Nat.ne_zero_of_lt hle)
    have hle' : n ≤ m := Nat.le_of_succ_le_succ hle
    cases t with
    | block _ cs => exact executeEach_of_le (fun t q => ih t q hle') cs p hne
    | assign x _ _ v =>
      simp only [execute] at hne ⊢
      have hv : value p.environment n v ≠ .error .depth := fun hv => hne (by rw [hv])
      rw [value_of_le p.environment v hle' hv]
    | _ => rfl

theorem executeEach_ne_depth {n : Nat}
    (h : ∀ (t : Tree) p, t.height ≤ n → (execute n t p).1 ≠ .error .depth)
    (ts : List Tree) (p : Progress) (hle : heights ts ≤ n) :
    (executeEach (execute n) ts p).1 ≠ .error .depth := by
  induction ts generalizing p with
  | nil => rintro ⟨⟩
  | cons t ts ih =>
    rw [heights] at hle
    have ht := h t p (by omega)
    rw [executeEach]
    rcases hq : execute n t p with ⟨e | _, q⟩
    · rw [hq] at ht
      exact ht
    · exact ih q (by omega)

theorem execute_ne_depth {n : Nat} (t : Tree) (p : Progress) (hle : t.height ≤ n) :
    (execute n t p).1 ≠ .error .depth := by
  induction n generalizing t p with
  | zero =>
    have : 0 < t.height := by cases t <;> simp [height]
    omega
  | succ n ih =>
    cases t with
    | block _ cs =>
      rw [height] at hle
      exact executeEach_ne_depth ih cs p (by omega)
    | assign x _ _ v =>
      rw [height] at hle
      have hv := @value_ne_depth p.environment n v (by omega)
      rw [execute]
      rcases hy : value p.environment n v with e | y
      · rintro ⟨⟩
        exact hv hy
      · rintro ⟨⟩
    | _ => rintro ⟨⟩

end Tree

namespace Session

/-- Runs a program, however high its tree is, and keeps its environment if it succeeds. -/
def runUnlimited (s : Session) (t : Tree) : Except Cause (Option Binary64) × Session :=
  match t.effect (Progress.start .empty) with
  | (.ok (), p) =>
    (.ok (p.environment.get? s.resultVariable), { s with environment := p.environment })
  | (.error c, _) => (.error c, s)

variable {limit : Nat} {s : Session} {t : Tree}

theorem run_of_depth (h : (t.execute limit (Progress.start .empty)).1 = .error .depth) :
    s.run limit t = (.error .evaluationTooDeep, s) := by
  unfold run runProgram
  rcases hx : t.execute limit (Progress.start .empty) with ⟨e | _, p⟩
  all_goals
    rw [hx] at h
    cases h
  rfl

theorem run_of_unlimited (h : t.execute limit (Progress.start .empty) =
    Tree.unlimited (t.effect (Progress.start .empty))) : s.run limit t = s.runUnlimited t := by
  unfold run runProgram runUnlimited
  rw [h]
  rcases t.effect (Progress.start .empty) with ⟨c | _, p⟩ <;> rfl

theorem runUnlimited_ne_deep : s.runUnlimited t ≠ (.error .evaluationTooDeep, s) := by
  have h := Tree.performAll_ne_deep t.steps (Progress.start .empty)
  rw [← t.effect_eq] at h
  unfold runUnlimited
  rcases hx : t.effect (Progress.start .empty) with ⟨c | _, p⟩
  · rintro ⟨⟩
    exact h (by rw [hx])
  · nofun

theorem run_eq_deep_iff : s.run limit t = (.error .evaluationTooDeep, s) ↔
    (t.execute limit (Progress.start .empty)).1 = .error .depth := by
  refine ⟨fun h => ?_, run_of_depth⟩
  refine (t.execute_cases limit (Progress.start .empty)).resolve_right fun hx => ?_
  exact runUnlimited_ne_deep ((run_of_unlimited hx).symm.trans h)

end Session

/-- A run that comes to the limit leaves the session as it was. -/
theorem guarded_run (s : Session) (t : Tree) :
    Guarded (· = (.error .evaluationTooDeep, s)) (fun limit => s.run limit t) (s.runUnlimited t)
      t.height where
  replaced limit := (t.execute_cases limit _).imp Session.run_of_depth Session.run_of_unlimited
  raised limit limit' hle h := by
    have hx := t.execute_of_le _ hle fun hd => h (Session.run_of_depth hd)
    unfold Session.run runProgram
    rw [hx]
  reached _ hle h := t.execute_ne_depth _ hle (Session.run_eq_deep_iff.mp h)

/-! ### All limits -/

open Parse in
/-- **Depth limits only ever replace an outcome.** Parsing, evaluating and running under a limit give
the fault of the limit, or what they give without one; a limit that is not reached can be raised; and
the nesting of the tokens, or the height of the tree, says which limits are not reached. Parsing
without a limit is the only way to obey the rules of the grammar with nothing cut off. Chains take no
depth, however long they are. -/
theorem depth_limits_guard (source : List Char) (file : Option String) (t : Tree)
    (env : Environment) (s : Session) :
    Guarded TooDeep (fun limit => parseProgram limit source file)
      (unlimitedProgram source file) (nesting source + 1) ∧
    Guarded TooDeep (fun limit => parseExpression limit source)
      (unlimitedExpression source) (nesting source + 1) ∧
    Obeys (unlimited factor) (unlimited block) ∧
    (∀ f b, Obeys f b → f = unlimited factor ∧ b = unlimited block) ∧
    (∀ limit first links, 0 < limit → Numeral first →
      (∀ l ∈ links, Numeral l.2) → ∃ u, parseExpression limit (flatText first links) = .ok u) ∧
    Guarded (· = .error .evaluationTooDeep) (fun limit => evaluate limit t env) (t.meaning env)
      t.height ∧
    Guarded (· = (.error .evaluationTooDeep, s)) (fun limit => s.run limit t) (s.runUnlimited t)
      t.height :=
  ⟨guarded_parseProgram source file, guarded_parseExpression source, obeys_unlimited,
    fun _ _ h => h.unique, fun _ _ _ hl hf h => exists_parse_flatText hl hf h,
    guarded_evaluate t env, guarded_run s t⟩

open Parse in
/-- Three things are open around the number, so four levels are needed and are enough. A chain needs
one, and a tree its height. -/
theorem depth_limits_guard_nested :
    (parseProgram 3 "{x=-(1)}".toList none).map (fun _ => ()) =
      .error ⟨.nestingTooDeep, some ⟨1, 6, some "{x=-(1)}", none⟩⟩ ∧
    parseProgram 4 "{x=-(1)}".toList none = unlimitedProgram "{x=-(1)}".toList none ∧
    (∃ u, parseExpression 1 "1+20*.5".toList = .ok u) ∧
    evaluate 1 (.unary .minus 0 (.number .nan 1)) .empty = .error .evaluationTooDeep ∧
    evaluate 2 (.unary .minus 0 (.number .nan 1)) .empty =
      Tree.meaning .empty (.unary .minus 0 (.number .nan 1)) := by
  obtain ⟨hp, -, -, -, hc, he, -⟩ := depth_limits_guard "{x=-(1)}".toList none
    (.unary .minus 0 (.number .nan 1)) .empty (Session.start "result")
  have hn : nesting "{x=-(1)}".toList + 1 ≤ 4 := by decide +kernel
  have hlinks : ∀ l ∈ [(Operator.add, "20".toList), (.mul, ".5".toList)], Numeral l.2 := by
    intro l hl
    rcases List.mem_pair.mp hl with rfl | rfl
    · exact ⟨by decide, List.all_eq_true.mp (by decide), by decide⟩
    · exact ⟨by decide, List.all_eq_true.mp (by decide), by decide⟩
  refine ⟨by decide +kernel, ?_, ?_, by decide +kernel, ?_⟩
  · exact (hp.replaced 4).resolve_left (hp.reached 4 hn)
  · exact hc 1 ['1'] _ (by decide) ⟨by decide, List.all_eq_true.mp (by decide), by decide⟩ hlinks
  · exact (he.replaced 2).resolve_left (he.reached 2 (by decide))

end BlockCalc
