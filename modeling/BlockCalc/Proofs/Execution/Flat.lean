import BlockCalc.Proofs.Enclosed
import BlockCalc.Proofs.Session.History
import Mathlib.Logic.Relation

/-! # Execution as a flat list

Blocks have no effect of their own, so executing a tree is the same as executing its steps one after
the other (`executeEach_steps`). What comes of this is said step by step (`Account`): some steps were
carried out, each an assignment of the value that its expression had in the environment just before it;
then the list was at its end, or came to a step that failed. Nothing but the assignments that were
carried out shows in the environment.

`Regrouped` are the changes that leave the steps of statements alone: braces put around statements or
taken away, and empty statements. They do not change a run.

* `account_executeEach`: what comes of a list of steps.
* `Regrouped.steps`: the steps of regrouped statements.
* `execution_flat`: execution of a tree. -/

namespace BlockCalc

namespace Tree

/-! ### Blocks add nothing -/

theorem executeEach_append (step : Tree → Progress → Outcome) (us : List Tree) :
    ∀ (ts : List Tree) (p : Progress),
      executeEach step (ts ++ us) p = match executeEach step ts p with
        | (.ok (), q) => executeEach step us q
        | (.error e, q) => (.error e, q)
  | [], p => rfl
  | t :: ts, p => by
    simp only [List.cons_append, executeEach]
    rcases step t p with ⟨e | _, q⟩
    · rfl
    · exact executeEach_append step us ts q

theorem executeEach_singleton (step : Tree → Progress → Outcome) (t : Tree) (p : Progress) :
    executeEach step [t] p = step t p := by
  simp only [executeEach]
  rcases step t p with ⟨e | _, q⟩ <;> rfl

theorem executeEach_stepsAll {n m : Nat}
    (h : ∀ t p, (execute n t p).1 ≠ .error .depth →
      executeEach (execute m) t.steps p = execute n t p) : ∀ (ts : List Tree) (p : Progress),
    (executeEach (execute n) ts p).1 ≠ .error .depth →
      executeEach (execute m) (stepsAll ts) p = executeEach (execute n) ts p
  | [], _, _ => rfl
  | t :: ts, p, hne => by
    rw [stepsAll, executeEach_append]
    simp only [executeEach] at hne ⊢
    rcases ht : execute n t p with ⟨e | _, q⟩
    · rw [ht] at hne
      have hstep := h t p (by rw [ht]; exact hne)
      rw [hstep, ht]
    · rw [ht] at hne
      have hstep := h t p (by simp [ht])
      rw [hstep, ht]
      exact executeEach_stepsAll h ts q hne

theorem value_ne_of_execute {n : Nat} {x : String} {q o : Int} {v : Tree} {p : Progress}
    (h : (execute (n + 1) (assign x q o v) p).1 ≠ .error .depth) :
    value p.environment n v ≠ .error .depth := by
  intro hv
  rw [execute, hv] at h
  exact h rfl

/-- **Executing a tree is executing its steps**, within the same limit or a larger one. -/
theorem executeEach_steps : ∀ {n m : Nat} (t : Tree) (p : Progress), n ≤ m →
    (execute n t p).1 ≠ .error .depth → executeEach (execute m) t.steps p = execute n t p
  | 0, _, _, _, _, hne => absurd rfl hne
  | _ + 1, 0, _, _, hle, _ => absurd hle (Nat.not_succ_le_zero _)
  -- What stands in a block has one level less, and by itself it may have more.
  | n + 1, m + 1, block _ cs, p, hle, hne =>
    executeEach_stepsAll (fun t p => executeEach_steps t p (Nat.le_of_succ_le hle)) cs p hne
  | n + 1, m + 1, assign x q o v, p, hle, hne => by
    have hv := value_of_le p.environment v (Nat.le_of_succ_le_succ hle) (value_ne_of_execute hne)
    rw [steps, executeEach_singleton, execute, execute, hv]
    all_goals simp
  | _ + 1, _ + 1, empty, _, _, _ => rfl
  | _ + 1, _ + 1, number _ _, _, _, _ => rfl
  | _ + 1, _ + 1, name _ _, _, _, _ => rfl
  | _ + 1, _ + 1, binary _ _ _ _, _, _, _ => rfl
  | _ + 1, _ + 1, unary _ _ _, _, _, _ => rfl

/-- Neither a block nor empty. -/
def isStep : Tree → Bool
  | block _ _ => false
  | empty => false
  | _ => true

mutual

theorem isStep_of_mem_steps : ∀ t : Tree, ∀ s ∈ t.steps, s.isStep = true
  | block _ cs => isStep_of_mem_stepsAll cs
  | empty => nofun
  | assign _ _ _ _ => List.forall_mem_singleton.mpr rfl
  | number _ _ => List.forall_mem_singleton.mpr rfl
  | name _ _ => List.forall_mem_singleton.mpr rfl
  | binary _ _ _ _ => List.forall_mem_singleton.mpr rfl
  | unary _ _ _ => List.forall_mem_singleton.mpr rfl

theorem isStep_of_mem_stepsAll : ∀ ts : List Tree, ∀ s ∈ stepsAll ts, s.isStep = true
  | [] => nofun
  | t :: ts =>
    List.forall_mem_append.mpr ⟨isStep_of_mem_steps t, isStep_of_mem_stepsAll ts⟩

end

/-! ### What comes of the steps -/

/-- The steps are assignments, and these are their names and values; each value was computed in the
environment just before. -/
inductive Carried (limit : Nat) : Environment → List Tree → List (String × Binary64) → Prop
  | nil {env} : Carried limit env [] []
  | cons {env x q p v y ss done} : evaluate limit v env = .ok y →
      Carried limit (env.assign x y) ss done →
      Carried limit env (.assign x q p v :: ss) ((x, y) :: done)

/-- A step that fails in an environment: the value of an assignment does, or it is no statement. -/
inductive Fails (limit : Nat) (env : Environment) : Tree → Cause → Prop
  | value {x q p v c} : evaluate limit v env = .error c → Fails limit env (.assign x q p v) c
  | shape {s} : s.shape ≠ .assign → Fails limit env s (.notStatement s.shape.label)

/-- How steps end: all of them were carried out, or all up to one that failed. -/
inductive Account (limit : Nat) (env : Environment) (ss : List Tree) :
    Except (Stop Cause) Unit → List (String × Binary64) → Prop
  | finished {done} : Carried limit env ss done → Account limit env ss (.ok ()) done
  | stopped {ran s later c done} : ss = ran ++ s :: later → Carried limit env ran done →
      Fails limit (env.assignAll done) s c → Account limit env ss (.error (.fault c)) done

theorem Carried.evaluated {limit : Nat} {env : Environment} {ss : List Tree}
    {done : List (String × Binary64)} (h : Carried limit env ss done) :
    ∀ {earlier : List (String × Binary64)} {x : String} {y : Binary64}
      {later : List (String × Binary64)}, done = earlier ++ (x, y) :: later →
      ∃ ran q o v rest, ss = ran ++ .assign x q o v :: rest ∧
        evaluate limit v (env.assignAll earlier) = .ok y := by
  induction h with
  | nil =>
    intro earlier x y later hdone
    simp at hdone
  | @cons env x q o v y ss done hv _ ih =>
    intro earlier x' y' later hdone
    rcases earlier with _ | ⟨a, earlier⟩
    · obtain ⟨hxy, -⟩ := List.cons.inj hdone
      cases hxy
      exact ⟨[], q, o, v, ss, rfl, hv⟩
    · obtain ⟨rfl, hrest⟩ := List.cons.inj hdone
      obtain ⟨ran, q', o', v', rest, hss, hv'⟩ := ih hrest
      exact ⟨.assign x q o v :: ran, q', o', v', rest, by rw [hss]; rfl, hv'⟩

theorem Account.evaluated {limit : Nat} {env : Environment} {ss : List Tree}
    {r : Except (Stop Cause) Unit} {done earlier later : List (String × Binary64)} {x : String}
    {y : Binary64} (h : Account limit env ss r done) (hdone : done = earlier ++ (x, y) :: later) :
    ∃ ran q o v rest, ss = ran ++ .assign x q o v :: rest ∧
      evaluate limit v (env.assignAll earlier) = .ok y := by
  cases h with
  | finished h => exact h.evaluated hdone
  | stopped hss h _ =>
    obtain ⟨ran, q, o, v, rest, hran, hv⟩ := h.evaluated hdone
    exact ⟨ran, q, o, v, _, by rw [hss, hran, List.append_assoc]; rfl, hv⟩

theorem Account.cons {limit : Nat} {env : Environment} {x : String} {q o : Int} {v : Tree}
    {y : Binary64} {ss : List Tree} {r : Except (Stop Cause) Unit}
    {done : List (String × Binary64)} (hv : evaluate limit v env = .ok y)
    (h : Account limit (env.assign x y) ss r done) :
    Account limit env (.assign x q o v :: ss) r ((x, y) :: done) := by
  cases h with
  | finished h => exact .finished (.cons hv h)
  | stopped hss h hf => exact .stopped (by rw [hss]; rfl) (.cons hv h) hf

theorem execute_step {limit : Nat} {s : Tree} {p : Progress} (hs : s.isStep = true)
    (hne : (execute limit s p).1 ≠ .error .depth) :
    (∃ x q o v y, s = .assign x q o v ∧ evaluate limit v p.environment = .ok y ∧
      execute limit s p = (.ok (), p.assign x y)) ∨
    ∃ c, Fails limit p.environment s c ∧ execute limit s p = (.error (.fault c), p) := by
  rcases limit with _ | n
  · exact absurd rfl hne
  · cases s with
    | block _ _ => cases hs
    | empty => cases hs
    | assign x q o v =>
      have hv := value_ne_of_execute hne
      have hmore := value_of_le p.environment v (Nat.le_succ n) hv
      rcases hy : value p.environment n v with (c | _) | y
      · refine .inr ⟨c, .value ?_, by rw [execute, hy]⟩
        rw [evaluate, hmore, hy]
        rfl
      · exact absurd hy hv
      · refine .inl ⟨x, q, o, v, y, rfl, ?_, by rw [execute, hy]⟩
        rw [evaluate, hmore, hy]
    | number _ _ => exact .inr ⟨_, .shape (by simp [shape]), rfl⟩
    | name _ _ => exact .inr ⟨_, .shape (by simp [shape]), rfl⟩
    | binary _ _ _ _ => exact .inr ⟨_, .shape (by simp [shape]), rfl⟩
    | unary _ _ _ => exact .inr ⟨_, .shape (by simp [shape]), rfl⟩

/-- **What comes of a list of steps.** -/
theorem account_executeEach {limit : Nat} : ∀ (ss : List Tree) (p : Progress),
    (∀ s ∈ ss, s.isStep = true) → (executeEach (execute limit) ss p).1 ≠ .error .depth →
      ∃ done, Account limit p.environment ss (executeEach (execute limit) ss p).1 done ∧
        (executeEach (execute limit) ss p).2 = p.assignAll done
  | [], p, _, _ => ⟨[], .finished .nil, (Progress.assignAll_nil p).symm⟩
  | s :: ss, p, hss, hne => by
    obtain ⟨hs, hrest⟩ := List.forall_mem_cons.mp hss
    have hstep : (execute limit s p).1 ≠ .error .depth := by
      intro hd
      simp only [executeEach] at hne
      rcases hx : execute limit s p with ⟨e | _, q⟩
      · rw [hx] at hne hd
        exact hne hd
      · rw [hx] at hd
        cases hd
    rcases execute_step hs hstep with ⟨x, q, o, v, y, rfl, hv, he⟩ | ⟨c, hf, he⟩
    · simp only [executeEach, he] at hne ⊢
      obtain ⟨done, haccount, hprogress⟩ := account_executeEach ss (p.assign x y) hrest hne
      refine ⟨(x, y) :: done, haccount.cons hv, ?_⟩
      have hcons := Progress.assignAll_append p [(x, y)] done
      exact hprogress.trans hcons.symm
    · simp only [executeEach, he]
      have hfirst : s :: ss = [] ++ s :: ss := rfl
      exact ⟨[], .stopped hfirst .nil hf, (Progress.assignAll_nil p).symm⟩

/-! ### Braces and empty statements -/

/-- Statements with the braces of a block taken away or an empty statement left out, at some place
among others or inside of blocks. -/
inductive Regrouped : List Tree → List Tree → Prop
  | braces {p cs} : Regrouped [.block p cs] cs
  | blank : Regrouped [.empty] []
  | among {cs ds} (before after : List Tree) : Regrouped cs ds →
      Regrouped (before ++ (cs ++ after)) (before ++ (ds ++ after))
  | inside {p cs ds} : Regrouped cs ds → Regrouped [.block p cs] [.block p ds]

theorem stepsAll_append : ∀ ts us : List Tree, stepsAll (ts ++ us) = stepsAll ts ++ stepsAll us
  | [], _ => rfl
  | t :: ts, us => by
    rw [List.cons_append, stepsAll, stepsAll, stepsAll_append ts us, List.append_assoc]

theorem stepsAll_singleton (t : Tree) : stepsAll [t] = t.steps := by
  rw [stepsAll, stepsAll, List.append_nil]

/-- **Regrouped statements have the same steps.** -/
theorem Regrouped.steps {cs ds : List Tree} (h : Regrouped cs ds) : stepsAll cs = stepsAll ds := by
  induction h with
  | @braces p cs =>
    rw [stepsAll_singleton]
    rfl
  | blank => rfl
  | among before after _ ih => simp only [stepsAll_append, ih]
  | inside _ ih =>
    rw [stepsAll_singleton, stepsAll_singleton]
    exact ih

theorem steps_of_regrouped {t u : Tree} (h : Relation.EqvGen Regrouped [t] [u]) :
    t.steps = u.steps := by
  have hgen := h.mono fun _ _ => Regrouped.steps
  have hsteps := (eq_equivalence.comap stepsAll).eqvGen_iff.mp hgen
  rwa [Function.onFun, stepsAll_singleton, stepsAll_singleton] at hsteps

end Tree

/-! ### Execution of a tree -/

open BlockCalc.Tree

/-- **Blocks are transparent and failure is partial.** A tree is executed as its steps are, one after
the other and up to the first that fails. The environment shows the assignments before that step and
nothing else: names that were there keep their places, the others come behind them in the order of
their first assignment and none twice, and each name has the value of its last assignment, computed in
the environment just before it. Another tree, with braces and empty statements at other places, is
executed in the same way. -/
theorem execution_flat {limit : Nat} {t : Tree} {env : Environment}
    (h : (t.execute limit (Progress.start env)).1 ≠ .error .depth) :
    (∀ m, limit ≤ m → t.execute limit (Progress.start env) =
      executeEach (execute m) t.steps (Progress.start env)) ∧
    (∃ done, Account limit env t.steps (t.execute limit (Progress.start env)).1 done ∧
      (t.execute limit (Progress.start env)).2 = ⟨env.assignAll done, done⟩ ∧
      env.Updated done (env.assignAll done) ∧
      ∀ earlier x y later, done = earlier ++ (x, y) :: later →
        ∃ ran q o v rest, t.steps = ran ++ .assign x q o v :: rest ∧
          evaluate limit v (env.assignAll earlier) = .ok y) ∧
    ∀ u m, Relation.EqvGen Regrouped [t] [u] →
      (u.execute m (Progress.start env)).1 ≠ .error .depth →
        u.execute m (Progress.start env) = t.execute limit (Progress.start env) := by
  refine ⟨fun m hle => (executeEach_steps t _ hle h).symm, ?_, fun u m hu hm => ?_⟩
  · have hflat := executeEach_steps t (Progress.start env) (Nat.le_refl limit) h
    rw [← hflat] at h ⊢
    obtain ⟨done, haccount, hprogress⟩ := account_executeEach t.steps (Progress.start env)
      (isStep_of_mem_steps t) h
    exact ⟨done, haccount, hprogress, env.updated_assignAll done,
      fun earlier x y later hdone => haccount.evaluated hdone⟩
  · have hsteps := steps_of_regrouped hu
    have ht := executeEach_steps t (Progress.start env) (Nat.le_max_left limit m) h
    have hu := executeEach_steps u (Progress.start env) (Nat.le_max_right limit m) hm
    rw [← ht, ← hu, hsteps]

/-- Three assignments, of which the second keeps the place of its name and the third fails: with and
without braces around the second. -/
theorem execution_flat_failure : ∃ a b c : Tree,
    execute depthLimit (.block 0 [a, .block 4 [.empty, b], c])
        (Progress.start ⟨[("x", .nan), ("z", .nan)]⟩) =
      (.error (.fault (.unbound "w")), ⟨⟨[("x", .infinity true), ("z", .nan)]⟩,
        [("x", .infinity false), ("x", .infinity true)]⟩) ∧
    execute depthLimit (.block 0 [a, b, c]) (Progress.start ⟨[("x", .nan), ("z", .nan)]⟩) =
      (.error (.fault (.unbound "w")), ⟨⟨[("x", .infinity true), ("z", .nan)]⟩,
        [("x", .infinity false), ("x", .infinity true)]⟩) := by
  have hgroup (a b c : Tree) : Relation.EqvGen Regrouped [.block 0 [a, .block 4 [.empty, b], c]]
      [.block 0 [a, b, c]] :=
    .trans _ [.block 0 [a, .empty, b, c]] _ (.rel _ _ (.inside (.among [a] [c] .braces)))
      (.rel _ _ (.inside (.among [a] [b, c] .blank)))
  have hrun : execute depthLimit (.block 0 [.assign "x" 1 2 (.number (.infinity false) 3),
        .block 4 [.empty, .assign "x" 5 6 (.unary .minus 7 (.name "x" 8))],
        .assign "y" 9 10 (.name "w" 11)]) (Progress.start ⟨[("x", .nan), ("z", .nan)]⟩) =
      (.error (.fault (.unbound "w")), ⟨⟨[("x", .infinity true), ("z", .nan)]⟩,
        [("x", .infinity false), ("x", .infinity true)]⟩) := by decide +kernel
  refine ⟨_, _, _, hrun, ?_⟩
  have hflat := (execution_flat (by rw [hrun]; nofun)).2.2 _ depthLimit (hgroup _ _ _)
    (by decide +kernel)
  exact hflat.trans hrun

end BlockCalc
