import BlockCalc.Proofs.Environment
import BlockCalc.Session
import Mathlib.Data.List.Induction
import Mathlib.Tactic.Common

/-! # The history of a session

A session is asked for one thing after the other: to interpret a text, to run a tree, to execute a
statement in the environment it has, or to use another result variable. It goes on after failures.
What it then knows is read off what it was asked for: the environment of the latest program that
succeeded, which started in an empty one, and on top of it whatever was assigned by the statements
executed since, also by those that failed.

Programs are all or nothing and statements are not. `Request.outcome?` is what becomes of a program,
which starts in an empty environment, and `Tree.completed` lists the assignments that statements
complete in an environment before the first of them fails. Neither knows of a session.

* `Tree.follows_execute`: execution completes assignments up to the first statement that fails.
* `Session.serve_program`, `Session.environment_serve`: one request.
* `session_history`: all requests. -/

namespace BlockCalc

/-! ### Completed assignments -/

namespace Progress

/-- Further assignments are complete. -/
def assignAll (p : Progress) (xs : List (String × Binary64)) : Progress :=
  ⟨p.environment.assignAll xs, p.journal ++ xs⟩

@[simp]
theorem assignAll_nil (p : Progress) : p.assignAll [] = p := by
  rw [assignAll, List.append_nil]
  rfl

@[simp]
theorem assignAll_append (p : Progress) (xs ys : List (String × Binary64)) :
    p.assignAll (xs ++ ys) = (p.assignAll xs).assignAll ys := by
  simp [assignAll]

end Progress

namespace Tree

/-- The statements of a tree that are neither blocks nor empty, in the order of execution, each with
the depth that is left for it. What lies at the limit stands in the list whatever it is. -/
def statements : Nat → Tree → List (Nat × Tree)
  | 0, t => [(0, t)]
  | n + 1, block _ cs => cs.flatMap (statements n)
  | _ + 1, empty => []
  | n + 1, t => [(n + 1, t)]

/-- The assignment that such a statement completes in an environment, if it does not fail. -/
def assignment? (env : Environment) : Nat × Tree → Option (String × Binary64)
  | (n + 1, assign x _ _ v) =>
    match value env n v with
    | .ok y => some (x, y)
    | .error _ => none
  | _ => none

/-- The assignments that such statements complete one after the other, up to the first that fails. -/
def completed (env : Environment) : List (Nat × Tree) → List (String × Binary64)
  | [] => []
  | t :: ts =>
    match assignment? env t with
    | some (x, y) => (x, y) :: completed (env.assign x y) ts
    | none => []

/-- All of the statements are completed. -/
def Completes (env : Environment) (ts : List (Nat × Tree)) : Prop :=
  (completed env ts).length = ts.length

theorem completed_append {us : List (Nat × Tree)} : ∀ {ts : List (Nat × Tree)} {env : Environment},
    Completes env ts → completed env (ts ++ us) =
      completed env ts ++ completed (env.assignAll (completed env ts)) us
  | [], _, _ => rfl
  | t :: ts, env, h => by
    unfold Completes at h
    rw [List.cons_append, completed, completed]
    rcases hx : assignment? env t with _ | ⟨x, y⟩
    · rw [completed, hx] at h
      cases h
    · rw [completed, hx] at h
      have hts : Completes (env.assign x y) ts := Nat.succ.inj h
      exact congrArg ((x, y) :: ·) (completed_append hts)

theorem completed_append_of_not {us : List (Nat × Tree)} :
    ∀ {ts : List (Nat × Tree)} {env : Environment}, ¬ Completes env ts →
      completed env (ts ++ us) = completed env ts
  | [], _, h => absurd rfl h
  | t :: ts, env, h => by
    unfold Completes at h
    rw [List.cons_append, completed, completed]
    rcases hx : assignment? env t with _ | ⟨x, y⟩
    · rfl
    · rw [completed, hx] at h
      have hts : ¬ Completes (env.assign x y) ts := fun hts => h (congrArg Nat.succ hts)
      exact congrArg ((x, y) :: ·) (completed_append_of_not hts)

theorem length_completed_le : ∀ (ts : List (Nat × Tree)) (env : Environment),
    (completed env ts).length ≤ ts.length
  | [], _ => Nat.le_refl _
  | t :: ts, env => by
    rw [completed]
    rcases assignment? env t with _ | ⟨x, y⟩
    · exact Nat.zero_le _
    · exact Nat.succ_le_succ (length_completed_le ts _)

theorem completes_append {ts us : List (Nat × Tree)} {env : Environment} :
    Completes env (ts ++ us) ↔
      Completes env ts ∧ Completes (env.assignAll (completed env ts)) us := by
  by_cases h : Completes env ts
  · have h' := h
    unfold Completes at h' ⊢
    rw [completed_append h, List.length_append, List.length_append]
    omega
  · have hle := length_completed_le ts env
    simp only [h, false_and, iff_false]
    unfold Completes at h ⊢
    rw [completed_append_of_not h, List.length_append]
    omega

/-- Execution that completes what it can of a list of statements. -/
def Follows (ts : List (Nat × Tree)) (p : Progress) (o : Outcome) : Prop :=
  o.2 = p.assignAll (completed p.environment ts) ∧ (o.1 = .ok () ↔ Completes p.environment ts)

theorem follows_nil (p : Progress) : Follows [] p (.ok (), p) :=
  ⟨p.assignAll_nil.symm, by simp [Completes, completed]⟩

theorem Follows.append {ts us : List (Nat × Tree)} {p q : Progress} {o : Outcome}
    (h : Follows ts p (.ok (), q)) (h' : Follows us q o) : Follows (ts ++ us) p o := by
  obtain ⟨rfl, hok⟩ := h
  have hts : Completes p.environment ts := hok.mp rfl
  refine ⟨?_, ?_⟩
  · rw [completed_append hts, Progress.assignAll_append]
    exact h'.1
  · rw [completes_append, and_iff_right hts]
    exact h'.2

theorem Follows.append_error {ts us : List (Nat × Tree)} {p q : Progress} {e : Stop Cause}
    (h : Follows ts p (.error e, q)) : Follows (ts ++ us) p (.error e, q) := by
  have hts : ¬ Completes p.environment ts := fun hc => nomatch h.2.mpr hc
  refine ⟨?_, ?_⟩
  · rw [completed_append_of_not hts]
    exact h.1
  · simp [completes_append, hts]

theorem follows_executeEach {n : Nat} (h : ∀ t p, Follows (statements n t) p (execute n t p)) :
    ∀ (ts : List Tree) (p : Progress),
      Follows (ts.flatMap (statements n)) p (executeEach (execute n) ts p)
  | [], p => follows_nil p
  | t :: ts, p => by
    have ht := h t p
    rw [executeEach, List.flatMap_cons]
    rcases hx : execute n t p with ⟨e | _, q⟩
    · rw [hx] at ht
      exact ht.append_error
    · rw [hx] at ht
      exact ht.append (follows_executeEach h ts q)

theorem follows_error {u : Nat × Tree} {p : Progress} (h : assignment? p.environment u = none)
    (e : Stop Cause) : Follows [u] p (.error e, p) := by
  simp [Follows, Completes, completed, h]

/-- **Execution completes assignments up to the first statement that fails**, and does nothing else. -/
theorem follows_execute : ∀ (n : Nat) (t : Tree) (p : Progress),
    Follows (statements n t) p (execute n t p)
  | 0, _, _ => follows_error rfl _
  | n + 1, block _ cs, p => follows_executeEach (follows_execute n) cs p
  | n + 1, assign x i j v, p => by
    rw [execute, statements]
    rcases hv : value p.environment n v with e | y
    · exact follows_error (by rw [assignment?, hv]) e
    · have hy : assignment? p.environment (n + 1, assign x i j v) = some (x, y) := by
        rw [assignment?, hv]
      have hc : completed p.environment [(n + 1, assign x i j v)] = [(x, y)] := by
        rw [completed, hy]
        rfl
      refine ⟨?_, ?_⟩
      · rw [hc]
        rfl
      · simp [Completes, hc]
    all_goals nofun
  | n + 1, empty, p => follows_nil p
  | n + 1, number _ _, p => follows_error rfl _
  | n + 1, name _ _, p => follows_error rfl _
  | n + 1, binary _ _ _ _, p => follows_error rfl _
  | n + 1, unary _ _ _, p => follows_error rfl _

end Tree

/-! ### Requests -/

namespace Session

/-- What a session can be asked for. -/
inductive Request
  | interpret (source : List Char) (file : Option String)
  | run (tree : Tree)
  | execute (tree : Tree)
  | choose (resultVariable : String)

/-- What a session answers: the outcome of a program, the outcome of a statement, or nothing. -/
inductive Reply
  | program (outcome : Except Fault (Option Binary64))
  | statement (outcome : Except (Stop Cause) Unit)
  | none

/-- Does what is asked for. -/
def serve (limit : Nat) (s : Session) : Request → Reply × Session
  | .interpret source file =>
    (.program (s.interpret limit source file).1, (s.interpret limit source file).2)
  | .run t => (.program ((s.run limit t).1.mapError Fault.of), (s.run limit t).2)
  | .execute t => (.statement (s.execute limit t).1, (s.execute limit t).2)
  | .choose r => (.none, s.choose r)

/-- The session after requests, each of which may have failed. -/
def after (limit : Nat) (s : Session) (qs : List Request) : Session :=
  qs.foldl (fun s q => (s.serve limit q).2) s

namespace Request

/-- The environment in which a tree ends that is executed in an empty one, or the fault of it. -/
def fresh (limit : Nat) (t : Tree) : Except Fault Environment :=
  match t.execute limit (Progress.start .empty) with
  | (.ok (), p) => .ok p.environment
  | (.error e, _) => .error (Fault.of e.toCause)

/-- What becomes of a program, if this is one: the environment that it leaves, or its fault. -/
def outcome? (limit : Nat) : Request → Option (Except Fault Environment)
  | interpret source file =>
    match parseProgram limit source file with
    | .ok t => some (fresh limit t)
    | .error f => some (.error f)
  | run t => some (fresh limit t)
  | execute _ => none
  | choose _ => none

/-- A program that succeeds and leaves this environment. -/
def Leaves (limit : Nat) (q : Request) (env : Environment) : Prop := q.outcome? limit = some (.ok env)

/-- The result variable that is asked for, if one is. -/
def choice? : Request → Option String
  | choose r => some r
  | _ => none

/-- The assignments that a statement completes in an environment, if this is a statement. -/
def assigned (limit : Nat) (env : Environment) : Request → List (String × Binary64)
  | execute t => Tree.completed env (t.statements limit)
  | _ => []

end Request

/-- An environment with all that statements assign in it, one after the other. -/
def effects (limit : Nat) (env : Environment) (qs : List Request) : Environment :=
  qs.foldl (fun env q => env.assignAll (q.assigned limit env)) env

/-- The environment of the latest program that succeeded, or the empty one if there was none, and what
was asked for since. -/
inductive Latest (limit : Nat) : List Request → Environment → List Request → Prop
  | never {qs} : (∀ q ∈ qs, ∀ env, ¬ q.Leaves limit env) → Latest limit qs .empty qs
  | program {q env later} (before) : q.Leaves limit env →
      (∀ q ∈ later, ∀ env, ¬ q.Leaves limit env) → Latest limit (before ++ q :: later) env later

/-! ### One request -/

/-- The answer and the session after a program with this outcome: a program is all or nothing. -/
def settle (s : Session) : Except Fault Environment → Reply × Session
  | .error f => (.program (.error f), s)
  | .ok env => (.program (.ok (env.get? s.resultVariable)), { s with environment := env })

theorem run_eq_settle (limit : Nat) (s : Session) (t : Tree) :
    (.program ((s.run limit t).1.mapError Fault.of), (s.run limit t).2) =
      s.settle (Request.fresh limit t) := by
  unfold run runProgram Request.fresh
  rcases t.execute limit (Progress.start .empty) with ⟨e | _, p⟩ <;> rfl

theorem interpret_of_ok {limit : Nat} {source : List Char} {file : Option String} {t : Tree}
    (h : parseProgram limit source file = .ok t) (s : Session) :
    s.interpret limit source file = ((s.run limit t).1.mapError Fault.of, (s.run limit t).2) := by
  simp only [Session.interpret, h]
  rcases s.run limit t with ⟨c | v, s'⟩ <;> rfl

/-- What becomes of a program is known without the session, apart from the result variable. -/
theorem serve_program {limit : Nat} {q : Request} {o : Except Fault Environment}
    (h : q.outcome? limit = some o) (s : Session) : s.serve limit q = s.settle o := by
  cases q with
  | interpret source file =>
    rw [Request.outcome?] at h
    rcases hp : parseProgram limit source file with f | t
    · rw [hp] at h
      obtain rfl : Except.error f = o := Option.some.inj h
      simp only [serve, Session.interpret, hp, settle]
    · rw [hp] at h
      obtain rfl : Request.fresh limit t = o := Option.some.inj h
      rw [serve, interpret_of_ok hp, run_eq_settle]
  | run t =>
    obtain rfl : Request.fresh limit t = o := Option.some.inj h
    exact run_eq_settle limit s t
  | execute t => cases h
  | choose r => cases h

theorem environment_serve_leaves {limit : Nat} {q : Request} {env : Environment}
    (h : q.Leaves limit env) (s : Session) : (s.serve limit q).2.environment = env := by
  rw [serve_program h]
  rfl

/-- Any other request adds to the environment what it assigns, and nothing if it is no statement. -/
theorem environment_serve {limit : Nat} {q : Request} (h : ∀ env, ¬ q.Leaves limit env)
    (s : Session) :
    (s.serve limit q).2.environment = s.environment.assignAll (q.assigned limit s.environment) := by
  -- a request that is no statement assigns nothing
  have failed {q : Request} {o} (ho : q.outcome? limit = some o) (h : ∀ env, ¬ q.Leaves limit env) :
      (s.serve limit q).2.environment = s.environment := by
    rcases o with f | env
    · rw [serve_program ho]
      rfl
    · exact absurd ho (h env)
  cases q with
  | interpret source file =>
    rcases hp : parseProgram limit source file with f | t
    · exact failed (o := .error f) (by rw [Request.outcome?, hp]) h
    · exact failed (o := Request.fresh limit t) (by rw [Request.outcome?, hp]) h
  | run t => exact failed rfl h
  | execute t =>
    have hx := Tree.follows_execute limit t (Progress.start s.environment)
    exact congrArg Progress.environment hx.1
  | choose r => rfl

theorem resultVariable_serve (limit : Nat) (q : Request) (s : Session) :
    (s.serve limit q).2.resultVariable = q.choice?.getD s.resultVariable := by
  have program {q : Request} {o} (ho : q.outcome? limit = some o) :
      (s.serve limit q).2.resultVariable = s.resultVariable := by
    rw [serve_program ho]
    rcases o with f | env <;> rfl
  cases q with
  | interpret source file =>
    rcases hp : parseProgram limit source file with f | t
    · exact program (o := .error f) (by rw [Request.outcome?, hp])
    · exact program (o := Request.fresh limit t) (by rw [Request.outcome?, hp])
  | run t => exact program rfl
  | execute t => rfl
  | choose r => rfl

/-! ### All requests -/

@[simp]
theorem after_append (limit : Nat) (s : Session) (qs later : List Request) :
    s.after limit (qs ++ later) = (s.after limit qs).after limit later :=
  List.foldl_append

theorem environment_after {limit : Nat} : ∀ {qs : List Request},
    (∀ q ∈ qs, ∀ env, ¬ q.Leaves limit env) → ∀ s : Session,
      (s.after limit qs).environment = effects limit s.environment qs
  | [], _, _ => rfl
  | q :: qs, h, s => by
    have hq := environment_serve (h q List.mem_cons_self) s
    have ih := environment_after (fun q' hq' => h q' (List.mem_cons_of_mem q hq'))
      (s.serve limit q).2
    rw [hq] at ih
    exact ih

/-- The result variable is the one that was asked for last. -/
theorem resultVariable_after (limit : Nat) : ∀ (qs : List Request) (s : Session),
    (s.after limit qs).resultVariable =
      (qs.filterMap Request.choice?).getLast?.getD s.resultVariable
  | [], _ => rfl
  | q :: qs, s => by
    have ih := resultVariable_after limit qs (s.serve limit q).2
    rw [resultVariable_serve] at ih
    rcases hq : q.choice? with _ | r
    · rw [hq] at ih
      rw [List.filterMap_cons_none hq]
      exact ih
    · rw [hq] at ih
      rw [List.filterMap_cons_some hq, List.getLast?_cons]
      exact ih

theorem environment_after_latest {limit : Nat} {qs later : List Request} {env : Environment}
    (h : Latest limit qs env later) (r : String) :
    ((start r).after limit qs).environment = effects limit env later := by
  cases h with
  | never h => exact environment_after h (start r)
  | program before hq h =>
    rw [after_append]
    calc ((((start r).after limit before).serve limit _).2.after limit later).environment
        = effects limit (((start r).after limit before).serve limit _).2.environment later :=
          environment_after h _
      _ = effects limit env later := by rw [environment_serve_leaves hq]

theorem exists_latest (limit : Nat) (qs : List Request) : ∃ env later, Latest limit qs env later := by
  -- from the last request backwards
  induction qs using List.reverseRecOn with
  | nil => exact ⟨.empty, [], .never (by simp)⟩
  | append_singleton qs q ih =>
    by_cases hq : ∃ env, q.Leaves limit env
    · obtain ⟨env, hq⟩ := hq
      exact ⟨env, [], .program qs hq (by simp)⟩
    · have hlast {later : List Request} (h : ∀ q ∈ later, ∀ env, ¬ q.Leaves limit env) :
          ∀ q' ∈ later ++ [q], ∀ env, ¬ q'.Leaves limit env := by
        intro q' hq' env
        rcases List.mem_append.mp hq' with hq' | hq'
        · exact h q' hq' env
        · rw [List.mem_singleton.mp hq']
          exact fun he => hq ⟨env, he⟩
      obtain ⟨env, later, h⟩ := ih
      cases h with
      | never h => exact ⟨_, _, .never (hlast h)⟩
      | program before hp h =>
        refine ⟨env, later ++ [q], ?_⟩
        rw [List.append_assoc, List.cons_append]
        exact .program before hp (hlast h)

end Session

/-- **The history of a session.** After any requests the environment is that of the latest program
that succeeded, or the empty one, with all that statements assigned in it since, and the result
variable is the one that was chosen last. What becomes of a program is known from the request alone:
where it fails the session stays as it was, and where it succeeds the session has the environment
that it leaves, and the answer is the entry of the result variable there, if there is one. A choice
of the result variable changes nothing else. -/
theorem session_history (limit : Nat) (r : String) (qs : List Session.Request) :
    (∃ env later, Session.Latest limit qs env later) ∧
    (∀ env later, Session.Latest limit qs env later →
      ((Session.start r).after limit qs).environment = Session.effects limit env later) ∧
    ((Session.start r).after limit qs).resultVariable =
      (qs.filterMap Session.Request.choice?).getLast?.getD r ∧
    (∀ (s : Session) q f, q.outcome? limit = some (.error f) →
      s.serve limit q = (.program (.error f), s)) ∧
    (∀ (s : Session) q env, q.outcome? limit = some (.ok env) →
      s.serve limit q =
        (.program (.ok (env.get? s.resultVariable)), { s with environment := env })) ∧
    ∀ (s : Session) name, s.serve limit (.choose name) =
      (.none, { s with resultVariable := name }) :=
  ⟨Session.exists_latest limit qs, fun _ _ h => Session.environment_after_latest h r,
    Session.resultVariable_after limit qs (Session.start r),
    fun s _ _ h => Session.serve_program h s, fun s _ _ h => Session.serve_program h s,
    fun _ _ => rfl⟩

open Session in
/-- A text that does not parse leaves nothing behind, and a statement that fails leaves behind what it
assigned before. -/
theorem session_history_partial :
    ((start "r").after 9
      [.run (.assign "a" 0 2 (.number .nan 4)),
        .interpret "{ b = }".toList none,
        .execute (.block 0 [.assign "c" 0 0 (.name "a" 0), .assign "d" 0 0 (.name "b" 0)])]
      ).environment = ⟨[("a", .nan), ("c", .nan)]⟩ := by
  have hb : ((Request.interpret "{ b = }".toList none).outcome? 9).bind Except.toOption = none := by
    decide +kernel
  have hlater : ∀ q ∈ [Request.interpret "{ b = }".toList none,
      .execute (.block 0 [.assign "c" 0 0 (.name "a" 0), .assign "d" 0 0 (.name "b" 0)])],
      ∀ env, ¬ q.Leaves 9 env := by
    intro q hq env he
    rcases List.mem_cons.mp hq with rfl | hq
    · rw [show Request.outcome? 9 _ = _ from he] at hb
      cases hb
    · cases List.mem_singleton.mp hq
      cases he
  have hl : Latest 9 _ ⟨[("a", .nan)]⟩ _ :=
    .program (q := .run (.assign "a" 0 2 (.number .nan 4))) [] rfl hlater
  exact (session_history 9 "r" _).2.1 _ _ hl

end BlockCalc
