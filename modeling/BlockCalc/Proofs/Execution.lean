import BlockCalc.Session
import Mathlib.Tactic.Common

/-! # Execution without a depth limit

Blocks and empty statements do nothing of their own. `Tree.steps` lists what is left of a tree
without them, in the order of execution, and `Tree.performAll` performs such a list up to the first
step that fails. A depth limit can only put an end to this: `execute_eq` says that executing a tree
within a limit either reaches the limit or does the same as performing its steps.

* `value_eq`, `execute_eq`, `runProgram_eq`: evaluation within a limit, if it is not reached.
* `value_ne_depth`, `evaluate_cases`: only trees higher than the limit reach it.
* `performAll_append`: steps after other steps. -/

namespace BlockCalc

theorem exists_ok_of_map {ε α β : Type} {r : Except ε α} {f : α → β} {b : β}
    (h : r.map f = .ok b) : ∃ a, r = .ok a ∧ f a = b := by
  rcases r with e | a
  · cases h
  · exact ⟨a, rfl, Except.ok.inj h⟩

namespace Tree

/-! ### Expressions -/

/-- The value of an expression. -/
def meaning (env : Environment) : Tree → Except Cause Binary64
  | number x _ => .ok x
  | name s _ => env.lookup s
  | binary op _ l r =>
    match l.meaning env with
    | .error c => .error c
    | .ok x =>
      match r.meaning env with
      | .error c => .error c
      | .ok y => .ok (op.apply x y)
  | unary s _ t =>
    match t.meaning env with
    | .error c => .error c
    | .ok x => .ok (s.apply x)
  | t => .error (.notExpression t.shape.label)

theorem meaning_binary (env : Environment) (op : Operator) (p : Int) (l r : Tree) :
    (binary op p l r).meaning env =
      (l.meaning env).bind fun x => (r.meaning env).map (op.apply x) := by
  rw [meaning]
  rcases l.meaning env with c | x
  · rfl
  · rcases r.meaning env with c | y <;> rfl

theorem meaning_unary (env : Environment) (s : Sign) (p : Int) (t : Tree) :
    (unary s p t).meaning env = (t.meaning env).map s.apply := by
  rw [meaning]
  rcases t.meaning env with c | x <;> rfl

/-- Within a depth limit, the value is the same or the limit is reached. -/
theorem value_eq (env : Environment) : ∀ n t,
    value env n t = .error .depth ∨ value env n t = (meaning env t).mapError .fault
  | 0, _ => .inl rfl
  | n + 1, number x _ => .inr rfl
  | n + 1, name s _ => by
    right
    simp only [value, meaning]
    rcases env.lookup s with c | x <;> rfl
  | n + 1, binary op _ l r => by
    simp only [value, meaning]
    rcases value_eq env n l with hl | hl
    · rw [hl]
      exact .inl rfl
    · rw [hl]
      rcases meaning env l with c | x
      · exact .inr rfl
      · rcases value_eq env n r with hr | hr
        · rw [hr]
          exact .inl rfl
        · rw [hr]
          rcases meaning env r with c | y <;> exact .inr rfl
  | n + 1, unary s _ t => by
    simp only [value, meaning]
    rcases value_eq env n t with ht | ht
    · rw [ht]
      exact .inl rfl
    · rw [ht]
      rcases meaning env t with c | x <;> exact .inr rfl
  | n + 1, assign _ _ _ _ => .inr rfl
  | n + 1, block _ _ => .inr rfl
  | n + 1, empty => .inr rfl

theorem value_ne_depth (env : Environment) : ∀ {n : Nat} (t : Tree), t.height ≤ n →
    value env n t ≠ .error .depth
  | 0, t, h => by
    have : 0 < t.height := by cases t <;> simp [height]
    omega
  | _ + 1, number _ _, _ => nofun
  | _ + 1, name s _, _ => by
    rw [value]
    rcases env.lookup s with c | x <;> nofun
  | n + 1, binary op _ l r, h => by
    rw [height] at h
    have hl := value_ne_depth env l (n := n) (by omega)
    have hr := value_ne_depth env r (n := n) (by omega)
    rw [value]
    rcases hx : value env n l with e | x
    · rw [hx] at hl
      exact hl
    · rcases hy : value env n r with e | y
      · rw [hy] at hr
        exact hr
      · exact nofun
  | n + 1, unary s _ t, h => by
    rw [height] at h
    have ht := value_ne_depth env t (n := n) (by omega)
    rw [value]
    rcases hx : value env n t with e | x
    · rw [hx] at ht
      exact ht
    · exact nofun
  | _ + 1, assign _ _ _ _, _ => nofun
  | _ + 1, block _ _, _ => nofun
  | _ + 1, empty, _ => nofun

/-! ### Statements -/

mutual

/-- What stands in the place of a statement and is neither a block nor empty, in order. -/
def steps : Tree → List Tree
  | block _ cs => stepsAll cs
  | empty => []
  | t => [t]

/-- The steps of trees that stand side by side. -/
def stepsAll : List Tree → List Tree
  | [] => []
  | t :: ts => t.steps ++ stepsAll ts

end

/-- Performs one step. -/
def perform (t : Tree) (p : Progress) : Except Cause Unit × Progress :=
  match t with
  | assign x _ _ v =>
    match v.meaning p.environment with
    | .ok y => (.ok (), p.assign x y)
    | .error c => (.error c, p)
  | t => (.error (.notStatement t.shape.label), p)

/-- Performs steps one after the other, up to the first that fails. -/
def performAll : List Tree → Progress → Except Cause Unit × Progress
  | [], p => (.ok (), p)
  | t :: ts, p =>
    match t.perform p with
    | (.ok (), q) => performAll ts q
    | (.error c, q) => (.error c, q)

theorem performAll_append (us : List Tree) : ∀ (ts : List Tree) (p : Progress),
    performAll (ts ++ us) p = match performAll ts p with
      | (.ok (), q) => performAll us q
      | (.error c, q) => (.error c, q)
  | [], p => rfl
  | t :: ts, p => by
    simp only [List.cons_append, performAll]
    rcases t.perform p with ⟨c | _, q⟩
    · rfl
    · exact performAll_append us ts q

theorem performAll_singleton (t : Tree) (p : Progress) : performAll [t] p = t.perform p := by
  simp only [performAll]
  rcases t.perform p with ⟨c | _, q⟩ <;> rfl

/-- The outcome of steps as an outcome within a depth limit. -/
def unlimited (r : Except Cause Unit × Progress) : Outcome := (r.1.mapError .fault, r.2)

theorem executeEach_eq {n : Nat} (h : ∀ t p, (execute n t p).1 = .error .depth ∨
      execute n t p = unlimited (performAll t.steps p)) : ∀ (ts : List Tree) (p : Progress),
    (executeEach (execute n) ts p).1 = .error .depth ∨
      executeEach (execute n) ts p = unlimited (performAll (stepsAll ts) p)
  | [], p => .inr rfl
  | t :: ts, p => by
    rw [stepsAll, performAll_append]
    simp only [executeEach]
    rcases h t p with ht | ht
    · rcases hx : execute n t p with ⟨e | _, q⟩
      · rw [hx] at ht
        exact .inl ht
      · rw [hx] at ht
        cases ht
    · rw [ht]
      rcases performAll t.steps p with ⟨c | _, q⟩
      · exact .inr rfl
      · exact executeEach_eq h ts q

/-- **Execution performs the steps of a tree**, unless the depth limit is reached. -/
theorem execute_eq : ∀ (n : Nat) (t : Tree) (p : Progress), (execute n t p).1 = .error .depth ∨
    execute n t p = unlimited (performAll t.steps p)
  | 0, _, _ => .inl rfl
  | n + 1, block _ cs, p => executeEach_eq (execute_eq n) cs p
  | n + 1, assign x _ _ v, p => by
    rw [steps, performAll_singleton]
    simp only [execute, perform]
    rcases value_eq p.environment n v with hv | hv
    · rw [hv]
      exact .inl rfl
    · rw [hv]
      rcases meaning p.environment v with c | y <;> exact .inr rfl
    all_goals nofun
  | n + 1, empty, p => .inr rfl
  | n + 1, number _ _, p => .inr rfl
  | n + 1, name _ _, p => .inr rfl
  | n + 1, binary _ _ _ _, p => .inr rfl
  | n + 1, unary _ _ _, p => .inr rfl

end Tree

/-! ### Entry points -/

theorem evaluate_cases (limit : Nat) (t : Tree) (env : Environment) :
    evaluate limit t env = t.meaning env ∨
      limit < t.height ∧ evaluate limit t env = .error .evaluationTooDeep := by
  unfold evaluate
  rcases t.value_eq env limit with h | h
  · right
    refine ⟨Nat.lt_of_not_le fun hle => t.value_ne_depth env hle h, ?_⟩
    rw [h]
    rfl
  · left
    rw [h]
    rcases t.meaning env with c | x <;> rfl

open BlockCalc.Tree in
theorem runProgram_eq (limit : Nat) (r : String) (t : Tree) :
    (runProgram limit r t).result = .error .evaluationTooDeep ∨
      (runProgram limit r t).result = match performAll t.steps (Progress.start .empty) with
        | (.ok (), p) => .ok (p.environment.get? r)
        | (.error c, _) => .error c := by
  unfold runProgram
  rcases execute_eq limit t (Progress.start .empty) with h | h
  · rcases hx : execute limit t (Progress.start .empty) with ⟨e | _, q⟩
    · rw [hx] at h
      cases h
      exact .inl rfl
    · rw [hx] at h
      cases h
  · rw [h]
    rcases performAll t.steps (Progress.start .empty) with ⟨c | _, q⟩ <;> exact .inr rfl

theorem interpret_of_parse {limit : Nat} {source : List Char} {t : Tree}
    (h : parseProgram limit source none = .ok t) (r : String) :
    interpret limit source r = (runProgram limit r t).result.mapError Fault.of := by
  unfold interpret Session.interpret Session.run
  rw [h]
  dsimp only [Session.start]
  rcases (runProgram limit r t).result with c | v <;> rfl

end BlockCalc
