import BlockCalc.Environment
import BlockCalc.Tree.Bounded

/-! # Evaluation

The value of an expression and the effect of a statement in an environment. Operands are evaluated
from left to right and the first fault ends everything; what was assigned before it stays assigned.
Both walks stop at a depth limit.

* `Tree.value`: the value of an expression.
* `Tree.execute`: what a statement assigns, in order, and the environment after it. -/

namespace BlockCalc

namespace Operator

/-- The arithmetic of an operation. -/
def apply : Operator → Binary64 → Binary64 → Binary64
  | add => Binary64.add
  | sub => Binary64.sub
  | mul => Binary64.mul
  | div => Binary64.div

end Operator

/-- The arithmetic of a sign. -/
def Sign.apply : Sign → Binary64 → Binary64
  | plus, x => x
  | minus, x => x.neg

/-- The value of a name, which has to have one. -/
def Environment.lookup (env : Environment) (name : String) : Except Cause Binary64 :=
  match env.get? name with
  | some x => .ok x
  | none => .error (.unbound name)

/-- How far execution came: the environment, and all assignments that were completed. -/
structure Progress where
  environment : Environment
  journal : List (String × Binary64)
deriving DecidableEq

namespace Progress

/-- Nothing was assigned yet. -/
def start (env : Environment) : Progress := ⟨env, []⟩

/-- One more assignment is complete. -/
def assign (p : Progress) (name : String) (value : Binary64) : Progress :=
  ⟨p.environment.assign name value, p.journal ++ [(name, value)]⟩

end Progress

/-- How execution ended, and how far it came. -/
abbrev Outcome : Type := Except (Stop Cause) Unit × Progress

namespace Tree

/-- The value of an expression within a depth limit. -/
def value (env : Environment) : Nat → Tree → Except (Stop Cause) Binary64
  | 0, _ => .error .depth
  | _ + 1, number x _ => .ok x
  | _ + 1, name s _ =>
    match env.lookup s with
    | .ok x => .ok x
    | .error c => .error (.fault c)
  | n + 1, binary op _ l r =>
    match value env n l with
    | .error e => .error e
    | .ok x =>
      match value env n r with
      | .error e => .error e
      | .ok y => .ok (op.apply x y)
  | n + 1, unary s _ t =>
    match value env n t with
    | .error e => .error e
    | .ok x => .ok (s.apply x)
  | _ + 1, t => .error (.fault (.notExpression t.shape.label))

/-- Executes statements one after the other, up to the first that fails. -/
def executeEach (step : Tree → Progress → Outcome) : List Tree → Progress → Outcome
  | [], p => (.ok (), p)
  | t :: ts, p =>
    match step t p with
    | (.ok (), q) => executeEach step ts q
    | (.error e, q) => (.error e, q)

/-- Executes a statement within a depth limit. -/
def execute : Nat → Tree → Progress → Outcome
  | 0, _, p => (.error .depth, p)
  | n + 1, block _ cs, p => executeEach (execute n) cs p
  | n + 1, assign x _ _ v, p =>
    match value p.environment n v with
    | .ok y => (.ok (), p.assign x y)
    | .error e => (.error e, p)
  | _ + 1, empty, p => (.ok (), p)
  | _ + 1, t, p => (.error (.fault (.notStatement t.shape.label)), p)

end Tree

/-- The cause for which evaluation stopped. -/
def Stop.toCause : Stop Cause → Cause
  | .fault c => c
  | .depth => .evaluationTooDeep

/-- The value of an expression. -/
def evaluate (limit : Nat) (t : Tree) (env : Environment) : Except Cause Binary64 :=
  match t.value env limit with
  | .ok x => .ok x
  | .error e => .error e.toCause

end BlockCalc
