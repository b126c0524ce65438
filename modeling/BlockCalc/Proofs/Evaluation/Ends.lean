import BlockCalc.Proofs.Checked
import BlockCalc.Proofs.Execution

/-! # The ends of an expression

Evaluation goes down through operations and signs from left to right. The *ends* of a tree are where
it comes to a stop: numbers, names, and statements that stand where no statement belongs. An end is at
fault if it is a statement or a name without value (`endFault?`), and the first one at fault decides
how evaluation fails. If none is, the value is that of the operations over the ends (`folded`).

Nothing else can fail. `Node.strictValue` is evaluation of nodes that keep their tokens, with an alarm
of its own for each thing that could: a token without the payload that it is asked for, a token that is
in no table of operations, and a division by zero, which the machine refuses (`quotient?`) and which
therefore is never left to it (`divide?`).

* `meaning_eq`: the first end at fault, or the value of the operations.
* `Binary64.divide?_eq`: division never raises an alarm.
* `Node.strictValue_eq`: none of the others is raised either.
* `evaluate_by_ends`: evaluation of a tree. -/

namespace BlockCalc

namespace Tree

/-- The nodes at which evaluation comes to a stop, from left to right. -/
def ends : Tree → List Tree
  | number x p => [number x p]
  | name s p => [name s p]
  | binary _ _ l r => l.ends ++ r.ends
  | unary _ _ t => t.ends
  | assign x q p v => [assign x q p v]
  | block p cs => [block p cs]
  | empty => [empty]

/-- What is at fault with an end: a name may have no value, and a statement is no expression. -/
def endFault? (env : Environment) : Tree → Option Cause
  | number _ _ => none
  | name s _ =>
    match env.get? s with
    | some _ => none
    | none => some (.unbound s)
  | t => some (.notExpression t.shape.label)

/-- The operations of a tree over given values of its names. -/
def folded (σ : String → Binary64) : Tree → Binary64
  | number x _ => x
  | name s _ => σ s
  | binary op _ l r => op.apply (l.folded σ) (r.folded σ)
  | unary s _ t => s.apply (t.folded σ)
  | _ => .nan

/-- Values for all names that agree with an environment. -/
def Extends (σ : String → Binary64) (env : Environment) : Prop :=
  ∀ s x, env.get? s = some x → σ s = x

/-- **The first end at fault decides**, and without one the operations give the value. -/
theorem meaning_eq {σ : String → Binary64} {env : Environment} (hσ : Extends σ env) :
    ∀ t : Tree, t.meaning env = match t.ends.findSome? (endFault? env) with
      | some c => .error c
      | none => .ok (t.folded σ)
  | number _ _ => rfl
  | name s _ => by
    simp only [meaning, ends, List.findSome?_singleton, endFault?, Environment.lookup, folded]
    rcases hs : env.get? s with _ | x
    · rfl
    · exact congrArg Except.ok (hσ s x hs).symm
  | unary s p t => by
    rw [meaning_unary, meaning_eq hσ t, ends]
    rcases t.ends.findSome? (endFault? env) with _ | c <;> rfl
  | binary op p l r => by
    rw [meaning_binary, meaning_eq hσ l, meaning_eq hσ r, ends, List.findSome?_append]
    rcases l.ends.findSome? (endFault? env) with _ | c
    · rcases r.ends.findSome? (endFault? env) with _ | c <;> rfl
    · rfl
  | assign _ _ _ _ => rfl
  | block _ _ => rfl
  | empty => rfl

theorem exists_extends (env : Environment) : ∃ σ, Extends σ env :=
  ⟨fun s => (env.get? s).getD .nan, fun s x h => by simp [h]⟩

theorem value_congr {env env' : Environment} : ∀ (n : Nat) (t : Tree),
    (∀ s p, .name s p ∈ t.ends → env'.get? s = env.get? s) → value env' n t = value env n t
  | 0, _, _ => rfl
  | _ + 1, number _ _, _ => rfl
  | _ + 1, name s p, h => by
    have hs := h s p List.mem_cons_self
    simp only [value, Environment.lookup, hs]
  | n + 1, binary _ _ l r, h => by
    have hl := value_congr n l fun s p hs => h s p (List.mem_append_left _ hs)
    have hr := value_congr n r fun s p hs => h s p (List.mem_append_right _ hs)
    simp only [value, hl, hr]
  | n + 1, unary _ _ t, h => by
    have ht := value_congr n t h
    simp only [value, ht]
  | _ + 1, assign _ _ _ _, _ => rfl
  | _ + 1, block _ _, _ => rfl
  | _ + 1, empty, _ => rfl

end Tree

/-! ### Division -/

namespace Binary64

/-- Whether the sign is that of negative numbers; NaN has none. -/
def isNegative : Binary64 → Bool
  | nan => false
  | infinity s => s
  | finite s _ => s

/-- The magnitude of one number with the sign of another. -/
def withSign (x y : Binary64) : Binary64 :=
  match x with
  | nan => nan
  | infinity _ => infinity y.isNegative
  | finite _ r => finite y.isNegative r

/-- The number one. -/
def unit : Binary64 := finite false ⟨1023 * binade, by decide⟩

/-- The quotient of the machine, which refuses to divide by zero. -/
def quotient? (x y : Binary64) : Option Binary64 :=
  if y.numEq (zero false) then none else some (x.div y)

/-- Division that does not leave a zero divisor to the machine. -/
def divide? (x y : Binary64) : Option Binary64 :=
  if y.numEq (zero false) then
    if x.numEq (zero false) || x = nan then some nan
    else some (((infinity false).withSign x).mul (unit.withSign y))
  else x.quotient? y

theorem numEq_zero {x : Binary64} :
    x.numEq (zero false) = true ↔ ∃ s, x = zero s := by
  constructor
  · intro h
    rcases x with _ | _ | ⟨s, r⟩
    · cases h
    · cases h
    · rw [zero, numEq, Bool.and_eq_true, beq_iff_eq] at h
      exact ⟨s, by rw [h.1, zero]⟩
  · rintro ⟨s, rfl⟩
    cases s <;> rfl

/-- The signs decide of a quotient by zero, unless there is no sign or nothing to divide. -/
theorem div_zero (x : Binary64) (t : Bool) : x.div (zero t) =
    if x.numEq (zero false) || x = nan then nan
    else ((infinity false).withSign x).mul (unit.withSign (zero t)) := by
  rcases x with _ | s | ⟨s, r⟩
  · rfl
  · rfl
  · by_cases hr : r.val = 0
    · obtain rfl : r = ⟨0, by decide⟩ := Fin.ext hr
      cases s <;> cases t <;> rfl
    · have hne : (finite s r).numEq (zero false) = false := by
        rw [Bool.eq_false_iff]
        intro h
        obtain ⟨s', hs'⟩ := numEq_zero.mp h
        rw [zero, finite.injEq] at hs'
        exact hr (congrArg Fin.val hs'.2)
      have hdiv : (finite s r).div (zero t) = infinity (s != t) := by
        simp [div, zero, hr]
      rw [hne, hdiv]
      cases s <;> cases t <;> rfl

/-- **Division never raises an alarm.** -/
theorem divide?_eq (x y : Binary64) : x.divide? y = some (x.div y) := by
  unfold divide?
  by_cases hy : y.numEq (zero false) = true
  · obtain ⟨t, rfl⟩ := numEq_zero.mp hy
    rw [if_pos hy, div_zero]
    split_ifs <;> rfl
  · rw [if_neg hy, quotient?, if_neg hy]

end Binary64

/-! ### Evaluation with an alarm for everything -/

/-- What could end the evaluation of a node. -/
inductive Raised
  | reported (cause : Cause)
  | depth
  | noPayload (cause : Cause)
  | noOperation (kind : Kind)
  | zeroDivision
deriving DecidableEq

/-- What is raised where evaluation within a depth limit stops. -/
def Raised.ofStop : Stop Cause → Raised
  | .fault c => .reported c
  | .depth => .depth

/-- The arithmetic of an operation, as the machine does it. -/
def Operator.strictApply (op : Operator) (x y : Binary64) : Except Raised Binary64 :=
  match op with
  | div => match x.divide? y with
    | some z => .ok z
    | none => .error .zeroDivision
  | op => .ok (op.apply x y)

theorem Operator.strictApply_eq (op : Operator) (x y : Binary64) :
    op.strictApply x y = .ok (op.apply x y) := by
  cases op with
  | div =>
    rw [strictApply, Binary64.divide?_eq]
    rfl
  | _ => rfl

namespace Node

mutual

theorem exists_builds : ∀ t : Tree, ∃ m : Node, m.Builds t
  | .number x p => ⟨number ⟨.number x, p⟩, rfl⟩
  | .name s p => ⟨name ⟨.name s, p⟩, rfl⟩
  | .binary op p l r => by
    obtain ⟨m, hm⟩ := exists_builds l
    obtain ⟨n, hn⟩ := exists_builds r
    have hop : Operator.ofKind? (Token.kind ⟨op.lexeme, p⟩) = some op := by cases op <;> rfl
    exact ⟨binary ⟨op.lexeme, p⟩ m n, builds_binary.mpr ⟨op, l, r, hop, hm, hn, rfl⟩⟩
  | .unary s p t => by
    obtain ⟨m, hm⟩ := exists_builds t
    have hs : Sign.ofKind? (Token.kind ⟨s.lexeme, p⟩) = some s := by cases s <;> rfl
    exact ⟨unary ⟨s.lexeme, p⟩ m, builds_unary.mpr ⟨s, t, hs, hm, rfl⟩⟩
  | .assign x q p v => by
    obtain ⟨m, hm⟩ := exists_builds v
    have hx : (name ⟨.name x, q⟩).Builds (.name x q) := rfl
    exact ⟨assign ⟨.equals, p⟩ (name ⟨.name x, q⟩) m,
      builds_assign.mpr ⟨x, q, v, rfl, hx, hm, rfl⟩⟩
  | .block p cs => by
    obtain ⟨ms, hms⟩ := exists_buildAll cs
    exact ⟨block ⟨.openBrace, p⟩ ms, builds_block.mpr ⟨cs, rfl, hms, rfl⟩⟩
  | .empty => ⟨empty, rfl⟩

theorem exists_buildAll : ∀ ts : List Tree, ∃ ms : List Node, BuildAll ms ts
  | [] => ⟨[], rfl⟩
  | t :: ts => by
    obtain ⟨m, hm⟩ := exists_builds t
    obtain ⟨ms, hms⟩ := exists_buildAll ts
    exact ⟨m :: ms, buildAll_cons.mpr ⟨t, ts, hm, hms, rfl⟩⟩

end

/-- The value of an expression within a depth limit, with an alarm for everything. -/
def strictValue (env : Environment) : Nat → Node → Except Raised Binary64
  | 0, _ => .error .depth
  | _ + 1, number k => k.number?.mapError .noPayload
  | _ + 1, name k =>
    match k.name? with
    | .error c => .error (.noPayload c)
    | .ok x => (env.lookup x).mapError .reported
  | n + 1, binary k l r =>
    match strictValue env n l with
    | .error e => .error e
    | .ok x =>
      match strictValue env n r with
      | .error e => .error e
      | .ok y =>
        match Operator.ofKind? k.kind with
        | none => .error (.noOperation k.kind)
        | some op => op.strictApply x y
  | n + 1, unary k m =>
    match strictValue env n m with
    | .error e => .error e
    | .ok x =>
      match Sign.ofKind? k.kind with
      | none => .error (.noOperation k.kind)
      | some s => .ok (s.apply x)
  | _ + 1, m => .error (.reported (.notExpression m.shape.label))

/-- **No other alarm is raised** by a node that can be built. -/
theorem strictValue_eq (env : Environment) : ∀ (n : Nat) {m : Node} {t : Tree}, m.Builds t →
    m.strictValue env n = (t.value env n).mapError Raised.ofStop
  | 0, _, _, _ => rfl
  | n + 1, number k, t, h => by
    obtain ⟨x, hx, rfl⟩ := builds_number.mp h
    rw [strictValue, Token.number?, hx]
    rfl
  | n + 1, name k, t, h => by
    obtain ⟨x, hx, rfl⟩ := builds_name.mp h
    rw [strictValue, Token.name?, hx, Tree.value]
    dsimp only
    rcases env.lookup x with c | y <;> rfl
  | n + 1, binary k l r, t, h => by
    obtain ⟨op, u, v, hk, hl, hr, rfl⟩ := builds_binary.mp h
    rw [strictValue, Tree.value, strictValue_eq env n hl, strictValue_eq env n hr, hk]
    rcases u.value env n with e | x
    · rfl
    · rcases v.value env n with e | y
      · rfl
      · exact op.strictApply_eq x y
  | n + 1, unary k m, t, h => by
    obtain ⟨s, u, hk, hm, rfl⟩ := builds_unary.mp h
    rw [strictValue, Tree.value, strictValue_eq env n hm, hk]
    rcases u.value env n with e | x <;> rfl
  -- Statements are reported by their type, which is that of the tree.
  | n + 1, assign k l r, t, h => by
    obtain ⟨_, _, _, -, -, -, rfl⟩ := builds_assign.mp h
    rfl
  | n + 1, block k ms, t, h => by
    obtain ⟨_, -, -, rfl⟩ := builds_block.mp h
    rfl
  | n + 1, empty, t, h => by
    obtain rfl := builds_empty.mp h
    rfl

end Node

/-! ### Evaluation of a tree -/

open BlockCalc.Tree

section

variable {limit : Nat} {t : Tree} {env : Environment}

theorem evaluate_eq_ends {σ : String → Binary64} (hσ : Extends σ env)
    (h : evaluate limit t env ≠ .error .evaluationTooDeep) :
    evaluate limit t env = match t.ends.findSome? (endFault? env) with
      | some c => .error c
      | none => .ok (t.folded σ) := by
  rcases evaluate_cases limit t env with he | ⟨-, he⟩
  · rw [he, meaning_eq hσ]
  · exact absurd he h

theorem exists_evaluate_iff (h : evaluate limit t env ≠ .error .evaluationTooDeep) :
    (∃ x, evaluate limit t env = .ok x) ↔ ∀ e ∈ t.ends, e.endFault? env = none := by
  obtain ⟨σ, hσ⟩ := exists_extends env
  rw [evaluate_eq_ends hσ h, ← List.findSome?_eq_none_iff]
  rcases t.ends.findSome? (endFault? env) with _ | c
  · exact ⟨fun _ => rfl, fun _ => ⟨_, rfl⟩⟩
  · exact ⟨nofun, nofun⟩

theorem evaluate_eq_first (h : evaluate limit t env ≠ .error .evaluationTooDeep)
    {before after : List Tree} {e : Tree} {c : Cause} (hends : t.ends = before ++ e :: after)
    (hbefore : ∀ b ∈ before, b.endFault? env = none) (he : e.endFault? env = some c) :
    evaluate limit t env = .error c := by
  obtain ⟨σ, hσ⟩ := exists_extends env
  rw [evaluate_eq_ends hσ h, hends, List.findSome?_append,
    List.findSome?_eq_none_iff.mpr hbefore, Option.none_or, List.findSome?_cons, he]

theorem eq_folded_of_evaluate {x : Binary64} (hx : evaluate limit t env = .ok x)
    {σ : String → Binary64} (hσ : Extends σ env) : x = t.folded σ := by
  have hdeep : evaluate limit t env ≠ .error .evaluationTooDeep := by
    rw [hx]
    nofun
  have h := evaluate_eq_ends hσ hdeep
  rw [hx] at h
  generalize t.ends.findSome? (endFault? env) = r at h
  rcases r with _ | c
  · exact Except.ok.inj h
  · cases h

theorem strictValue_of_builds (h : evaluate limit t env ≠ .error .evaluationTooDeep) {m : Node}
    (hm : m.Builds t) :
    m.strictValue env limit = (evaluate limit t env).mapError Raised.reported := by
  rw [Node.strictValue_eq env limit hm]
  unfold evaluate at h ⊢
  generalize t.value env limit = r at h ⊢
  rcases r with (c | _) | x
  · rfl
  · exact absurd rfl h
  · rfl

end

/-- **Evaluation is decided by the ends of a tree.** It succeeds if and only if none of them is at
fault, and otherwise fails for the first that is. The value is that of the operations of the tree over
the values of its names, and does not depend on other names. Evaluating a node that could be built
raises nothing that is not reported so. -/
theorem evaluate_by_ends {limit : Nat} {t : Tree} {env : Environment}
    (h : evaluate limit t env ≠ .error .evaluationTooDeep) :
    ((∃ x, evaluate limit t env = .ok x) ↔ ∀ e ∈ t.ends, e.endFault? env = none) ∧
    (∀ before e after c, t.ends = before ++ e :: after → (∀ b ∈ before, b.endFault? env = none) →
      e.endFault? env = some c → evaluate limit t env = .error c) ∧
    (∀ x, evaluate limit t env = .ok x → ∀ σ, Extends σ env → x = t.folded σ) ∧
    (∀ env', (∀ s p, .name s p ∈ t.ends → env'.get? s = env.get? s) →
      evaluate limit t env' = evaluate limit t env) ∧
    (∃ m : Node, m.Builds t) ∧ ∀ m : Node, m.Builds t →
      m.strictValue env limit = (evaluate limit t env).mapError Raised.reported := by
  refine ⟨exists_evaluate_iff h, ?_, ?_, ?_, Node.exists_builds t, ?_⟩
  · intro before e after c hends hbefore he
    exact evaluate_eq_first h hends hbefore he
  · intro x hx σ hσ
    exact eq_folded_of_evaluate hx hσ
  · intro env' henv
    rw [evaluate, evaluate, value_congr limit t henv]
  · intro m hm
    exact strictValue_of_builds h hm

/-- A block is met before a name without value, and a division by the negative zero. -/
theorem evaluate_by_ends_cases :
    evaluate depthLimit (.binary .add 0 (.unary .minus 1 (.block 2 [])) (.name "w" 3)) .empty =
      .error (.notExpression "Block") ∧
    evaluate depthLimit (.binary .div 0 (.name "x" 1) (.number (.zero true) 2))
      ⟨[("x", .infinity false)]⟩ = .ok (.infinity true) := by
  constructor
  · exact (evaluate_by_ends (by decide +kernel)).2.1 [] (.block 2 []) [.name "w" 3] _ rfl nofun rfl
  · have hdeep : evaluate depthLimit (.binary .div 0 (.name "x" 1) (.number (.zero true) 2))
        ⟨[("x", .infinity false)]⟩ ≠ .error .evaluationTooDeep := by decide +kernel
    have hextends : Extends (fun _ => .infinity false) ⟨[("x", .infinity false)]⟩ := by
      intro s x hs
      simp only [Environment.get?, Environment.lookupIn] at hs
      split at hs
      · exact Option.some.inj hs
      · cases hs
    obtain ⟨hsuccess, -, hvalue, -⟩ := evaluate_by_ends hdeep
    obtain ⟨x, hx⟩ := hsuccess.mpr (by decide)
    rw [hx, hvalue x hx _ hextends]
    rfl

end BlockCalc
