import BlockCalc.Proofs.Token.StreamState
import BlockCalc.Tree.Build
import BlockCalc.Tree.Parser

/-! # Parsing with every check

The parser makes trees and checks nothing: an operation is put into a node because the token was
found to stand for it. Here the same rules make nodes that keep their tokens, whatever these are, and
each node is checked as it is made: `Tree.build` has to build the tree of it. A rule whose node cannot
be built stops.

* `Node.toTree`: the tree of a node, if it and all nodes below it can be built.
* `Checked.mirrors_program`, `Checked.mirrors_soleExpression`: the rules that check and those that do
  not do the same on every stream of tokens, so no check ever fails. -/

namespace BlockCalc

/-! ### Nodes -/

/-- A node that keeps the token it was made from, of whatever kind. -/
inductive Node
  | number (token : Token)
  | name (token : Token)
  | binary (token : Token) (left right : Node)
  | unary (token : Token) (operand : Node)
  | assign (token : Token) (left right : Node)
  | block (token : Token) (children : List Node)
  | empty

namespace Node

/-- The type of a node. -/
def shape : Node → Shape
  | number _ => .number
  | name _ => .name
  | binary _ _ _ => .binary
  | unary _ _ => .unary
  | assign _ _ _ => .assign
  | block _ _ => .block
  | empty => .empty

mutual

/-- The tree of a node, built from below. -/
def toTree : Node → Except Failure Tree
  | number k => Tree.build .number ⟨some k, none, none, none, []⟩
  | name k => Tree.build .name ⟨some k, none, none, none, []⟩
  | binary k l r =>
    match l.toTree with
    | .error f => .error f
    | .ok t =>
      match r.toTree with
      | .error f => .error f
      | .ok u => Tree.build .binary ⟨some k, some t, some u, none, []⟩
  | unary k n =>
    match n.toTree with
    | .error f => .error f
    | .ok t => Tree.build .unary ⟨some k, none, none, some t, []⟩
  | assign k l r =>
    match l.toTree with
    | .error f => .error f
    | .ok t =>
      match r.toTree with
      | .error f => .error f
      | .ok u => Tree.build .assign ⟨some k, some t, some u, none, []⟩
  | block k ns =>
    match toTrees ns with
    | .error f => .error f
    | .ok ts => Tree.build .block ⟨some k, none, none, none, ts⟩
  | empty => Tree.build .empty ⟨none, none, none, none, []⟩

/-- The trees of nodes that stand side by side. -/
def toTrees : List Node → Except Failure (List Tree)
  | [] => .ok []
  | n :: ns =>
    match n.toTree with
    | .error f => .error f
    | .ok t =>
      match toTrees ns with
      | .error f => .error f
      | .ok ts => .ok (t :: ts)

end

-- All lemmas below take these apart; their equations are derived once, here.
attribute [local simp] toTree toTrees Tree.build

/-- The node can be built, and this is its tree. -/
def Builds (n : Node) (t : Tree) : Prop := n.toTree = .ok t

/-- The nodes can be built, and these are their trees. -/
def BuildAll (ns : List Node) (ts : List Tree) : Prop := toTrees ns = .ok ts

variable {k : Token} {n l r : Node} {ns : List Node} {t : Tree} {ts : List Tree}

theorem builds_number : (number k).Builds t ↔ ∃ x, k.lexeme = .number x ∧ t = .number x k.offset := by
  obtain ⟨l, p⟩ := k
  cases l <;> simp [Builds, toTree, Tree.build, eq_comm]

example : (number ⟨.plus, 0⟩).toTree = .error (Tree.badToken .number ⟨.plus, 0⟩) := rfl

theorem builds_name : (name k).Builds t ↔ ∃ s, k.lexeme = .name s ∧ t = .name s k.offset := by
  obtain ⟨l, p⟩ := k
  cases l <;> simp [Builds, toTree, Tree.build, eq_comm]

theorem builds_binary : (binary k l r).Builds t ↔ ∃ op u v, Operator.ofKind? k.kind = some op ∧
    l.Builds u ∧ r.Builds v ∧ t = .binary op k.offset u v := by
  simp only [Builds, toTree]
  rcases l.toTree with f | u
  · simp
  · rcases r.toTree with f | v
    · simp
    · simp only [Tree.build]
      rcases Operator.ofKind? k.kind with _ | op <;> simp [eq_comm]

theorem builds_unary : (unary k n).Builds t ↔ ∃ s u, Sign.ofKind? k.kind = some s ∧ n.Builds u ∧
    t = .unary s k.offset u := by
  simp only [Builds, toTree]
  rcases n.toTree with f | u
  · simp
  · simp only [Tree.build]
    rcases Sign.ofKind? k.kind with _ | s <;> simp [eq_comm]

theorem builds_assign : (assign k l r).Builds t ↔ ∃ x q u, k.kind = .equals ∧
    l.Builds (.name x q) ∧ r.Builds u ∧ t = .assign x q k.offset u := by
  simp only [Builds, toTree]
  rcases l.toTree with f | u
  · simp
  · rcases r.toTree with f | v
    · simp
    · simp only [Tree.build]
      by_cases hk : k.kind = .equals
      · cases u <;> simp [hk, eq_comm]
      · simp [hk]

theorem builds_block : (block k ns).Builds t ↔ ∃ ts, k.kind = .openBrace ∧ BuildAll ns ts ∧
    t = .block k.offset ts := by
  simp only [Builds, BuildAll, toTree]
  rcases toTrees ns with f | ts
  · simp
  · simp only [Tree.build]
    by_cases hk : k.kind = .openBrace <;> simp [hk, eq_comm]

theorem builds_empty : empty.Builds t ↔ t = .empty := by
  simp [Builds, toTree, Tree.build, eq_comm]

theorem buildAll_nil : BuildAll [] ts ↔ ts = [] := by
  simp [BuildAll, toTrees, eq_comm]

theorem buildAll_cons :
    BuildAll (n :: ns) ts ↔ ∃ u us, n.Builds u ∧ BuildAll ns us ∧ ts = u :: us := by
  simp only [BuildAll, Builds, toTrees]
  rcases n.toTree with f | u
  · simp
  · rcases toTrees ns with f | us <;> simp [eq_comm]

/-- A node and its tree are of one type. -/
theorem Builds.shape (h : n.Builds t) : n.shape = t.shape := by
  cases n with
  | number k =>
    obtain ⟨_, -, rfl⟩ := builds_number.mp h
    rfl
  | name k =>
    obtain ⟨_, -, rfl⟩ := builds_name.mp h
    rfl
  | binary k l r =>
    obtain ⟨_, _, _, -, -, -, rfl⟩ := builds_binary.mp h
    rfl
  | unary k m =>
    obtain ⟨_, _, -, -, rfl⟩ := builds_unary.mp h
    rfl
  | assign k l r =>
    obtain ⟨_, _, _, -, -, -, rfl⟩ := builds_assign.mp h
    rfl
  | block k ns =>
    obtain ⟨_, -, -, rfl⟩ := builds_block.mp h
    rfl
  | empty =>
    obtain rfl := builds_empty.mp h
    rfl

theorem BuildAll.append (hn : n.Builds t) : ∀ {ns : List Node} {ts : List Tree}, BuildAll ns ts →
    BuildAll (ns ++ [n]) (ts ++ [t])
  | [], _, h => by
    obtain rfl := buildAll_nil.mp h
    exact buildAll_cons.mpr ⟨t, [], hn, buildAll_nil.mpr rfl, rfl⟩
  | m :: ns, _, h => by
    obtain ⟨u, us, hm, hns, rfl⟩ := buildAll_cons.mp h
    exact buildAll_cons.mpr ⟨u, us ++ [t], hm, hns.append hn, rfl⟩

end Node

/-! ### Rules that check -/

namespace Checked

open Parse

/-- The cause for which a node cannot be built. -/
def cause : Failure → Cause
  | .fault f => f.cause
  | _ => .other .construction "A node lacks one of its parts"

/-- Makes a node, which has to be one that can be built. -/
def made (n : Node) : Parse Node :=
  match n.toTree with
  | .ok _ => pure n
  | .error f => stop (.fault ⟨cause f, 0⟩)

/-- Operands with operators between them, grouped from the left. -/
def chain (operators : Kind → Option Operator) (operand : Parse Node) : Parse Node := do
  let first ← operand
  loop operators (fun left t _ => do made (.binary t left (← operand))) first

/-- An expression over given factors. -/
def expressionOf (factor : Parse Node) : Parse Node := chain additive? (chain multiplicative? factor)

/-- A sign before an operand. -/
def signed (t : Token) (operand : Parse Node) : Parse Node := do
  let _ ← eat t.kind
  made (.unary t (← operand))

/-- A factor. -/
def factor : Nat → Parse Node
  | 0 => stop .depth
  | d + 1 => do
    let t ← current
    match t.kind with
    | .plus => signed t (factor d)
    | .minus => signed t (factor d)
    | .number => made (.number (← eat .number))
    | .name => made (.name (← eat .name))
    | .openParen =>
      let _ ← eat .openParen
      let inner ← expressionOf (factor d)
      let _ ← eat .closeParen
      return inner
    | _ => refuse (.oneOf factorStarts)

/-- A name that is assigned to. -/
def target : Parse Node := do made (.name (← eat .name))

/-- An assignment. -/
def assignment (d : Nat) : Parse Node := do
  let left ← target
  let t ← eat .equals
  made (.assign t left (← expressionOf (factor d)))

/-- A statement over given assignments and blocks. -/
def statementOf (assignment block : Parse Node) : Parse Node := do
  let t ← current
  match t.kind with
  | .name => assignment
  | .openBrace => block
  | _ => made .empty

/-- A block. -/
def block : Nat → Parse Node
  | 0 => stop .depth
  | d + 1 => do
    let t ← eat .openBrace
    let first ← statementOf (assignment d) (block d)
    let children ← loop separator?
      (fun ns _ _ => do return ns ++ [← statementOf (assignment d) (block d)]) [first]
    let _ ← eat .closeBrace
    made (.block t children)

/-- A block and nothing after it. -/
def program (d : Nat) : Parse Node := do
  let n ← block d
  let _ ← eat .endOfInput
  return n

/-- An expression and nothing after it. -/
def soleExpression (d : Nat) : Parse Node := do
  let n ← expressionOf (factor d)
  let _ ← eat .endOfInput
  return n

/-! ### They do the same -/

variable {α β γ δ : Type} {s : TokenStream}

/-- Two outcomes on a stream: the same failure, or answers in a relation, with the same stream
after it. -/
inductive Mirrors (R : α → β → Prop) : Except (Stop SourceFault) α × TokenStream →
    Except (Stop SourceFault) β × TokenStream → Prop
  | ok {a b s} : R a b → Mirrors R (.ok a, s) (.ok b, s)
  | error {e s} : Mirrors R (.error e, s) (.error e, s)

theorem Mirrors.bind {R : α → β → Prop} {S : γ → δ → Prop} {x : Parse α} {y : Parse β}
    {f : α → Parse γ} {g : β → Parse δ} (h : Mirrors R (x.run s) (y.run s))
    (hfg : ∀ a b s', x.run s = (.ok a, s') → R a b → Mirrors S ((f a).run s') ((g b).run s')) :
    Mirrors S ((x >>= f).run s) ((y >>= g).run s) := by
  rw [run_bind, run_bind]
  generalize x.run s = r, y.run s = r' at h hfg
  cases h with
  | ok hab => exact hfg _ _ _ rfl hab
  | error => exact .error

/-- Both start with the same action. -/
theorem Mirrors.same {S : γ → δ → Prop} (x : Parse α) {f : α → Parse γ} {g : α → Parse δ}
    (hfg : ∀ a s', x.run s = (.ok a, s') → Mirrors S ((f a).run s') ((g a).run s')) :
    Mirrors S ((x >>= f).run s) ((x >>= g).run s) := by
  rw [run_bind, run_bind]
  rcases hx : x.run s with ⟨e | a, s'⟩
  · exact .error
  · exact hfg a s' hx

theorem mirrors_refuse (R : α → β → Prop) (x : Expected) (s : TokenStream) :
    Mirrors R ((refuse x : Parse α).run s) ((refuse x : Parse β).run s) :=
  .same current fun _ _ _ => .error

theorem eat_taken {s' : TokenStream} {u : Token} {k : Kind} (h : (eat k).run s = (.ok u, s')) :
    u.kind = k ∧ ∃ s1, current.run s = (.ok u, s1) := by
  rw [run_eat] at h
  rcases hc : current.run s with ⟨e | t, s1⟩
  · rw [hc] at h
    cases h
  rw [hc] at h
  dsimp only at h
  split at h
  · next hk =>
    rcases hp : pull.run s1 with ⟨e | v, s2⟩
    · rw [hp] at h
      cases h
    · rw [hp] at h
      cases h
      exact ⟨hk, s1, rfl⟩
  · cases h

/-- The token that is taken is the one that was looked at. -/
theorem eat_eq {s' : TokenStream} {t u : Token} {k : Kind} (hl : s.lookahead = some t)
    (h : (eat k).run s = (.ok u, s')) : u = t := by
  obtain ⟨-, s1, hc⟩ := eat_taken h
  rw [run_current, hl] at hc
  cases hc
  rfl

/-- **Loops mirror each other** if their bodies do. -/
theorem mirrors_loop {R : α → β → Prop} {accepts : Kind → Option γ}
    {f : α → Token → γ → Parse α} {g : β → Token → γ → Parse β}
    (h : ∀ a b t c s, R a b → accepts t.kind = some c → Mirrors R ((f a t c).run s) ((g b t c).run s))
    {a : α} {b : β} (hab : R a b) (s : TokenStream) :
    Mirrors R ((loop accepts f a).run s) ((loop accepts g b).run s) := by
  -- By induction on what is left to read: a round takes a token.
  induction hn : s.remaining using Nat.strongRecOn generalizing s a b with
  | ind n ih =>
    rw [run_loop, run_loop]
    refine .same current fun t s1 hc => ?_
    have hcur := run_remaining_le current s
    rw [hc] at hcur
    rcases hacc : accepts t.kind with _ | c
    · exact .ok hab
    · dsimp only
      by_cases hk : t.kind = .endOfInput
      · rw [if_pos hk, if_pos hk]
        exact .ok hab
      · rw [if_neg hk, if_neg hk]
        refine .same (eat t.kind) fun u s2 he => ?_
        refine (h a b t c s2 hab hacc).bind fun a' b' s3 hf hab' => ?_
        have hlt := eat_remaining_lt he hk
        have hbody := run_remaining_le (f a t c) s2
        rw [hf] at hbody
        dsimp only at hcur hbody
        exact ih s3.remaining (by omega) hab' s3 rfl

theorem mirrors_made {n : Node} {t : Tree} (h : n.Builds t) (s : TokenStream) :
    Mirrors Node.Builds ((made n).run s) ((pure t : Parse Tree).run s) := by
  rw [made, show n.toTree = .ok t from h]
  exact .ok h

theorem ofKind?_additive {k : Kind} {op : Operator} (h : additive? k = some op) :
    Operator.ofKind? k = some op := by
  cases k <;> cases h <;> rfl

theorem ofKind?_multiplicative {k : Kind} {op : Operator} (h : multiplicative? k = some op) :
    Operator.ofKind? k = some op := by
  cases k <;> cases h <;> rfl

theorem mirrors_chain {operators : Kind → Option Operator} {x : Parse Node} {y : Parse Tree}
    (ho : ∀ {k op}, operators k = some op → Operator.ofKind? k = some op)
    (h : ∀ s, Mirrors Node.Builds (x.run s) (y.run s)) (s : TokenStream) :
    Mirrors Node.Builds ((chain operators x).run s) ((Parse.chain operators y).run s) := by
  refine (h s).bind fun n t s' _ hn => mirrors_loop (fun l u k op s hl hk => ?_) hn s'
  refine (h s).bind fun r v s' _ hr => mirrors_made ?_ s'
  exact Node.builds_binary.mpr ⟨op, u, v, ho hk, hl, hr, rfl⟩

theorem mirrors_expressionOf {x : Parse Node} {y : Parse Tree}
    (h : ∀ s, Mirrors Node.Builds (x.run s) (y.run s)) (s : TokenStream) :
    Mirrors Node.Builds ((expressionOf x).run s) ((Parse.expressionOf y).run s) :=
  mirrors_chain ofKind?_additive (mirrors_chain ofKind?_multiplicative h) s

theorem mirrors_factor : ∀ (d : Nat) (s : TokenStream),
    Mirrors Node.Builds ((factor d).run s) ((Parse.factor d).run s)
  | 0, _ => .error
  | d + 1, s => by
    have ih := mirrors_factor d
    unfold factor Parse.factor
    refine .same current fun t s1 hc => ?_
    have hl := current_lookahead hc
    rcases t with ⟨l, p⟩
    cases l with
    | plus =>
      refine .same (eat .plus) fun _ s2 _ => (ih s2).bind fun n u s3 _ hn => mirrors_made ?_ s3
      exact Node.builds_unary.mpr ⟨.plus, u, rfl, hn, rfl⟩
    | minus =>
      refine .same (eat .minus) fun _ s2 _ => (ih s2).bind fun n u s3 _ hn => mirrors_made ?_ s3
      exact Node.builds_unary.mpr ⟨.minus, u, rfl, hn, rfl⟩
    | number x =>
      refine .same (eat .number) fun u s2 he => mirrors_made ?_ s2
      obtain rfl := eat_eq hl he
      exact Node.builds_number.mpr ⟨x, rfl, rfl⟩
    | name x =>
      refine .same (eat .name) fun u s2 he => mirrors_made ?_ s2
      obtain rfl := eat_eq hl he
      exact Node.builds_name.mpr ⟨x, rfl, rfl⟩
    | openParen =>
      refine .same (eat .openParen) fun _ s2 _ => (mirrors_expressionOf ih s2).bind ?_
      intro n u s3 _ hn
      exact .same (eat .closeParen) fun _ s4 _ => .ok hn
    | _ => exact mirrors_refuse _ _ s1

theorem run_eat_current {s1 : TokenStream} {t : Token} (hc : current.run s = (.ok t, s1)) (k : Kind) :
    (eat k).run s = (eat k).run s1 := by
  rw [run_eat, run_eat, hc, run_current, current_lookahead hc]

theorem run_refuse_lookahead {t : Token} (x : Expected) (hl : s.lookahead = some t) :
    (refuse x : Parse α).run s = (.error (.fault ⟨.unexpectedToken x t.kind, t.offset⟩), s) := by
  rw [refuse, run_bind, run_current, hl]
  rfl

theorem run_eat_refuse {t : Token} {k : Kind} (hl : s.lookahead = some t) (hk : t.kind ≠ k) :
    (eat k).run s = (refuse (.exactly k)).run s := by
  rw [run_eat, run_refuse_lookahead _ hl, run_current, hl]
  exact if_neg hk

theorem mirrors_target (s : TokenStream) :
    Mirrors (fun n r => n.Builds (.name r.1 r.2)) (target.run s) (eatName.run s) := by
  rw [target, eatName, run_bind, run_bind]
  rcases hc : current.run s with ⟨e | ⟨l, p⟩, s1⟩
  · rw [run_eat, hc]
    exact .error
  · have hl := current_lookahead hc
    rw [run_eat_current hc]
    cases l with
    | name x =>
      rw [← run_bind]
      refine .same (eat .name) fun u s2 he => ?_
      obtain rfl := eat_eq hl he
      have hb : (Node.name ⟨.name x, p⟩).Builds (.name x p) := Node.builds_name.mpr ⟨x, rfl, rfl⟩
      rw [made, show (Node.name ⟨.name x, p⟩).toTree = .ok (.name x p) from hb]
      exact .ok hb
    | _ =>
      -- Both refuse the token, in the same words.
      rw [run_eat_refuse (k := .name) hl nofun, run_refuse_lookahead _ hl]
      change Mirrors _ _ ((refuse (.exactly .name)).run s1)
      rw [run_refuse_lookahead _ hl]
      exact .error

theorem mirrors_assignment (d : Nat) (s : TokenStream) :
    Mirrors Node.Builds ((assignment d).run s) ((Parse.assignment d).run s) := by
  refine (mirrors_target s).bind fun n r s1 _ hn => ?_
  obtain ⟨x, q⟩ := r
  refine .same (eat .equals) fun t s2 he => ?_
  refine (mirrors_expressionOf (mirrors_factor d) s2).bind fun m u s3 _ hm => mirrors_made ?_ s3
  exact Node.builds_assign.mpr ⟨x, q, u, (eat_taken he).1, hn, hm, rfl⟩

theorem mirrors_statementOf {x x' : Parse Node} {y y' : Parse Tree}
    (h : ∀ s, Mirrors Node.Builds (x.run s) (y.run s))
    (h' : ∀ s, Mirrors Node.Builds (x'.run s) (y'.run s)) (s : TokenStream) :
    Mirrors Node.Builds ((statementOf x x').run s) ((Parse.statementOf y y').run s) := by
  refine .same current fun t s1 _ => ?_
  rcases t with ⟨l, p⟩
  cases l with
  | name x => exact h s1
  | openBrace => exact h' s1
  | _ => exact mirrors_made (Node.builds_empty.mpr rfl) s1

theorem mirrors_block : ∀ (d : Nat) (s : TokenStream),
    Mirrors Node.Builds ((block d).run s) ((Parse.block d).run s)
  | 0, _ => .error
  | d + 1, s => by
    have hst := mirrors_statementOf (mirrors_assignment d) (mirrors_block d)
    unfold block Parse.block
    refine .same (eat .openBrace) fun t s1 he => (hst s1).bind fun n u s2 _ hn => ?_
    have hfirst : Node.BuildAll [n] [u] := Node.BuildAll.append hn (Node.buildAll_nil.mpr rfl)
    refine (mirrors_loop (fun ns ts _ _ s hns _ => ?_) hfirst s2).bind fun ns ts s3 _ hns => ?_
    · exact (hst s).bind fun m v s' _ hm => .ok (hns.append hm)
    · refine .same (eat .closeBrace) fun _ s4 _ => mirrors_made ?_ s4
      exact Node.builds_block.mpr ⟨ts, (eat_taken he).1, hns, rfl⟩

/-- **No check of a program fails**: with checks and without, parsing does the same. -/
theorem mirrors_program (d : Nat) (s : TokenStream) :
    Mirrors Node.Builds ((program d).run s) ((Parse.program d).run s) :=
  (mirrors_block d s).bind fun _ _ _ _ hn => .same (eat .endOfInput) fun _ _ _ => .ok hn

/-- **No check of an expression fails.** -/
theorem mirrors_soleExpression (d : Nat) (s : TokenStream) :
    Mirrors Node.Builds ((soleExpression d).run s) ((Parse.soleExpression d).run s) :=
  (mirrors_expressionOf (mirrors_factor d) s).bind fun _ _ _ _ hn =>
    .same (eat .endOfInput) fun _ _ _ => .ok hn

end Checked

end BlockCalc
