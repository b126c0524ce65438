import BlockCalc.Proofs.Execution
import BlockCalc.Proofs.Tree.Tokens

/-! # Names are defined before they are used

Whether a program runs through is decided by the places of its names alone. A name that is read is
*exposed* if no assignment to it is complete by then; a run succeeds exactly if nothing is exposed,
and otherwise it fails at the first exposed name.

A run knows an environment, a source knows offsets. They meet in `Tree.exposed`, which goes through
the steps of a program with the list of the names assigned so far. `decided_performAll` says that
these are always the names that have a value, and `mem_exposed_iff_defines` that a step comes earlier
exactly if all of it stands earlier in the source.

* `interpret_iff_defined`: the outcome of a program, read off its source.
* `runProgram_renumber`: numbers make no difference to it. -/

namespace BlockCalc

namespace Tree

/-! ### Reading and assigning -/

mutual

/-- The names that are read, each with its offset, from left to right. -/
def reads : Tree → List (String × Int)
  | name s p => [(s, p)]
  | binary _ _ l r => l.reads ++ r.reads
  | unary _ _ t => t.reads
  | assign _ _ _ v => v.reads
  | block _ cs => readsAll cs
  | number _ _ => []
  | empty => []

/-- The names that are read in trees that stand side by side. -/
def readsAll : List Tree → List (String × Int)
  | [] => []
  | t :: ts => t.reads ++ readsAll ts

end

/-- An assignment of an expression. -/
def isAssignment : Tree → Bool
  | assign _ _ _ v => v.isExpression
  | _ => false

/-- The name to which a step assigns. -/
def target? : Tree → Option String
  | assign x _ _ _ => some x
  | _ => none

/-- The names to which steps assign. -/
def targets (ss : List Tree) : List String := ss.filterMap target?

theorem targets_cons (s : Tree) (ss : List Tree) :
    targets (s :: ss) = s.target?.toList ++ targets ss := by
  rw [targets, List.filterMap_cons]
  rcases s.target? with _ | x <;> rfl

/-- An assignment to a name ends before an offset: all its tokens stand before it. (Parentheses that
close after the last of them belong to no node; no name stands between.) -/
def Defines (t : Tree) (x : String) (p : Int) : Prop :=
  ∃ s ∈ t.steps, s.target? = some x ∧ ∀ k ∈ s.tokens, k.offset < p

/-- The names that steps read before a step assigns to them, given names that have a value
before. -/
def exposed (bound : List String) : List Tree → List (String × Int)
  | [] => []
  | s :: ss => s.reads.filter (fun r => r.1 ∉ bound) ++ exposed (s.target?.toList ++ bound) ss

/-- What is exposed decides whether there is an outcome, and otherwise which fault. -/
inductive Decided {α : Type} : List (String × Int) → Except Cause α → Prop
  | done (a) : Decided [] (.ok a)
  | missing {r rs} : Decided (r :: rs) (.error (.unbound r.1))

/-! ### Runs -/

/-- The environment has values for these names and no others. -/
def Binds (env : Environment) (bound : List String) : Prop :=
  ∀ x, (env.get? x).isSome = true ↔ x ∈ bound

theorem binds_assign {env : Environment} {bound : List String} (h : Binds env bound) (x : String)
    (v : Binary64) : Binds (env.assign x v) (x :: bound) := by
  intro y
  rw [Environment.get?_assign, List.mem_cons]
  by_cases hx : x = y
  · simp [hx]
  · rw [if_neg hx, h y]
    exact ⟨.inr, fun hy => hy.resolve_left (Ne.symm hx)⟩

/-- The value of an expression is decided by the names that it reads. -/
theorem decided_meaning {env : Environment} {bound : List String} (h : Binds env bound) :
    ∀ t : Tree, t.isExpression = true →
      Decided (t.reads.filter fun r => r.1 ∉ bound) (t.meaning env)
  | number x _, _ => .done x
  | name s p, _ => by
    by_cases hs : s ∈ bound
    · obtain ⟨x, hx⟩ := Option.isSome_iff_exists.mp ((h s).mpr hs)
      have he : ((name s p).reads.filter fun r => r.1 ∉ bound) = [] := by simp [reads, hs]
      rw [he, meaning, Environment.lookup, hx]
      exact .done x
    · have hx : env.get? s = none := by
        rw [← Option.not_isSome_iff_eq_none, h s]
        exact hs
      have he : ((name s p).reads.filter fun r => r.1 ∉ bound) = [(s, p)] := by simp [reads, hs]
      rw [he, meaning, Environment.lookup, hx]
      exact .missing
  | binary op _ l r, ht => by
    rw [isExpression, Bool.and_eq_true] at ht
    rw [reads, List.filter_append, meaning]
    have hl := decided_meaning h l ht.1
    generalize l.reads.filter (fun r => r.1 ∉ bound) = as, l.meaning env = u at hl
    cases hl with
    | missing => exact .missing
    | done x =>
      have hr := decided_meaning h r ht.2
      generalize r.reads.filter (fun r => r.1 ∉ bound) = bs, r.meaning env = w at hr
      cases hr with
      | missing => exact .missing
      | done y => exact .done _
  | unary s _ t, ht => by
    rw [isExpression] at ht
    rw [reads, meaning]
    have h1 := decided_meaning h t ht
    generalize t.reads.filter (fun r => r.1 ∉ bound) = as, t.meaning env = u at h1
    cases h1 with
    | missing => exact .missing
    | done x => exact .done _

theorem decided_perform {s : Tree} {bound : List String} {p : Progress}
    (hs : s.isAssignment = true) (hp : Binds p.environment bound) :
    Decided (s.reads.filter fun r => r.1 ∉ bound) (s.perform p).1 ∧
      ((s.perform p).1 = .ok () → Binds (s.perform p).2.environment (s.target?.toList ++ bound)) := by
  cases s with
  | assign x q o v =>
    have hv := decided_meaning hp v hs
    rw [perform, reads]
    generalize v.reads.filter (fun r => r.1 ∉ bound) = as, v.meaning p.environment = u at hv
    cases hv with
    | missing =>
      refine ⟨.missing, fun h => ?_⟩
      cases h
    | done y => exact ⟨.done (), fun _ => binds_assign hp x y⟩
  | _ => cases hs

/-- **A run is decided by what is exposed**, and binds the names to which it assigns. -/
theorem decided_performAll (ss : List Tree) : ∀ (bound : List String) (p : Progress),
    Binds p.environment bound → (∀ s ∈ ss, s.isAssignment = true) →
      Decided (exposed bound ss) (performAll ss p).1 ∧
      ((performAll ss p).1 = .ok () → ∀ x, ((performAll ss p).2.environment.get? x).isSome = true ↔
        x ∈ targets ss ∨ x ∈ bound) := by
  induction ss with
  | nil =>
    intro bound p hp _
    refine ⟨.done (), fun _ x => (hp x).trans ?_⟩
    exact ⟨.inr, fun h => h.resolve_left List.not_mem_nil⟩
  | cons s ss ih =>
    intro bound p hp hs
    obtain ⟨hstep, hbinds⟩ := decided_perform (hs s List.mem_cons_self) hp
    rw [exposed, performAll]
    generalize s.reads.filter (fun r => r.1 ∉ bound) = as, s.perform p = o at hstep hbinds
    obtain ⟨u, q⟩ := o
    dsimp only at hstep hbinds
    cases hstep with
    | missing =>
      refine ⟨.missing, fun h => ?_⟩
      cases h
    | done _ =>
      obtain ⟨h1, h2⟩ := ih _ q (hbinds rfl) fun s h => hs s (List.mem_cons_of_mem _ h)
      refine ⟨h1, fun hok x => ?_⟩
      rw [h2 hok x, targets_cons, List.mem_append, List.mem_append, ← or_assoc]
      exact or_congr_left or_comm

/-! ### Places -/

mutual

theorem isAssignment_of_mem_steps : ∀ t : Tree, t.isStatement = true →
    ∀ s ∈ t.steps, s.isAssignment = true
  | assign x q p v, ht, s, hs => by
    cases List.mem_singleton.mp hs
    exact ht
  | block _ cs, ht, s, hs => by
    rw [isStatement, Bool.and_eq_true] at ht
    exact isAssignment_of_mem_stepsAll cs ht.2 s hs
  | empty, _, s, hs => by cases hs
  | number _ _, ht, _, _ => by cases ht
  | name _ _, ht, _, _ => by cases ht
  | binary _ _ _ _, ht, _, _ => by cases ht
  | unary _ _ _, ht, _, _ => by cases ht

theorem isAssignment_of_mem_stepsAll : ∀ ts : List Tree, areStatements ts = true →
    ∀ s ∈ stepsAll ts, s.isAssignment = true
  | [], _, s, hs => by cases hs
  | t :: ts, ht, s, hs => by
    rw [areStatements, Bool.and_eq_true] at ht
    rcases List.mem_append.mp hs with hs | hs
    · exact isAssignment_of_mem_steps t ht.1 s hs
    · exact isAssignment_of_mem_stepsAll ts ht.2 s hs

end

mutual

theorem reads_eq : ∀ t : Tree, t.reads = t.steps.flatMap reads
  | block _ cs => by rw [reads, steps, readsAll_eq cs]
  | empty => rfl
  | assign _ _ _ _ | number _ _ | name _ _ | binary _ _ _ _ | unary _ _ _ => by
    simp [steps]

theorem readsAll_eq : ∀ ts : List Tree, readsAll ts = (stepsAll ts).flatMap reads
  | [] => rfl
  | t :: ts => by rw [readsAll, stepsAll, List.flatMap_append, reads_eq t, readsAll_eq ts]

end

mutual

theorem tokens_steps_sublist : ∀ t : Tree, (t.steps.flatMap tokens).Sublist t.tokens
  | block _ cs => by
    rw [steps, tokens]
    exact (tokensAll_steps_sublist cs).cons _
  | empty => List.Sublist.slnil
  | assign _ _ _ _ | number _ _ | name _ _ | binary _ _ _ _ | unary _ _ _ => by
    simp [steps]

theorem tokensAll_steps_sublist : ∀ ts : List Tree,
    ((stepsAll ts).flatMap tokens).Sublist (tokensAll ts)
  | [] => List.Sublist.slnil
  | t :: ts => by
    rw [stepsAll, tokensAll, List.flatMap_append]
    exact (tokens_steps_sublist t).append (tokensAll_steps_sublist ts)

end

/-- The token of a name that is read. -/
abbrev readToken (r : String × Int) : Token := ⟨.name r.1, r.2⟩

mutual

theorem reads_sublist : ∀ t : Tree, (t.reads.map readToken).Sublist t.tokens
  | number _ _ => List.nil_sublist _
  | name _ _ => List.Sublist.refl _
  | binary _ _ l r => by
    rw [reads, tokens, List.map_append]
    exact (reads_sublist l).append ((reads_sublist r).cons _)
  | unary _ _ t => by
    rw [reads, tokens]
    exact (reads_sublist t).cons _
  | assign _ _ _ v => by
    rw [reads, tokens]
    exact ((reads_sublist v).cons _).cons _
  | block _ cs => by
    rw [reads, tokens]
    exact (readsAll_sublist cs).cons _
  | empty => List.Sublist.slnil

theorem readsAll_sublist : ∀ ts : List Tree, ((readsAll ts).map readToken).Sublist (tokensAll ts)
  | [] => List.Sublist.slnil
  | t :: ts => by
    rw [readsAll, tokensAll, List.map_append]
    exact (reads_sublist t).append (readsAll_sublist ts)

end

theorem exposed_sublist : ∀ (ss : List Tree) (bound : List String),
    (exposed bound ss).Sublist (ss.flatMap reads)
  | [], _ => List.Sublist.slnil
  | s :: ss, bound => by
    rw [exposed, List.flatMap_cons]
    exact List.filter_sublist.append (exposed_sublist ss _)

theorem mem_exposed_iff {r : String × Int} : ∀ (ss : List Tree) (bound : List String),
    r ∈ exposed bound ss ↔ ∃ pre s post, ss = pre ++ s :: post ∧ r ∈ s.reads ∧
      r.1 ∉ targets pre ∧ r.1 ∉ bound
  | [], bound => by
    constructor
    · intro h
      cases h
    · rintro ⟨pre, s, post, h, -⟩
      simp at h
  | s :: ss, bound => by
    rw [exposed, List.mem_append, List.mem_filter, mem_exposed_iff ss, decide_eq_true_iff]
    constructor
    · rintro (⟨hr, hb⟩ | ⟨pre, u, post, rfl, hr, hp, hb⟩)
      · exact ⟨[], s, ss, rfl, hr, List.not_mem_nil, hb⟩
      · rw [List.mem_append, not_or] at hb
        refine ⟨s :: pre, u, post, rfl, hr, ?_, hb.2⟩
        rw [targets_cons, List.mem_append, not_or]
        exact ⟨hb.1, hp⟩
    · rintro ⟨_ | ⟨u, pre⟩, v, post, h, hr, hp, hb⟩
      · obtain ⟨rfl, rfl⟩ := List.cons.inj h
        exact .inl ⟨hr, hb⟩
      · obtain ⟨rfl, rfl⟩ := List.cons.inj h
        rw [targets_cons, List.mem_append, not_or] at hp
        refine .inr ⟨pre, v, post, rfl, hr, hp.2, ?_⟩
        rw [List.mem_append, not_or]
        exact ⟨hp.1, hb⟩

theorem mem_targets_iff {x : String} {ss : List Tree} :
    x ∈ targets ss ↔ ∃ s ∈ ss, s.target? = some x :=
  List.mem_filterMap

theorem exists_token_of_target? {s : Tree} {x : String} (h : s.target? = some x) :
    ∃ k, k ∈ s.tokens := by
  cases s <;> cases h
  exact ⟨_, List.mem_cons_self⟩

/-- Earlier among the steps is earlier in the source. -/
theorem defines_iff {t s : Tree} {pre post : List Tree} {r : String × Int} (ht : t.Placed)
    (hs : t.steps = pre ++ s :: post) (hr : r ∈ s.reads) :
    t.Defines r.1 r.2 ↔ r.1 ∈ targets pre := by
  have hk : readToken r ∈ s.tokens := (reads_sublist s).subset (List.mem_map_of_mem hr)
  have hp := List.Pairwise.sublist (tokens_steps_sublist t) ht.increasing
  rw [hs, List.flatMap_append, List.flatMap_cons] at hp
  obtain ⟨-, hp1, hp2⟩ := List.pairwise_append.mp hp
  rw [mem_targets_iff]
  constructor
  · rintro ⟨a, ha, hx, hlt⟩
    rw [hs, List.mem_append, List.mem_cons] at ha
    rcases ha with ha | rfl | ha
    · exact ⟨a, ha, hx⟩
    · exact absurd (hlt _ hk) (lt_irrefl _)
    · -- An assignment further on has no token before what stands here.
      obtain ⟨k, hka⟩ := exists_token_of_target? hx
      have h1 := (List.pairwise_append.mp hp1).2.2 _ hk k (List.mem_flatMap_of_mem ha hka)
      have h2 := hlt k hka
      exact absurd (h1.trans h2) (lt_irrefl _)
  · rintro ⟨a, ha, hx⟩
    refine ⟨a, hs ▸ List.mem_append_left _ ha, hx, fun k hka => ?_⟩
    exact hp2 k (List.mem_flatMap_of_mem ha hka) _ (List.mem_append_left _ hk)

/-- **What is exposed is what no earlier assignment defines.** -/
theorem mem_exposed_iff_defines {t : Tree} {r : String × Int} (ht : t.Placed) :
    r ∈ exposed [] t.steps ↔ r ∈ t.reads ∧ ¬ t.Defines r.1 r.2 := by
  rw [mem_exposed_iff, reads_eq, List.mem_flatMap]
  constructor
  · rintro ⟨pre, s, post, hs, hr, hp, -⟩
    exact ⟨⟨s, by simp [hs], hr⟩, fun hd => hp ((defines_iff ht hs hr).mp hd)⟩
  · rintro ⟨⟨s, hs, hr⟩, hd⟩
    obtain ⟨pre, post, hs⟩ := List.append_of_mem hs
    exact ⟨pre, s, post, hs, hr, fun hp => hd ((defines_iff ht hs hr).mpr hp), List.not_mem_nil⟩

theorem le_of_exposed {t : Tree} {r : String × Int} {rs : List (String × Int)} (ht : t.Placed)
    (h : exposed [] t.steps = r :: rs) : ∀ r' ∈ exposed [] t.steps, r.2 ≤ r'.2 := by
  have hsub : (exposed [] t.steps).Sublist t.reads := reads_eq t ▸ exposed_sublist _ _
  have hp := List.Pairwise.sublist ((hsub.map readToken).trans (reads_sublist t)) ht.increasing
  rw [List.pairwise_map] at hp
  rw [h] at hp ⊢
  intro r' hr'
  rcases List.mem_cons.mp hr' with rfl | hr'
  · exact le_rfl
  · exact le_of_lt ((List.pairwise_cons.mp hp).1 r' hr')

/-! ### Numbers make no difference -/

mutual

/-- The tree with other numbers, chosen by their offsets. -/
def renumber (f : Int → Binary64) : Tree → Tree
  | number _ p => number (f p) p
  | name s p => name s p
  | binary op p l r => binary op p (l.renumber f) (r.renumber f)
  | unary s p t => unary s p (t.renumber f)
  | assign x q p v => assign x q p (v.renumber f)
  | block p cs => block p (renumberAll f cs)
  | empty => empty

/-- Trees that stand side by side, with other numbers. -/
def renumberAll (f : Int → Binary64) : List Tree → List Tree
  | [] => []
  | t :: ts => t.renumber f :: renumberAll f ts

end

/-- The same names have a value. -/
def Alike (a b : Environment) : Prop := ∀ x, (a.get? x).isSome = (b.get? x).isSome

theorem alike_assign {a b : Environment} (h : Alike a b) (x : String) (v w : Binary64) :
    Alike (a.assign x v) (b.assign x w) := by
  intro y
  rw [Environment.get?_assign, Environment.get?_assign]
  split
  · rfl
  · exact h y

/-- The same fault, or values that may differ. -/
inductive Likewise {ε α β : Type} : Except ε α → Except ε β → Prop
  | error (e) : Likewise (.error e) (.error e)
  | ok (a b) : Likewise (.ok a) (.ok b)

theorem likewise_value {a b : Environment} (h : Alike a b) (f : Int → Binary64) : ∀ n t,
    Likewise (value a n t) (value b n (t.renumber f))
  | 0, _ => .error _
  | n + 1, number x p => .ok _ _
  | n + 1, name s p => by
    have hs := h s
    simp only [renumber, value, Environment.lookup]
    generalize a.get? s = u, b.get? s = w at hs
    rcases u with _ | x <;> rcases w with _ | y
    · exact .error _
    · cases hs
    · cases hs
    · exact .ok _ _
  | n + 1, binary op p l r => by
    simp only [renumber, value]
    have hl := likewise_value h f n l
    generalize value a n l = u, value b n (l.renumber f) = u' at hl
    cases hl with
    | error e => exact .error e
    | ok x x' =>
      have hr := likewise_value h f n r
      generalize value a n r = w, value b n (r.renumber f) = w' at hr
      cases hr with
      | error e => exact .error e
      | ok y y' => exact .ok _ _
  | n + 1, unary s p t => by
    simp only [renumber, value]
    have ht := likewise_value h f n t
    generalize value a n t = u, value b n (t.renumber f) = u' at ht
    cases ht with
    | error e => exact .error e
    | ok x x' => exact .ok _ _
  | n + 1, assign _ _ _ _ => .error _
  | n + 1, block _ _ => .error _
  | n + 1, empty => .error _

/-- Both ended in the same way, with values for the same names. -/
def Abreast (a b : Outcome) : Prop := a.1 = b.1 ∧ Alike a.2.environment b.2.environment

theorem abreast_executeEach {n : Nat} {f : Int → Binary64}
    (h : ∀ t p q, Alike p.environment q.environment →
      Abreast (execute n t p) (execute n (t.renumber f) q)) :
    ∀ (ts : List Tree) (p q : Progress), Alike p.environment q.environment →
      Abreast (executeEach (execute n) ts p) (executeEach (execute n) (renumberAll f ts) q)
  | [], p, q, hp => ⟨rfl, hp⟩
  | t :: ts, p, q, hp => by
    obtain ⟨h1, h2⟩ := h t p q hp
    simp only [renumberAll, executeEach]
    generalize execute n t p = u, execute n (t.renumber f) q = w at h1 h2
    rcases u with ⟨e | _, p'⟩ <;> rcases w with ⟨e' | _, q'⟩
    · exact ⟨h1, h2⟩
    · cases h1
    · cases h1
    · exact abreast_executeEach h ts p' q' h2

theorem abreast_execute (f : Int → Binary64) : ∀ (n : Nat) (t : Tree) (p q : Progress),
    Alike p.environment q.environment → Abreast (execute n t p) (execute n (t.renumber f) q)
  | 0, _, p, q, hp => ⟨rfl, hp⟩
  | n + 1, block _ cs, p, q, hp => by
    rw [renumber]
    exact abreast_executeEach (abreast_execute f n) cs p q hp
  | n + 1, assign x _ _ v, p, q, hp => by
    rw [renumber]
    simp only [execute]
    have hv := likewise_value hp f n v
    generalize value p.environment n v = u, value q.environment n (v.renumber f) = w at hv
    cases hv with
    | error e => exact ⟨rfl, hp⟩
    | ok y y' => exact ⟨rfl, alike_assign hp x y y'⟩
  | n + 1, empty, p, q, hp => ⟨rfl, hp⟩
  | n + 1, number _ _, p, q, hp => ⟨rfl, hp⟩
  | n + 1, name _ _, p, q, hp => ⟨rfl, hp⟩
  | n + 1, binary _ _ _ _, p, q, hp => ⟨rfl, hp⟩
  | n + 1, unary _ _ _, p, q, hp => ⟨rfl, hp⟩

end Tree

open BlockCalc.Tree in
/-- **Numbers make no difference** to whether there is a result, and to the fault if there is one. -/
theorem runProgram_renumber (limit : Nat) (r : String) (t : Tree) (f : Int → Binary64) :
    (runProgram limit r (t.renumber f)).result.map Option.isSome =
      (runProgram limit r t).result.map Option.isSome := by
  have h := abreast_execute f limit t (Progress.start .empty) (Progress.start .empty) fun _ => rfl
  unfold runProgram
  generalize execute limit t (Progress.start .empty) = u,
    execute limit (t.renumber f) (Progress.start .empty) = w at h
  obtain ⟨h1, h2⟩ := h
  rcases u with ⟨e | _, p⟩ <;> rcases w with ⟨e' | _, q⟩
  · cases h1
    rfl
  · cases h1
  · cases h1
  · exact congrArg Except.ok (h2 r).symm

/-! ### Programs -/

open BlockCalc.Tree in
/-- A program of statements is decided by what is exposed in an empty environment, and has a result
if it assigns to the result variable. -/
theorem decided_runProgram (limit : Nat) (r : String) {t : Tree} (ht : t.isStatement = true)
    (hd : (runProgram limit r t).result ≠ .error .evaluationTooDeep) :
    Decided (exposed [] t.steps) (runProgram limit r t).result ∧
      ∀ v, (runProgram limit r t).result = .ok v → (v = none ↔ r ∉ targets t.steps) := by
  have hbinds : Binds (Progress.start Environment.empty).environment [] := by
    intro x
    constructor <;> intro h <;> cases h
  obtain ⟨hdec, hnames⟩ := decided_performAll t.steps [] (Progress.start .empty) hbinds
    (isAssignment_of_mem_steps t ht)
  rw [(runProgram_eq limit r t).resolve_left hd]
  generalize performAll t.steps (Progress.start .empty) = o at hdec hnames
  generalize exposed [] t.steps = es at hdec
  obtain ⟨u, p⟩ := o
  dsimp only at hdec hnames
  cases hdec with
  | missing => exact ⟨.missing, nofun⟩
  | done _ =>
    refine ⟨.done _, fun v hv => ?_⟩
    cases hv
    have hr := hnames rfl r
    rw [← Option.not_isSome_iff_eq_none, hr]
    simp

open BlockCalc.Tree in
/-- **Definition before use decides every run.** A program that parses runs through exactly if every
name it reads is assigned to by an assignment that ends before; otherwise it fails for the first
name for which this is not so. It then has a result exactly if it assigns to the result variable.
Numbers make no difference to any of this. -/
theorem interpret_iff_defined (limit : Nat) (source : List Char) (r : String) (t : Tree)
    (ht : parseProgram limit source none = .ok t)
    (hd : interpret limit source r ≠ .error (Fault.of .evaluationTooDeep)) :
    ((∃ v, interpret limit source r = .ok v) ↔ ∀ x p, (x, p) ∈ t.reads → t.Defines x p) ∧
    (∀ e, interpret limit source r = .error e → ∃ x p, (x, p) ∈ t.reads ∧ ¬ t.Defines x p ∧
      (∀ y q, (y, q) ∈ t.reads → ¬ t.Defines y q → p ≤ q) ∧ e = Fault.of (.unbound x)) ∧
    (∀ v, interpret limit source r = .ok v →
      (v = none ↔ ∀ s ∈ t.steps, s.target? ≠ some r)) ∧
    ∀ f, (runProgram limit r (t.renumber f)).result.map Option.isSome =
      (runProgram limit r t).result.map Option.isSome := by
  obtain ⟨hshape, hplaced⟩ := placed_of_parseProgram ht
  have hi := interpret_of_parse ht r
  obtain ⟨hdec, hnone⟩ := decided_runProgram limit r hshape
    fun h => hd (by rw [hi, h]; rfl)
  have hexp : ∀ x p, (x, p) ∈ exposed [] t.steps ↔ (x, p) ∈ t.reads ∧ ¬ t.Defines x p :=
    fun x p => mem_exposed_iff_defines hplaced
  rw [← and_assoc, ← and_assoc]
  refine ⟨?_, runProgram_renumber limit r t⟩
  rw [hi, and_assoc]
  generalize (runProgram limit r t).result = res at hdec hnone
  generalize hes : exposed [] t.steps = es at hdec
  cases hdec with
  | done v =>
    refine ⟨⟨fun _ x p hx => ?_, fun _ => ⟨v, rfl⟩⟩, fun e he => ?_, fun w hw => ?_⟩
    · by_contra hn
      have := (hexp x p).mpr ⟨hx, hn⟩
      rw [hes] at this
      cases this
    · cases he
    · cases hw
      rw [hnone v rfl, mem_targets_iff]
      exact ⟨fun h s hs hx => h ⟨s, hs, hx⟩, fun h ⟨s, hs, hx⟩ => h s hs hx⟩
  | @missing a as =>
    obtain ⟨x, q⟩ := a
    have hx := (hexp x q).mp (by rw [hes]; exact List.mem_cons_self)
    refine ⟨⟨fun h => ?_, fun h => absurd (h x q hx.1) hx.2⟩, fun e he => ?_, fun v hv => ?_⟩
    · obtain ⟨v, hv⟩ := h
      cases hv
    · cases he
      refine ⟨x, q, hx.1, hx.2, fun y o hy hn => ?_, rfl⟩
      exact le_of_exposed hplaced hes (y, o) ((hexp y o).mpr ⟨hy, hn⟩)
    · cases hv

/-- An assignment in an inner block counts for what follows the block, and an assignment does not
count for itself. -/
theorem interpret_iff_defined_blocks :
    (∃ t, parseProgram 9 "{ {x = 2}; y = x }".toList none = .ok t ∧
      ∀ x p, (x, p) ∈ t.reads → t.Defines x p) ∧
    ∃ t p, parseProgram 9 "{ x = x }".toList none = .ok t ∧
      ("x", p) ∈ t.reads ∧ ¬ t.Defines "x" p := by
  constructor
  · have hp : (parseProgram 9 "{ {x = 2}; y = x }".toList none).toOption.isSome = true := by
      decide +kernel
    have hi : (interpret 9 "{ {x = 2}; y = x }".toList "y").toOption.isSome = true := by
      decide +kernel
    rcases ht : parseProgram 9 "{ {x = 2}; y = x }".toList none with f | t
    · rw [ht] at hp
      cases hp
    · rcases hv : interpret 9 "{ {x = 2}; y = x }".toList "y" with f | v
      · rw [hv] at hi
        cases hi
      · have h := interpret_iff_defined 9 _ "y" t ht (by rw [hv]; nofun)
        exact ⟨t, rfl, h.1.mp ⟨v, hv⟩⟩
  · have hp : (parseProgram 9 "{ x = x }".toList none).toOption.isSome = true := by
      decide +kernel
    have hi : interpret 9 "{ x = x }".toList "x" = .error (Fault.of (.unbound "x")) := by
      decide +kernel
    rcases ht : parseProgram 9 "{ x = x }".toList none with f | t
    · rw [ht] at hp
      cases hp
    · have h := interpret_iff_defined 9 _ "x" t ht (by rw [hi]; nofun)
      obtain ⟨x, p, hx, hn, -, he⟩ := h.2.1 _ hi
      cases he
      exact ⟨t, p, rfl, hx, hn⟩

end BlockCalc
