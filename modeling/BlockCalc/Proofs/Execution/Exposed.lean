import BlockCalc.Proofs.DefinedBeforeUse
import BlockCalc.Proofs.Evaluation.Ends
import BlockCalc.Proofs.Execution.Flat

/-! # What execution depends on

A program reads some names before it assigns to them: these it *needs* from the environment in which
it starts. All others it either assigns to before it reads them, or never reads. So two executions that
start with the same values of the needed names go together, whatever the other names have for values:
each step reads the same values, assigns the same value, or fails for the same name.

The invariant is agreement on what the steps that are left still expose. A step that assigns to a name
takes it out of what is exposed, and gives it the same value on both sides; everything else that is
exposed later was exposed before (`exposes_append_right`).

* `together_execute`: two executions go together if they agree on what is exposed.
* `ends_execute`: what is exposed and has no value decides how an execution ends.
* `execution_by_needs`: both for the programs that are parsed. -/

namespace BlockCalc

namespace Environment

/-- Names of a set have the same values in both environments, or none in both. -/
def Agree (S : String → Prop) (a b : Environment) : Prop := ∀ x, S x → a.get? x = b.get? x

/-- A name that is assigned has a value that does not depend on the environment before. -/
theorem exists_get?_assignAll {x : String} : ∀ {vs : List (String × Binary64)},
    x ∈ vs.map Prod.fst → ∃ y, ∀ env : Environment, (env.assignAll vs).get? x = some y
  | [], h => by simp at h
  | (z, v) :: vs, h => by
    by_cases hx : x ∈ vs.map Prod.fst
    · obtain ⟨y, hy⟩ := exists_get?_assignAll hx
      exact ⟨y, fun env => hy (env.assign z v)⟩
    · have hz : x = z := by simpa [hx] using h
      refine ⟨v, fun env => ?_⟩
      have hkept := get?_assignAll vs (env.assign z v) hx
      rw [get?_assign, if_pos hz.symm] at hkept
      exact hkept

/-- The same assignments keep two environments together where they were, and bring them together at
the names that are assigned. -/
theorem get?_assignAll_congr {a b : Environment} {vs : List (String × Binary64)} {x : String}
    (h : x ∉ vs.map Prod.fst → a.get? x = b.get? x) :
    (a.assignAll vs).get? x = (b.assignAll vs).get? x := by
  by_cases hx : x ∈ vs.map Prod.fst
  · obtain ⟨y, hy⟩ := exists_get?_assignAll hx
    rw [hy a, hy b]
  · rw [get?_assignAll vs a hx, get?_assignAll vs b hx, h hx]

theorem isSome_lookupIn (x : String) : ∀ l : List (String × Binary64),
    (lookupIn x l).isSome = true ↔ x ∈ l.map Prod.fst
  | [] => by simp [lookupIn]
  | (z, v) :: rest => by
    have ih := isSome_lookupIn x rest
    by_cases hz : z = x
    · simp [lookupIn, hz]
    · have hx : x ≠ z := Ne.symm hz
      simp [lookupIn, hz, hx, ih]

end Environment

open Environment (Agree)

namespace Tree

theorem binds_names (env : Environment) : Binds env env.names :=
  fun x => Environment.isSome_lookupIn x env.entries

/-! ### What steps expose -/

/-- A name that steps read before one of them assigns to it. -/
def Exposes (ss : List Tree) (x : String) : Prop := ∃ p, (x, p) ∈ exposed [] ss

theorem targets_append (ss us : List Tree) : targets (ss ++ us) = targets ss ++ targets us :=
  List.filterMap_append

theorem exposes_append_left {ss : List Tree} {x : String} (us : List Tree) (h : Exposes ss x) :
    Exposes (ss ++ us) x := by
  obtain ⟨p, hp⟩ := h
  obtain ⟨pre, s, post, rfl, hr, hpre, hnil⟩ := (mem_exposed_iff ss []).mp hp
  refine ⟨p, (mem_exposed_iff _ []).mpr ⟨pre, s, post ++ us, ?_, hr, hpre, hnil⟩⟩
  simp

theorem exposes_append_right {ss us : List Tree} {x : String} (hx : x ∉ targets ss)
    (h : Exposes us x) : Exposes (ss ++ us) x := by
  obtain ⟨p, hp⟩ := h
  obtain ⟨pre, s, post, rfl, hr, hpre, hnil⟩ := (mem_exposed_iff us []).mp hp
  have hboth : x ∉ targets (ss ++ pre) := by
    rw [targets_append, List.mem_append, not_or]
    exact ⟨hx, hpre⟩
  refine ⟨p, (mem_exposed_iff _ []).mpr ⟨ss ++ pre, s, post, ?_, hr, hboth, hnil⟩⟩
  simp

theorem exposes_assign {x y : String} {q o p : Int} {v : Tree} (h : (y, p) ∈ v.reads) :
    Exposes [assign x q o v] y := by
  refine ⟨p, ?_⟩
  simp [exposed, reads, h]

theorem mem_reads_of_mem_ends {s : String} {p : Int} : ∀ t : Tree, name s p ∈ t.ends →
    (s, p) ∈ t.reads
  | number _ _, h => by simp [ends] at h
  | name _ _, h => by simpa [ends, reads] using h
  | binary _ _ l r, h => by
    rw [ends, List.mem_append] at h
    rw [reads, List.mem_append]
    rcases h with h | h
    · exact .inl (mem_reads_of_mem_ends l h)
    · exact .inr (mem_reads_of_mem_ends r h)
  | unary _ _ t, h => mem_reads_of_mem_ends t h
  | assign _ _ _ _, h => by simp [ends] at h
  | block _ _, h => by simp [ends] at h
  | empty, h => by simp [ends] at h

/-! ### Two executions -/

/-- Two executions of steps ended in the same way, after the same assignments; if they succeeded, these
are the assignments of all steps. -/
inductive Together (ss : List Tree) (p q : Progress) : Outcome → Outcome → Prop
  | finished {done} : done.map Prod.fst = targets ss →
      Together ss p q (.ok (), p.assignAll done) (.ok (), q.assignAll done)
  | stopped {e done} : Together ss p q (.error e, p.assignAll done) (.error e, q.assignAll done)

theorem together_nil (p q : Progress) : Together [] p q (.ok (), p) (.ok (), q) := by
  have h : Together [] p q (.ok (), p.assignAll []) (.ok (), q.assignAll []) := .finished rfl
  rwa [Progress.assignAll_nil, Progress.assignAll_nil] at h

theorem together_error (ss : List Tree) (p q : Progress) (e : Stop Cause) :
    Together ss p q (.error e, p) (.error e, q) := by
  have h : Together ss p q (.error e, p.assignAll []) (.error e, q.assignAll []) := .stopped
  rwa [Progress.assignAll_nil, Progress.assignAll_nil] at h

/-- From the start on, the journal tells what both executions assigned. -/
theorem Together.from_start {ss : List Tree} {a b : Environment} {u v : Outcome}
    (h : Together ss (Progress.start a) (Progress.start b) u v) :
    v = (u.1, ⟨b.assignAll u.2.journal, u.2.journal⟩) := by
  cases h with
  | finished _ => rfl
  | stopped => rfl

theorem Together.after {ss us : List Tree} {p q : Progress} {done : List (String × Binary64)}
    {u v : Outcome} (hdone : done.map Prod.fst = targets ss)
    (h : Together us (p.assignAll done) (q.assignAll done) u v) :
    Together (ss ++ us) p q u v := by
  cases h with
  | @finished later hlater =>
    rw [← Progress.assignAll_append, ← Progress.assignAll_append]
    refine .finished ?_
    rw [List.map_append, hdone, hlater, targets_append]
  | stopped =>
    rw [← Progress.assignAll_append, ← Progress.assignAll_append]
    exact .stopped

theorem together_executeEach {n : Nat}
    (h : ∀ t p q, Agree (Exposes t.steps) p.environment q.environment →
      Together t.steps p q (execute n t p) (execute n t q)) :
    ∀ (ts : List Tree) (p q : Progress),
      Agree (Exposes (stepsAll ts)) p.environment q.environment →
      Together (stepsAll ts) p q (executeEach (execute n) ts p) (executeEach (execute n) ts q)
  | [], p, q, _ => together_nil p q
  | t :: ts, p, q, hpq => by
    rw [stepsAll] at hpq ⊢
    have hfirst := h t p q fun x hx => hpq x (exposes_append_left _ hx)
    simp only [executeEach]
    generalize execute n t p = u, execute n t q = v at hfirst
    cases hfirst with
    | stopped => exact .stopped
    | @finished done hdone =>
      -- A name that is exposed later got the same value by now, or was exposed from the start.
      have hlater : Agree (Exposes (stepsAll ts)) (p.assignAll done).environment
          (q.assignAll done).environment := by
        intro x hx
        refine Environment.get?_assignAll_congr fun hnot => ?_
        rw [hdone] at hnot
        exact hpq x (exposes_append_right hnot hx)
      exact (together_executeEach h ts _ _ hlater).after hdone

/-- **Two executions go together** if they agree on what is exposed. -/
theorem together_execute : ∀ (n : Nat) (t : Tree) (p q : Progress),
    Agree (Exposes t.steps) p.environment q.environment →
    Together t.steps p q (execute n t p) (execute n t q)
  | 0, _, p, q, _ => together_error _ p q .depth
  | n + 1, block _ cs, p, q, h => together_executeEach (together_execute n) cs p q h
  | n + 1, assign x o k v, p, q, h => by
    have hreads : ∀ s i, name s i ∈ v.ends → p.environment.get? s = q.environment.get? s :=
      fun s i hs => h s (exposes_assign (mem_reads_of_mem_ends v hs))
    have hvalue := value_congr n v hreads
    simp only [execute, hvalue]
    rcases value q.environment n v with e | y
    · exact together_error _ p q e
    · have hone : Together [assign x o k v] p q (.ok (), p.assignAll [(x, y)])
          (.ok (), q.assignAll [(x, y)]) := .finished rfl
      exact hone
  | _ + 1, empty, p, q, _ => together_nil p q
  | _ + 1, number _ _, p, q, _ => together_error _ p q _
  | _ + 1, name _ _, p, q, _ => together_error _ p q _
  | _ + 1, binary _ _ _ _, p, q, _ => together_error _ p q _
  | _ + 1, unary _ _ _, p, q, _ => together_error _ p q _

/-! ### How an execution ends -/

/-- What is exposed decides how an execution ends: all of it has values, or one name has none. -/
inductive Ends (env : Environment) (ss : List Tree) : Except (Stop Cause) Unit → Prop
  | bound : (∀ x, Exposes ss x → (env.get? x).isSome = true) → Ends env ss (.ok ())
  | unbound {x} : Exposes ss x → env.get? x = none → Ends env ss (.error (.fault (.unbound x)))

theorem mem_exposed_names {env : Environment} {ss : List Tree} {r : String × Int} :
    r ∈ exposed env.names ss ↔ r ∈ exposed [] ss ∧ env.get? r.1 = none := by
  have hnone : r.1 ∉ env.names ↔ env.get? r.1 = none := by
    rw [← binds_names env r.1, Option.not_isSome_iff_eq_none]
  rw [mem_exposed_iff, mem_exposed_iff, hnone]
  constructor
  · rintro ⟨pre, s, post, hs, hr, hpre, hget⟩
    exact ⟨⟨pre, s, post, hs, hr, hpre, List.not_mem_nil⟩, hget⟩
  · rintro ⟨⟨pre, s, post, hs, hr, hpre, -⟩, hget⟩
    exact ⟨pre, s, post, hs, hr, hpre, hget⟩

/-- **A name without a value ends an execution**, if it is exposed, and nothing else does. -/
theorem ends_execute {n : Nat} {t : Tree} {env : Environment} (ht : t.isStatement = true)
    (h : (execute n t (Progress.start env)).1 ≠ .error .depth) :
    Ends env t.steps (execute n t (Progress.start env)).1 := by
  have hdecided := (decided_performAll t.steps env.names (Progress.start env) (binds_names env)
    (isAssignment_of_mem_steps t ht)).1
  rw [(execute_eq n t (Progress.start env)).resolve_left h, unlimited]
  generalize hes : exposed env.names t.steps = es, (performAll t.steps (Progress.start env)).1 = o
    at hdecided
  cases hdecided with
  | done _ =>
    refine .bound fun x hx => ?_
    obtain ⟨p, hp⟩ := hx
    by_contra hnone
    rw [Bool.not_eq_true, Option.isSome_eq_false_iff, Option.isNone_iff_eq_none] at hnone
    have hmem := mem_exposed_names.mpr ⟨hp, hnone⟩
    rw [hes] at hmem
    cases hmem
  | @missing r rs =>
    have hmem : r ∈ exposed env.names t.steps := by
      rw [hes]
      exact List.mem_cons_self
    obtain ⟨hr, hnone⟩ := mem_exposed_names.mp hmem
    exact .unbound ⟨r.2, hr⟩ hnone

/-- A name that is read where no assignment to it is complete. -/
def Needs (t : Tree) (x : String) : Prop := ∃ p, (x, p) ∈ t.reads ∧ ¬ t.Defines x p

theorem needs_iff_exposes {t : Tree} (ht : t.Placed) {x : String} :
    t.Needs x ↔ Exposes t.steps x :=
  exists_congr fun _ => (mem_exposed_iff_defines ht).symm

theorem exists_account {n : Nat} {t : Tree} {env : Environment}
    (h : (execute n t (Progress.start env)).1 ≠ .error .depth) :
    ∃ r done, execute n t (Progress.start env) = (r, ⟨env.assignAll done, done⟩) ∧
      Account n env t.steps r done := by
  have hflat := executeEach_steps t (Progress.start env) (Nat.le_refl n) h
  rw [← hflat] at h ⊢
  obtain ⟨done, haccount, hprogress⟩ := account_executeEach t.steps (Progress.start env)
    (isStep_of_mem_steps t) h
  exact ⟨_, done, Prod.ext rfl hprogress, haccount⟩

end Tree

open BlockCalc.Tree

/-- **Execution depends on the needed names alone.** A program needs the names that it reads where no
assignment to them is complete. In two environments that agree on these it ends in the same way, after
the same assignments: with success exactly if all needed names have a value, and otherwise for a needed
name that has none. Names that were assigned have the same value in both environments afterwards, and
all others have what they had in their own. -/
theorem execution_by_needs {limit n : Nat} {source : List Char} {file : Option String} {t : Tree}
    {a b : Environment} (ht : parseProgram limit source file = .ok t) (hab : Agree t.Needs a b)
    (hdepth : (t.execute n (Progress.start a)).1 ≠ .error .depth) :
    ∃ r done, t.execute n (Progress.start a) = (r, ⟨a.assignAll done, done⟩) ∧
      t.execute n (Progress.start b) = (r, ⟨b.assignAll done, done⟩) ∧
      Account n a t.steps r done ∧
      (r = .ok () ↔ ∀ x, t.Needs x → (a.get? x).isSome = true) ∧
      (∀ e, r = .error e → ∃ x, t.Needs x ∧ a.get? x = none ∧ e = .fault (.unbound x)) ∧
      (∀ x ∈ done.map Prod.fst, ∃ y, (a.assignAll done).get? x = some y ∧
        (b.assignAll done).get? x = some y) ∧
      ∀ x, x ∉ done.map Prod.fst → (a.assignAll done).get? x = a.get? x ∧
        (b.assignAll done).get? x = b.get? x := by
  obtain ⟨hshape, hplaced⟩ := placed_of_parseProgram ht
  have hagree : Agree (Exposes t.steps) a b :=
    fun x hx => hab x ((needs_iff_exposes hplaced).mpr hx)
  have htogether := together_execute n t (Progress.start a) (Progress.start b) hagree
  have hends := ends_execute hshape hdepth
  obtain ⟨r, done, ha, haccount⟩ := exists_account hdepth
  have hb := htogether.from_start
  rw [ha] at hends hb
  refine ⟨r, done, ha, hb, haccount, ?_, ?_, ?_, ?_⟩
  · simp only [needs_iff_exposes hplaced]
    cases hends with
    | bound h => exact ⟨fun _ => h, fun _ => rfl⟩
    | unbound hx hnone =>
      refine ⟨nofun, fun h => ?_⟩
      have hsome := h _ hx
      rw [hnone] at hsome
      cases hsome
  · rintro e rfl
    cases hends with
    | unbound hx hnone => exact ⟨_, (needs_iff_exposes hplaced).mpr hx, hnone, rfl⟩
  · intro x hx
    obtain ⟨y, hy⟩ := Environment.exists_get?_assignAll hx
    exact ⟨y, hy a, hy b⟩
  · intro x hx
    exact ⟨Environment.get?_assignAll done a hx, Environment.get?_assignAll done b hx⟩

/-- A program that needs `y`, `u` and `v`, and fails for `v` after the same two assignments in two
environments with other names besides. -/
theorem execution_by_needs_failure : ∃ t done,
    parseProgram depthLimit "\x7b x = y; \x7b y = x + u \x7d; z = y / v \x7d".toList none = .ok t ∧
    (∀ x, t.Needs x → x ∈ ["y", "u", "v"]) ∧ done.map Prod.fst = ["x", "y"] ∧
    t.execute depthLimit (Progress.start ⟨[("y", .infinity false), ("u", .nan), ("z", .nan)]⟩) =
      (.error (.fault (.unbound "v")), ⟨Environment.assignAll
        ⟨[("y", .infinity false), ("u", .nan), ("z", .nan)]⟩ done, done⟩) ∧
    t.execute depthLimit (Progress.start ⟨[("w", .nan), ("u", .nan), ("y", .infinity false)]⟩) =
      (.error (.fault (.unbound "v")), ⟨Environment.assignAll
        ⟨[("w", .nan), ("u", .nan), ("y", .infinity false)]⟩ done, done⟩) := by
  obtain ⟨t, ht, hmap⟩ := exists_ok_of_map
    (r := parseProgram depthLimit "\x7b x = y; \x7b y = x + u \x7d; z = y / v \x7d".toList none)
    (f := fun t =>
      let o := t.execute depthLimit
        (Progress.start ⟨[("y", .infinity false), ("u", .nan), ("z", .nan)]⟩)
      ((exposed [] t.steps).map Prod.fst, o.2.journal.map Prod.fst, o.1))
    (b := (["y", "u", "v"], ["x", "y"], .error (.fault (.unbound "v")))) (by decide +kernel)
  obtain ⟨hexposed, hrun⟩ := Prod.mk.inj hmap
  obtain ⟨hjournal, houtcome⟩ := Prod.mk.inj hrun
  have hneeds : ∀ x, t.Needs x → x ∈ ["y", "u", "v"] := by
    intro x hx
    obtain ⟨p, hp⟩ := (needs_iff_exposes (placed_of_parseProgram ht).2).mp hx
    rw [← hexposed]
    exact List.mem_map_of_mem hp
  have hagree : Agree t.Needs ⟨[("y", .infinity false), ("u", .nan), ("z", .nan)]⟩
      ⟨[("w", .nan), ("u", .nan), ("y", .infinity false)]⟩ := by
    intro x hx
    have hmem := hneeds x hx
    simp only [List.mem_cons, List.not_mem_nil, or_false] at hmem
    rcases hmem with rfl | rfl | rfl <;> rfl
  obtain ⟨r, done, ha, hb, -⟩ := execution_by_needs ht hagree (n := depthLimit)
    (by rw [houtcome]; nofun)
  rw [ha] at houtcome hjournal
  obtain rfl : r = .error (.fault (.unbound "v")) := houtcome
  exact ⟨t, done, ht, hneeds, hjournal, ha, hb⟩

end BlockCalc
