import BlockCalc.Proofs.Checked.Nodes
import BlockCalc.Proofs.Number.Numeral
import BlockCalc.Proofs.Tree.Tokens
import BlockCalc.Session

/-! # Only faults of the language

Whatever a text is, interpreting it or evaluating it as an expression gives a result or one of six
faults. This takes four layers that fit together: what a text may hold that is no token, what the
parser refuses, which nodes it puts in the place of expressions and statements, and what evaluation
refuses of these.

All else that could go wrong is checked here, and never does. Nodes that keep their tokens are built
with every check (`Checked.program`), and `Node.value` and `Node.execute` ask the tokens for their
payload, look operations up and make sure of the target of an assignment. `float?` reads a literal
strictly.

* `Node.value_eq`, `Node.execute_eq`: evaluation with every check is evaluation.
* `only_language_faults`: texts fail for the six causes of `Cause.ofLanguage`. -/

namespace BlockCalc

/-! ### Evaluation with every check -/

/-- Why evaluation of a node fails: for something that is reported, for a kind of token that is in no
table of operations, or for a target that is no name. -/
inductive Alarm (ε : Type)
  | known (e : ε)
  | noOperation (kind : Kind)
  | noTarget (shape : Shape)

/-- The same alarm, with something else reported. -/
def Alarm.map {ε ζ : Type} (f : ε → ζ) : Alarm ε → Alarm ζ
  | known e => known (f e)
  | noOperation k => noOperation k
  | noTarget s => noTarget s

namespace Node

/-- What a token is asked for. -/
def payload {α : Type} (r : Except Cause α) : Except (Alarm (Stop Cause)) α :=
  r.mapError fun c => .known (.fault c)

/-- The value of an expression within a depth limit, with every check. -/
def value (env : Environment) : Nat → Node → Except (Alarm (Stop Cause)) Binary64
  | 0, _ => .error (.known .depth)
  | _ + 1, number k => payload k.number?
  | _ + 1, name k =>
    match payload k.name? with
    | .error a => .error a
    | .ok x => payload (env.lookup x)
  | n + 1, binary k l r =>
    match value env n l with
    | .error a => .error a
    | .ok x =>
      match value env n r with
      | .error a => .error a
      | .ok y =>
        match Operator.ofKind? k.kind with
        | none => .error (.noOperation k.kind)
        | some op => .ok (op.apply x y)
  | n + 1, unary k m =>
    match value env n m with
    | .error a => .error a
    | .ok x =>
      match Sign.ofKind? k.kind with
      | none => .error (.noOperation k.kind)
      | some s => .ok (s.apply x)
  | _ + 1, m => .error (.known (.fault (.notExpression m.shape.label)))

/-- The name that is assigned to. -/
def targetName : Node → Except (Alarm (Stop Cause)) String
  | name k => payload k.name?
  | m => .error (.noTarget m.shape)

/-- Executes statements one after the other, up to the first that fails. -/
def executeEach (step : Node → Progress → Except (Alarm (Stop Cause)) Unit × Progress) :
    List Node → Progress → Except (Alarm (Stop Cause)) Unit × Progress
  | [], p => (.ok (), p)
  | m :: ms, p =>
    match step m p with
    | (.ok (), q) => executeEach step ms q
    | (.error a, q) => (.error a, q)

/-- Executes a statement within a depth limit, with every check. -/
def execute : Nat → Node → Progress → Except (Alarm (Stop Cause)) Unit × Progress
  | 0, _, p => (.error (.known .depth), p)
  | n + 1, block _ ms, p => executeEach (execute n) ms p
  | n + 1, assign _ l r, p =>
    match value p.environment n r with
    | .error a => (.error a, p)
    | .ok y =>
      match l.targetName with
      | .error a => (.error a, p)
      | .ok x => (.ok (), p.assign x y)
  | _ + 1, empty, p => (.ok (), p)
  | _ + 1, m, p => (.error (.known (.fault (.notStatement m.shape.label))), p)

/-- **With every check an expression has the value of its tree.** -/
theorem value_eq (env : Environment) : ∀ (n : Nat) {m : Node} {t : Tree}, m.Builds t →
    m.value env n = (t.value env n).mapError .known
  | 0, m, t, _ => rfl
  | n + 1, number k, t, h => by
    obtain ⟨x, hx, rfl⟩ := builds_number.mp h
    rw [value, Token.number?, hx]
    rfl
  | n + 1, name k, t, h => by
    obtain ⟨x, hx, rfl⟩ := builds_name.mp h
    rw [value, Token.name?, hx, Tree.value]
    dsimp only [payload, Except.mapError]
    rcases env.lookup x with c | y <;> rfl
  | n + 1, binary k l r, t, h => by
    obtain ⟨op, u, v, hk, hl, hr, rfl⟩ := builds_binary.mp h
    rw [value, Tree.value, value_eq env n hl, value_eq env n hr, hk]
    rcases u.value env n with e | x
    · rfl
    · rcases v.value env n with e | y <;> rfl
  | n + 1, unary k m, t, h => by
    obtain ⟨s, u, hk, hm, rfl⟩ := builds_unary.mp h
    rw [value, Tree.value, value_eq env n hm, hk]
    rcases u.value env n with e | x <;> rfl
  -- The others are no expressions, and are called by the type that the tree has too.
  | n + 1, assign k l r, t, h => by
    obtain ⟨_, _, _, -, -, -, rfl⟩ := builds_assign.mp h
    rfl
  | n + 1, block k ms, t, h => by
    obtain ⟨_, -, -, rfl⟩ := builds_block.mp h
    rfl
  | n + 1, empty, t, h => by
    obtain rfl := builds_empty.mp h
    rfl

theorem targetName_eq {m : Node} {x : String} {q : Int} (h : m.Builds (.name x q)) :
    m.targetName = .ok x := by
  cases m with
  | name k =>
    obtain ⟨y, hy, ht⟩ := builds_name.mp h
    cases ht
    rw [targetName, Token.name?, hy]
    rfl
  | _ => cases h.shape

/-- The outcome of a tree, as that of a node. -/
def reported (o : Outcome) : Except (Alarm (Stop Cause)) Unit × Progress := (o.1.mapError .known, o.2)

theorem executeEach_eq {n : Nat} (h : ∀ {m : Node} {t : Tree} (p : Progress), m.Builds t →
      m.execute n p = reported (t.execute n p)) : ∀ {ms : List Node} {ts : List Tree} (p : Progress),
    BuildAll ms ts → executeEach (execute n) ms p = reported (Tree.executeEach (Tree.execute n) ts p)
  | [], _, p, hms => by
    obtain rfl := buildAll_nil.mp hms
    rfl
  | m :: ms, _, p, hms => by
    obtain ⟨t, ts, hm, hts, rfl⟩ := buildAll_cons.mp hms
    rw [executeEach, Tree.executeEach, h p hm]
    rcases t.execute n p with ⟨e | _, q⟩
    · rfl
    · exact executeEach_eq h q hts

theorem execute_eq : ∀ (n : Nat) {m : Node} {t : Tree} (p : Progress), m.Builds t →
    m.execute n p = reported (t.execute n p)
  | 0, _, _, _, _ => rfl
  | n + 1, block k ms, t, p, h => by
    obtain ⟨ts, -, hms, rfl⟩ := builds_block.mp h
    exact executeEach_eq (execute_eq n) p hms
  | n + 1, assign k l r, t, p, h => by
    obtain ⟨x, q, u, -, hl, hr, rfl⟩ := builds_assign.mp h
    rw [execute, Tree.execute, value_eq _ n hr, targetName_eq hl]
    rcases u.value p.environment n with e | y <;> rfl
  | n + 1, empty, t, p, h => by
    obtain rfl := builds_empty.mp h
    rfl
  | n + 1, number k, t, p, h => by
    obtain ⟨x, -, rfl⟩ := builds_number.mp h
    rfl
  | n + 1, name k, t, p, h => by
    obtain ⟨x, -, rfl⟩ := builds_name.mp h
    rfl
  | n + 1, binary k l r, t, p, h => by
    obtain ⟨op, u, v, -, -, -, rfl⟩ := builds_binary.mp h
    rfl
  | n + 1, unary k m, t, p, h => by
    obtain ⟨s, u, -, -, rfl⟩ := builds_unary.mp h
    rfl

end Node

/-! ### Texts with every check -/

namespace Checked

/-- Parses and runs a program with every check. -/
def interpret (limit : Nat) (source : List Char) (file : Option String) (resultVariable : String) :
    Except (Alarm Fault) (Option Binary64) :=
  match (program limit).onSource source file with
  | .error f => .error (.known f)
  | .ok m =>
    match m.execute limit (Progress.start .empty) with
    | (.ok (), p) => .ok (p.environment.get? resultVariable)
    | (.error a, _) => .error (a.map fun e => Fault.of e.toCause)

/-- Parses and evaluates an expression with every check. -/
def evaluateSource (limit : Nat) (source : List Char) (env : Environment) :
    Except (Alarm Fault) Binary64 :=
  match (soleExpression limit).onSource source none with
  | .error f => .error (.known f)
  | .ok m => (m.value env limit).mapError fun a => a.map fun e => Fault.of e.toCause

theorem Mirrors.onSource {α β : Type} {R : α → β → Prop} {x : Parse α} {y : Parse β}
    {source : List Char} (h : Mirrors R (x.run (.start source)) (y.run (.start source)))
    (file : Option String) :
    (∃ f, x.onSource source file = .error f ∧ y.onSource source file = .error f) ∨
      ∃ a b, x.onSource source file = .ok a ∧ y.onSource source file = .ok b ∧ R a b := by
  unfold Parse.onSource
  generalize x.run (.start source) = r, y.run (.start source) = r' at h
  cases h with
  | ok hab => exact .inr ⟨_, _, rfl, rfl, hab⟩
  | error => exact .inl ⟨_, rfl, rfl⟩

theorem interpret_eq (limit : Nat) (source : List Char) (file : Option String) (s : Session) :
    interpret limit source file s.resultVariable =
      (s.interpret limit source file).1.mapError .known := by
  unfold interpret Session.interpret parseProgram
  rcases (mirrors_program limit (.start source)).onSource file with ⟨f, hm, ht⟩ | ⟨m, t, hm, ht, hb⟩
  · rw [hm, ht]
    rfl
  · rw [hm, ht]
    dsimp only [Session.run, runProgram]
    rw [Node.execute_eq limit _ hb]
    rcases t.execute limit (Progress.start .empty) with ⟨e | _, p⟩ <;> rfl

theorem evaluateSource_eq (limit : Nat) (source : List Char) (env : Environment) :
    evaluateSource limit source env = (BlockCalc.evaluateSource limit source env).mapError .known := by
  unfold evaluateSource BlockCalc.evaluateSource parseExpression evaluate
  rcases (mirrors_soleExpression limit (.start source)).onSource none with
    ⟨f, hm, ht⟩ | ⟨m, t, hm, ht, hb⟩
  · rw [hm, ht]
    rfl
  · rw [hm, ht]
    dsimp only
    rw [Node.value_eq env limit hb]
    rcases t.value env limit with e | x <;> rfl

end Checked

/-! ### Literals -/

/-- Reads digits with at most one point among them, and at least one digit; refuses all else. -/
def float? (text : List Char) : Option Binary64 :=
  let whole := text.takeWhile isDigit
  match text.dropWhile isDigit with
  | [] =>
    if whole ≠ [] then some (Decimal.toBinary64 false ⟨Nat.ofDigitChars 10 whole 0, 0⟩) else none
  | c :: part =>
    if c = '.' ∧ part.all isDigit = true ∧ whole ++ part ≠ [] then
      some (Decimal.toBinary64 false ⟨Nat.ofDigitChars 10 (whole ++ part) 0, -(part.length : Int)⟩)
    else none

theorem span_digits {ws : List Char} (hw : ∀ c ∈ ws, isDigit c = true) (rest : List Char)
    (hr : Cursor.Stops isDigit rest) :
    (ws ++ rest).takeWhile isDigit = ws ∧ (ws ++ rest).dropWhile isDigit = rest :=
  ⟨Cursor.takeWhile_append_stops hw hr,
    congrArg Cursor.rest (Cursor.skip_append_stops 0 ws hw hr)⟩

theorem float?_digits {ws : List Char} (hne : ws ≠ []) (hw : ∀ c ∈ ws, isDigit c = true) :
    float? ws = some (numeralValue ws) := by
  obtain ⟨htake, hdrop⟩ := span_digits hw [] nofun
  rw [List.append_nil] at htake hdrop
  simp only [float?, htake, hdrop]
  rw [if_pos hne, numeralValue, ofLiteral_digits hw]

theorem float?_point {ws ps : List Char} (hne : ws ++ ps ≠ []) (hw : ∀ c ∈ ws, isDigit c = true)
    (hp : ∀ c ∈ ps, isDigit c = true) :
    float? (ws ++ '.' :: ps) = some (numeralValue (ws ++ '.' :: ps)) := by
  obtain ⟨htake, hdrop⟩ := span_digits hw ('.' :: ps) (Cursor.stops_cons rfl)
  simp only [float?, htake, hdrop]
  rw [if_pos ⟨trivial, List.all_eq_true.mpr hp, hne⟩, numeralValue, ofLiteral_point hw]

/-- Digits with one point at most are digits, or digits before and behind a point. -/
theorem digits_or_point {run : List Char} (hall : ∀ y ∈ run, isNumberChar y = true)
    (hc : run.count '.' ≤ 1) : (∀ y ∈ run, isDigit y = true) ∨ ∃ ws ps, run = ws ++ '.' :: ps ∧
      (∀ y ∈ ws, isDigit y = true) ∧ ∀ y ∈ ps, isDigit y = true := by
  have hdigit : ∀ y ∈ run, y ≠ '.' → isDigit y = true := by
    intro y hy hne
    simpa [isNumberChar, hne] using hall y hy
  by_cases hp : '.' ∈ run
  · right
    obtain ⟨ws, ps, rfl⟩ := List.append_of_mem hp
    rw [List.count_append, List.count_cons_self] at hc
    have hws : '.' ∉ ws := List.count_eq_zero.mp (by omega)
    have hps : '.' ∉ ps := List.count_eq_zero.mp (by omega)
    refine ⟨ws, ps, rfl, fun y hy => ?_, fun y hy => ?_⟩
    · exact hdigit y (by simp [hy]) fun he => hws (he ▸ hy)
    · exact hdigit y (by simp [hy]) fun he => hps (he ▸ hy)
  · exact .inl fun y hy => hdigit y hy fun he => hp (he ▸ hy)

/-- **A numeral is never refused.** -/
theorem float?_eq {run : List Char} (hall : ∀ y ∈ run, isNumberChar y = true)
    (hc : run.count '.' ≤ 1) (hd : ∃ y ∈ run, isDigit y = true) :
    float? run = some (numeralValue run) := by
  obtain ⟨y, hy, hyd⟩ := hd
  rcases digits_or_point hall hc with hw | ⟨ws, ps, rfl, hw, hp⟩
  · exact float?_digits (List.ne_nil_of_mem hy) hw
  · have hne : y ≠ '.' := ne_point_of_isDigit hyd
    have hmem : y ∈ ws ++ ps := by simpa [hne] using hy
    exact float?_point (List.ne_nil_of_mem hmem) hw hp

/-! ### Faults of the language -/

/-- The causes for which a text may fail. -/
def Cause.ofLanguage : Cause → Bool
  | unknownSymbol _ => true
  | malformedNumber _ => true
  | unexpectedToken _ _ => true
  | nestingTooDeep => true
  | unbound _ => true
  | evaluationTooDeep => true
  | _ => false

/-- A result, or a failure for a cause of the language. -/
inductive Settles {ε α : Type} (cause : ε → Cause) : Except ε α → Prop
  | ok (a : α) : Settles cause (.ok a)
  | error {e : ε} : (cause e).ofLanguage = true → Settles cause (.error e)

theorem Spoils.ofLanguage {cause : Cause} {text after : List Char} (h : Spoils cause text after) :
    cause.ofLanguage = true := by
  cases h <;> rfl

theorem ofLanguage_of_feed {c : Cursor} {e : SourceFault} (h : c.feed.2 = some e) :
    e.cause.ofLanguage = true := by
  have key : ∀ e, c.feed.2 = some e → e.cause.ofLanguage = true := by
    refine Cursor.feed_induction
      (P := fun _ _ f => ∀ e, f = some e → e.cause.ofLanguage = true) ?_ ?_ ?_ c
    · rintro c c' e hn _ ⟨⟩
      have hs := c.stepped_next
      rw [hn] at hs
      cases hs with
      | fault _ hs => exact hs.ofLanguage
    · intro c c' t _ _ e he
      cases he
    · intro c c' t _ _ ih
      exact ih
  exact key e h

/-- What has a verdict within the depth limit settles. -/
theorem settles_of_verdict {sentence : List Token → Tree → Prop} {source : List Char}
    {file : Option String} {r : Except Fault Tree}
    (h : ¬ TooDeep r → Verdict sentence source file r) :
    Settles Fault.cause r := by
  by_cases hr : TooDeep r
  · obtain ⟨l, rfl⟩ := hr
    exact .error rfl
  · cases h hr with
    | accepted _ _ => exact .ok _
    | refused us _ _ _ _ => exact .error rfl
    | faulty he _ => exact .error (ofLanguage_of_feed he)

namespace Tree

theorem settles_value (env : Environment) : ∀ (n : Nat) (t : Tree), t.isExpression = true →
    Settles Stop.toCause (value env n t)
  | 0, _, _ => .error rfl
  | n + 1, number x _, _ => .ok x
  | n + 1, name s _, _ => by
    rw [value, Environment.lookup]
    rcases env.get? s with _ | x
    · exact .error rfl
    · exact .ok x
  | n + 1, binary op _ l r, ht => by
    rw [isExpression, Bool.and_eq_true] at ht
    have hl := settles_value env n l ht.1
    have hr := settles_value env n r ht.2
    rw [value]
    generalize value env n l = u, value env n r = v at hl hr
    cases hl with
    | error he => exact .error he
    | ok x =>
      cases hr with
      | error he => exact .error he
      | ok y => exact .ok _
  | n + 1, unary s _ t, ht => by
    rw [isExpression] at ht
    have hv := settles_value env n t ht
    rw [value]
    generalize value env n t = u at hv
    cases hv with
    | error he => exact .error he
    | ok x => exact .ok _

theorem settles_executeEach {n : Nat} (h : ∀ (t : Tree) (p : Progress), t.isStatement = true →
      Settles Stop.toCause (execute n t p).1) : ∀ (ts : List Tree) (p : Progress),
    areStatements ts = true → Settles Stop.toCause (executeEach (execute n) ts p).1
  | [], _, _ => .ok ()
  | t :: ts, p, hts => by
    rw [areStatements, Bool.and_eq_true] at hts
    have ht := h t p hts.1
    rw [executeEach]
    generalize execute n t p = o at ht
    rcases o with ⟨e | _, q⟩
    · exact ht
    · exact settles_executeEach h ts q hts.2

theorem settles_execute : ∀ (n : Nat) (t : Tree) (p : Progress), t.isStatement = true →
    Settles Stop.toCause (execute n t p).1
  | 0, _, _, _ => .error rfl
  | n + 1, block _ cs, p, ht => by
    rw [isStatement, Bool.and_eq_true] at ht
    exact settles_executeEach (settles_execute n) cs p ht.2
  | n + 1, assign x _ _ v, p, ht => by
    rw [isStatement] at ht
    have hv := settles_value p.environment n v ht
    rw [execute]
    generalize value p.environment n v = u at hv
    cases hv with
    | error he => exact .error he
    | ok y => exact .ok ()
  | n + 1, empty, _, _ => .ok ()

end Tree

theorem Session.settles_interpret (limit : Nat) (source : List Char) (file : Option String)
    (s : Session) : Settles Fault.cause (s.interpret limit source file).1 := by
  have hp : Settles Fault.cause (parseProgram limit source file) := settles_of_verdict verdict_program
  rw [Session.interpret]
  rcases ht : parseProgram limit source file with f | t
  · rw [ht] at hp
    cases hp with
    | error hf => exact .error hf
  · have hx := Tree.settles_execute limit t (Progress.start .empty) (placed_of_parseProgram ht).1
    dsimp only [Session.run, runProgram]
    generalize t.execute limit (Progress.start .empty) = o at hx
    rcases o with ⟨e | _, p⟩
    · cases hx with
      | error he => exact .error he
    · exact .ok _

theorem settles_evaluateSource (limit : Nat) (source : List Char) (env : Environment) :
    Settles Fault.cause (evaluateSource limit source env) := by
  have hp : Settles Fault.cause (parseExpression limit source) :=
    settles_of_verdict verdict_soleExpression
  rw [evaluateSource]
  rcases ht : parseExpression limit source with f | t
  · rw [ht] at hp
    cases hp with
    | error hf => exact .error hf
  · have hx := Tree.settles_value env limit t (placed_of_parseExpression ht).1
    dsimp only [evaluate]
    generalize t.value env limit = u at hx
    cases hx with
    | error he => exact .error he
    | ok x => exact .ok x

/-- A number that is read was written as a literal that is not refused, and has its value. -/
theorem Cursor.literal_of_next {c c' : Cursor} {x : Binary64} {p : Int}
    (h : c.next = (.ok ⟨.number x, p⟩, c')) : ∃ gap run after, (∀ y ∈ gap, isBlank y = true) ∧
      c.rest = gap ++ (run ++ after) ∧ c'.rest = after ∧ p = (c.offset + gap.length : Nat) ∧
      float? run = some x := by
  have hs := c.stepped_next
  rw [h] at hs
  cases hs with
  | token hg hw =>
    cases hw with
    | symbol hx => simp [structural] at hx
    | numeral hr hp hd _ => exact ⟨_, _, _, hg, rfl, rfl, rfl, float?_eq hr hp hd⟩

/-- **Texts fail for a cause of the language, or not at all.** Interpreting a program and evaluating an
expression settle. With every check they do the same as without, so no check fails, and no literal
that becomes a token is refused. -/
theorem only_language_faults (limit : Nat) (source : List Char) (file : Option String) (s : Session)
    (env : Environment) :
    Settles Fault.cause (s.interpret limit source file).1 ∧
    Settles Fault.cause (evaluateSource limit source env) ∧
    Checked.interpret limit source file s.resultVariable =
      (s.interpret limit source file).1.mapError .known ∧
    Checked.evaluateSource limit source env = (evaluateSource limit source env).mapError .known ∧
    ∀ (c c' : Cursor) x p, c.next = (.ok ⟨.number x, p⟩, c') → ∃ gap run after,
      (∀ y ∈ gap, isBlank y = true) ∧ c.rest = gap ++ (run ++ after) ∧ c'.rest = after ∧
      p = (c.offset + gap.length : Nat) ∧ float? run = some x :=
  ⟨s.settles_interpret limit source file, settles_evaluateSource limit source env,
    Checked.interpret_eq limit source file s, Checked.evaluateSource_eq limit source env,
    fun _ _ _ _ h => Cursor.literal_of_next h⟩

/-- A name that never gets a value is a fault of the language, with every check and without, and a
literal may start with its point. -/
theorem only_language_faults_point :
    Checked.interpret 9 "{ r = .5 * x }".toList (some "f") "r" =
      .error (.known (Fault.of (.unbound "x"))) ∧
    ∃ run x, float? run = some x ∧ (Cursor.next ⟨0, " .5".toList⟩).1 = .ok ⟨.number x, 1⟩ := by
  have h := only_language_faults 9 "{ r = .5 * x }".toList (some "f") (.start "r") .empty
  have hi : (Session.interpret 9 (.start "r") "{ r = .5 * x }".toList (some "f")).1 =
    .error (Fault.of (.unbound "x")) := by decide +kernel
  obtain ⟨-, -, hc, -, hl⟩ := h
  refine ⟨?_, ?_⟩
  · rw [hi] at hc
    exact hc
  · have hk : (Cursor.next ⟨0, " .5".toList⟩).1 = .ok ⟨.number (numeralValue ".5".toList), 1⟩ := rfl
    obtain ⟨_, run, _, -, -, -, -, hf⟩ := hl _ _ _ _ (Prod.ext hk rfl)
    exact ⟨run, _, hf, hk⟩

end BlockCalc
