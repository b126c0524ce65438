import BlockCalc.Proofs.Token.StreamState
import BlockCalc.Tree.Parser

/-! # What parsing does to its stream

An action of the parser changes its stream in two ways only, by looking at the next token and by
taking it. `Parse.Script x s steps` says which steps these are if the action `x` is run on the stream
`s`: it reads the action as it is put together, from single steps, sequences and loops. Every rule of
the parser has a script on every stream (`scripted_factor`, `scripted_block` and those after them),
and `Script.after_eq` says that the stream after the rule is the stream after its script. So what
holds after all lists of steps also holds after all rules, and in the middle of them.

* `parser_state_sound`: the state of a parser after any operations, whether they succeeded or not. -/

namespace BlockCalc

namespace Parse

open TokenStream

/-! ### Scripts -/

/-- One round of a loop, with all that may follow. -/
def round {α β : Type} (accepts : Kind → Option β) (body : α → Token → β → Parse α) (a : α) :
    Parse α := do
  let t ← current
  match accepts t.kind with
  | none => pure a
  | some b =>
    if t.kind = .endOfInput then pure a
    else do
      let _ ← eat t.kind
      let a' ← body a t b
      loop accepts body a'

/-- The steps that an action takes on a stream. A sequence ends at its first failure. -/
inductive Script : {α : Type} → Parse α → TokenStream → List Step → Prop
  | pure {α : Type} {a : α} {s} : Script (pure a) s []
  | stop {α : Type} {e s} : Script (stop e : Parse α) s []
  | look {s} : Script current s [.look]
  | eat {k s} : Script (eat k) s [.eat k]
  | bind {α β : Type} {x : Parse α} {f : α → Parse β} {a s s' steps more} :
      x.run s = (.ok a, s') → Script x s steps → Script (f a) s' more →
      Script (x >>= f) s (steps ++ more)
  | failed {α β : Type} {x : Parse α} {f : α → Parse β} {e s s' steps} :
      x.run s = (.error e, s') → Script x s steps → Script (x >>= f) s steps
  | loop {α β : Type} {accepts : Kind → Option β} {body : α → Token → β → Parse α} {a s steps} :
      Script (round accepts body a) s steps → Script (loop accepts body a) s steps

variable {α β : Type} {x : Parse α} {s : TokenStream} {steps : List Step}

/-- **The stream after an action is the stream after its script.** -/
theorem Script.after_eq (h : Script x s steps) : (x.run s).2 = s.after steps := by
  induction h with
  | pure => rfl
  | stop => rfl
  | look => rfl
  | eat => rfl
  | bind hx _ _ ihx ihf =>
    rw [run_bind, hx, after_append, ← ihx, hx]
    exact ihf
  | failed hx _ ihx =>
    rw [run_bind, hx, ← ihx, hx]
  | loop _ ih =>
    rw [run_loop]
    exact ih

/-- The action has a script on every stream. -/
def Scripted (x : Parse α) : Prop := ∀ s, ∃ steps, Script x s steps

theorem scripted_pure (a : α) : Scripted (pure a : Parse α) := fun _ => ⟨[], .pure⟩

theorem scripted_look : Scripted current := fun _ => ⟨_, .look⟩

theorem scripted_eat (k : Kind) : Scripted (eat k) := fun _ => ⟨_, .eat⟩

/-- A sequence has a script on a stream if its first action has one, and what follows a success has
one where that leads. -/
theorem exists_script_bind {f : α → Parse β} (hx : ∃ steps, Script x s steps)
    (hf : ∀ a s', x.run s = (.ok a, s') → ∃ more, Script (f a) s' more) :
    ∃ steps, Script (x >>= f) s steps := by
  obtain ⟨steps, hs⟩ := hx
  rcases hr : x.run s with ⟨e | a, s'⟩
  · exact ⟨steps, .failed hr hs⟩
  · obtain ⟨more, hm⟩ := hf a s' hr
    exact ⟨steps ++ more, .bind hr hs hm⟩

theorem Scripted.bind {f : α → Parse β} (hx : Scripted x) (hf : ∀ a, Scripted (f a)) :
    Scripted (x >>= f) :=
  fun s => exists_script_bind (hx s) fun a s' _ => hf a s'

theorem scripted_refuse (x : Expected) : Scripted (refuse x : Parse α) :=
  scripted_look.bind fun _ _ => ⟨[], .stop⟩

/-- **A loop has a script** if its body has one. -/
theorem scripted_loop {accepts : Kind → Option β} {body : α → Token → β → Parse α}
    (hb : ∀ a t b, Scripted (body a t b)) (a : α) : Scripted (loop accepts body a) := by
  intro s
  -- By induction on what is left to read: a round takes a token.
  induction hn : s.remaining using Nat.strongRecOn generalizing s a with
  | ind n ih =>
    suffices h : ∃ steps, Script (round accepts body a) s steps by
      obtain ⟨steps, hs⟩ := h
      exact ⟨steps, .loop hs⟩
    refine exists_script_bind (scripted_look s) fun t s1 hc => ?_
    have hcur := run_remaining_le current s
    rw [hc] at hcur
    split
    · exact scripted_pure a s1
    · split
      · exact scripted_pure a s1
      · next b _ hk =>
        refine exists_script_bind (scripted_eat t.kind s1) fun u s2 he => ?_
        refine exists_script_bind (hb a t b s2) fun a' s3 hr => ?_
        have hlt := eat_remaining_lt he hk
        have hbody := run_remaining_le (body a t b) s2
        rw [hr] at hbody
        dsimp only at hcur hbody
        exact ih s3.remaining (by omega) a' s3 rfl

/-! ### The rules -/

theorem scripted_chain (operators : Kind → Option Operator) {operand : Parse Tree}
    (ho : Scripted operand) : Scripted (chain operators operand) :=
  ho.bind fun first => scripted_loop (fun _ _ _ => ho.bind fun _ => scripted_pure _) first

theorem scripted_expressionOf {factor : Parse Tree} (hf : Scripted factor) :
    Scripted (expressionOf factor) :=
  scripted_chain _ (scripted_chain _ hf)

theorem scripted_factor : ∀ d, Scripted (factor d)
  | 0 => fun _ => ⟨[], .stop⟩
  | d + 1 => by
    have ih := scripted_factor d
    unfold factor
    refine scripted_look.bind fun t => ?_
    rcases t with ⟨l, p⟩
    cases l with
    | plus => exact (scripted_eat _).bind fun _ => ih.bind fun _ => scripted_pure _
    | minus => exact (scripted_eat _).bind fun _ => ih.bind fun _ => scripted_pure _
    | number x => exact (scripted_eat _).bind fun _ => scripted_pure _
    | name x => exact (scripted_eat _).bind fun _ => scripted_pure _
    | openParen =>
      refine (scripted_eat _).bind fun _ => (scripted_expressionOf ih).bind fun _ => ?_
      exact (scripted_eat _).bind fun _ => scripted_pure _
    | _ => exact scripted_refuse _

theorem scripted_eatName : Scripted eatName := by
  refine scripted_look.bind fun t => ?_
  rcases t with ⟨l, p⟩
  cases l with
  | name x => exact (scripted_eat _).bind fun _ => scripted_pure _
  | _ => exact scripted_refuse _

theorem scripted_assignment (d : Nat) : Scripted (assignment d) := by
  refine scripted_eatName.bind fun r => ?_
  obtain ⟨x, q⟩ := r
  refine (scripted_eat _).bind fun t => ?_
  exact (scripted_expressionOf (scripted_factor d)).bind fun _ => scripted_pure _

theorem scripted_statementOf {assignment block : Parse Tree} (ha : Scripted assignment)
    (hb : Scripted block) : Scripted (statementOf assignment block) := by
  refine scripted_look.bind fun t => ?_
  rcases t with ⟨l, p⟩
  cases l with
  | name x => exact ha
  | openBrace => exact hb
  | _ => exact scripted_pure _

theorem scripted_block : ∀ d, Scripted (block d)
  | 0 => fun _ => ⟨[], .stop⟩
  | d + 1 => by
    have hst := scripted_statementOf (scripted_assignment d) (scripted_block d)
    unfold block
    refine (scripted_eat _).bind fun t => hst.bind fun first => ?_
    refine (scripted_loop (fun _ _ _ => hst.bind fun _ => scripted_pure _) _).bind fun cs => ?_
    exact (scripted_eat _).bind fun _ => scripted_pure _

/-! ### Operations of a parser -/

/-- What a parser can be asked for: the next token, a token of a given kind, a rule of the grammar, or
a whole source. -/
inductive Operation
  | current
  | eat (kind : Kind)
  | factor
  | term
  | expression
  | assignment
  | statement
  | block
  | program
  | soleExpression

namespace Operation

/-- What an operation answers with if it succeeds. -/
def Answer : Operation → Type
  | current => Token
  | eat _ => Token
  | _ => Tree

/-- The action of an operation, within a depth limit. -/
def action (limit : Nat) : (op : Operation) → Parse op.Answer
  | current => Parse.current
  | eat k => Parse.eat k
  | factor => Parse.factor limit
  | term => Parse.term limit
  | expression => Parse.expression limit
  | assignment => Parse.assignment limit
  | statement => Parse.statement limit
  | block => Parse.block limit
  | program => Parse.program limit
  | soleExpression => Parse.soleExpression limit

/-- The stream after operations, each of which may have failed. -/
def afterAll (limit : Nat) (s : TokenStream) (ops : List Operation) : TokenStream :=
  ops.foldl (fun s op => ((op.action limit).run s).2) s

/-- The steps that operations take one after the other, going on after failures. -/
inductive Steps (limit : Nat) : TokenStream → List Operation → List Step → Prop
  | nil {s : TokenStream} : Steps limit s [] []
  | cons {s : TokenStream} {op : Operation} {ops : List Operation} {steps more : List Step} :
      Script (op.action limit) s steps → Steps limit ((op.action limit).run s).2 ops more →
      Steps limit s (op :: ops) (steps ++ more)

/-- **Every operation has a script.** -/
theorem scripted (limit : Nat) (op : Operation) : Scripted (op.action limit) := by
  cases op with
  | current => exact scripted_look
  | eat k => exact scripted_eat k
  | factor => exact scripted_factor limit
  | term => exact scripted_chain _ (scripted_factor limit)
  | expression => exact scripted_expressionOf (scripted_factor limit)
  | assignment => exact scripted_assignment limit
  | statement => exact scripted_statementOf (scripted_assignment limit) (scripted_block limit)
  | block => exact scripted_block limit
  | program =>
    exact (scripted_block limit).bind fun _ => (scripted_eat _).bind fun _ => scripted_pure _
  | soleExpression =>
    refine (scripted_expressionOf (scripted_factor limit)).bind fun _ => ?_
    exact (scripted_eat _).bind fun _ => scripted_pure _

theorem exists_steps (limit : Nat) (ops : List Operation) : ∀ s, ∃ steps, Steps limit s ops steps := by
  induction ops with
  | nil => exact fun _ => ⟨[], .nil⟩
  | cons op ops ih =>
    intro s
    obtain ⟨steps, hs⟩ := scripted limit op s
    obtain ⟨more, hm⟩ := ih ((op.action limit).run s).2
    exact ⟨steps ++ more, .cons hs hm⟩

theorem Steps.after_eq {limit : Nat} {s : TokenStream} {ops : List Operation} {steps : List Step}
    (h : Steps limit s ops steps) : afterAll limit s ops = s.after steps := by
  induction h with
  | nil => rfl
  | cons hs _ ih =>
    rw [after_append, ← hs.after_eq, ← ih]
    rfl

end Operation

/-- What holds of the stream over a source text after steps that may have failed. -/
structure Kept (source : List Char) (steps : List Step) : Prop where
  /-- The cursor stands in the text. -/
  offset_le : ((start source).after steps).cursor.offset ≤ source.length
  /-- The cursor never goes back. -/
  offset_mono : ∀ more, ((start source).after steps).cursor.offset ≤
    ((start source).after (steps ++ more)).cursor.offset
  /-- The lookahead is what a fresh reading at its offset gives, and it ends before the cursor. -/
  lookahead : ∀ t, ((start source).after steps).lookahead = some t → ∃ (o : Nat) (c : Cursor),
    t.offset = o ∧ Cursor.next ⟨o, source.drop o⟩ = (.ok t, c) ∧
      c.offset ≤ ((start source).after steps).cursor.offset
  /-- The tokens that were taken stand one behind the other, and only the end of the input was taken
  again. -/
  increasing : ((start source).handed steps).Pairwise (Before source)
  /-- A lookahead that is refused leaves the stream as it is. -/
  refused : ∀ k t x j p s', ((start source).after steps).lookahead = some t →
    (eat k).run ((start source).after steps) =
      (.error (.fault ⟨.unexpectedToken x j, p⟩), s') → s' = (start source).after steps
  /-- If the token behind the one that is to be taken cannot be read, this one is the lookahead, and
  the cursor is on the unknown symbol or behind the run that is no numeral. -/
  spoiled : ∀ k t s1 e s', current.run ((start source).after steps) = (.ok t, s1) → t.kind = k →
    (eat k).run ((start source).after steps) = (.error e, s') → s'.lookahead = some t ∧
      ∃ (cause : Cause) (o : Nat) (text after : List Char), e = .fault ⟨cause, o⟩ ∧
        Spoils cause text after ∧ source.drop o = text ++ after ∧ s'.cursor = ⟨o + text.length, after⟩

theorem kept (source : List Char) (steps : List Step) : Kept source steps := by
  have hs := ((sound_start source).advances_after steps).sound
  exact {
    offset_le := hs.cursor.offset_le
    offset_mono := fun more => by
      rw [after_append]
      exact (hs.advances_after more).offset_le
    lookahead := hs.lookahead
    increasing := (pairwise_handed steps (start source) (sound_start source)).2
    refused := fun _ _ _ _ _ _ hl he => eat_refused hl he
    spoiled := fun _ _ _ _ _ hc hk he => eat_spoiled hs hc hk he }

end Parse

open Parse in
/-- **The state of a parser.** Whatever a parser is asked for, and whether or not it succeeds, it goes
through steps after each of which its stream is as `Parse.Kept` says. -/
theorem parser_state_sound (limit : Nat) (source : List Char) (ops : List Operation) :
    (∃ steps, Operation.Steps limit (TokenStream.start source) ops steps) ∧
    ∀ steps, Operation.Steps limit (TokenStream.start source) ops steps →
      Operation.afterAll limit (TokenStream.start source) ops =
        (TokenStream.start source).after steps ∧
      ∀ done more, steps = done ++ more → Kept source done :=
  ⟨Operation.exists_steps limit ops _, fun _ h => ⟨h.after_eq, fun done _ _ => kept source done⟩⟩

open Parse in
/-- A number with a lone point behind it cannot be taken. It stays the lookahead, and the cursor is
behind the point. -/
theorem parser_state_sound_point : ∃ t s' text after, t.kind = .number ∧
    (eat .number).run (Operation.afterAll 9 (.start "1 . 2".toList) [.current]) =
      (.error (.fault ⟨.malformedNumber ".", 2⟩), s') ∧
    s'.lookahead = some t ∧ Spoils (.malformedNumber ".") text after ∧
    s'.cursor = ⟨2 + text.length, after⟩ := by
  obtain ⟨⟨steps, hs⟩, h⟩ := parser_state_sound 9 "1 . 2".toList [.current]
  obtain ⟨hafter, hkept⟩ := h steps hs
  have hk := hkept steps [] (List.append_nil _).symm
  have hcur : ((current.run (Operation.afterAll 9 (.start "1 . 2".toList) [.current])).1.map
    Token.kind) = .ok .number := by decide +kernel
  have heat : ((eat .number).run (Operation.afterAll 9 (.start "1 . 2".toList) [.current])).1 =
    .error (.fault ⟨.malformedNumber ".", 2⟩) := by decide +kernel
  rw [hafter] at hcur heat ⊢
  rcases hc : current.run ((TokenStream.start "1 . 2".toList).after steps) with ⟨e | t, s1⟩
  · rw [hc] at hcur
    cases hcur
  · rw [hc] at hcur
    have hn : t.kind = .number := Except.ok.inj hcur
    obtain ⟨hl, cause, o, text, after, he, hsp, -, hcursor⟩ :=
      hk.spoiled _ t s1 _ _ hc hn (Prod.ext heat rfl)
    cases he
    exact ⟨t, _, text, after, hn, Prod.ext heat rfl, hl, hsp, hcursor⟩

end BlockCalc
