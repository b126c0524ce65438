import BlockCalc.Token.Lexer

/-! # Token streams

A token stream is a cursor with at most one token of lookahead, and `Parse` is the type of the
actions that take tokens from a stream. The stream after an action is there even if the action
failed, and it never has more left to read than before, which is why loops over tokens end.

* `Parse.current`: the token that comes next, which is read at the first look.
* `Parse.eat`: takes a token of a given kind and reads the one after it. If that cannot be read, the
  lookahead is still the token that was to be taken.
* `Parse.eat_remaining_lt`: a token that is taken leaves less to read.
* `Parse.loop`: goes on as long as the next token is of an accepted kind. -/

namespace BlockCalc

/-- A cursor and the token before it, if it was read but not eaten. -/
structure TokenStream where
  cursor : Cursor
  lookahead : Option Token

namespace TokenStream

/-- The stream of a source text, of which nothing was read. -/
def start (source : List Char) : TokenStream := ⟨Cursor.start source, none⟩

/-- What a lookahead adds to what is left to read. -/
def pending : Option Token → Nat
  | some t => if t.kind = .endOfInput then 0 else 1
  | none => 0

/-- How much is left to read: characters, and the lookahead. -/
def remaining (s : TokenStream) : Nat := s.cursor.remaining + pending s.lookahead

/-- The first offset at which a token can still be taken. -/
def front (s : TokenStream) : Int :=
  match s.lookahead with
  | some t => t.offset
  | none => s.cursor.offset

/-- A stream that has no more left to read than `s`. -/
abbrev Tail (s : TokenStream) : Type := { s' : TokenStream // s'.remaining ≤ s.remaining }

end TokenStream

/-- An action that takes tokens from a stream. -/
def Parse (α : Type) : Type :=
  (s : TokenStream) → Except (Stop SourceFault) α × s.Tail

namespace Parse

variable {α β : Type}

/-- The outcome of an action and the stream after it. -/
def run (x : Parse α) (s : TokenStream) : Except (Stop SourceFault) α × TokenStream :=
  ((x s).1, (x s).2.1)

/-- The action that takes nothing and answers `a`. -/
protected def pure (a : α) : Parse α := fun s => (.ok a, ⟨s, Nat.le_refl _⟩)

/-- The action that takes nothing and stops. -/
def stop (e : Stop SourceFault) : Parse α := fun s => (.error e, ⟨s, Nat.le_refl _⟩)

/-- One action after another; the second does not take place if the first fails. -/
protected def bind (x : Parse α) (f : α → Parse β) : Parse β := fun s =>
  match x s with
  | (.ok a, ⟨s', h⟩) =>
    let (r, ⟨s'', h'⟩) := f a s'
    (r, ⟨s'', Nat.le_trans h' h⟩)
  | (.error e, s') => (.error e, s')

instance : Monad Parse where
  pure := Parse.pure
  bind := Parse.bind

@[simp] theorem run_pure (a : α) (s : TokenStream) : (pure a : Parse α).run s = (.ok a, s) := rfl

@[simp] theorem run_stop (e : Stop SourceFault) (s : TokenStream) :
    (stop e : Parse α).run s = (.error e, s) := rfl

theorem run_bind (x : Parse α) (f : α → Parse β) (s : TokenStream) :
    (x >>= f).run s = match x.run s with
      | (.ok a, s') => (f a).run s'
      | (.error e, s') => (.error e, s') := by
  simp only [run, bind, Parse.bind]
  rcases x s with ⟨_ | a, s', h⟩ <;> rfl

/-! ### Tokens -/

theorem remaining_of_next {s : TokenStream} {c : Cursor} {t : Token}
    (h : s.cursor.next = (.ok t, c)) :
    (⟨c, some t⟩ : TokenStream).remaining ≤ s.cursor.remaining := by
  simp only [TokenStream.remaining, TokenStream.pending]
  split
  · have := s.cursor.next_remaining_le
    rw [h] at this
    exact this
  · next ht => exact Cursor.next_remaining_lt h ht

/-- Reads a token into the lookahead. -/
def pull : Parse Token := fun s =>
  match h : s.cursor.next with
  | (.ok t, c) => (.ok t, ⟨⟨c, some t⟩, Nat.le_trans (remaining_of_next h) (Nat.le_add_right _ _)⟩)
  | (.error e, c) =>
    (.error (.fault e), ⟨⟨c, s.lookahead⟩, Nat.add_le_add_right
      (by have := s.cursor.next_remaining_le; rwa [h] at this) _⟩)

theorem run_pull (s : TokenStream) :
    pull.run s = match s.cursor.next with
      | (.ok t, c) => (.ok t, ⟨c, some t⟩)
      | (.error e, c) => (.error (.fault e), ⟨c, s.lookahead⟩) := by
  unfold run pull
  split <;> simp_all

/-- The token that comes next, which is read if it was not yet. -/
def current : Parse Token := fun s =>
  match s.lookahead with
  | some t => (.ok t, ⟨s, Nat.le_refl _⟩)
  | none => pull s

theorem run_current (s : TokenStream) :
    current.run s = match s.lookahead with
      | some t => (.ok t, s)
      | none => pull.run s := by
  unfold run current
  split <;> rfl

/-- Refuses the token that comes next. -/
def refuse (expected : Expected) : Parse α := do
  let t ← current
  stop (.fault ⟨.unexpectedToken expected t.kind, t.offset⟩)

/-- Takes a token of a given kind, and reads the one after it. -/
def eat (kind : Kind) : Parse Token := do
  let t ← current
  if t.kind = kind then
    let _ ← pull
    pure t
  else refuse (.exactly kind)

theorem current_lookahead {s s' : TokenStream} {t : Token} (h : current.run s = (.ok t, s')) :
    s'.lookahead = some t := by
  rw [run_current] at h
  split at h
  · next u hu =>
    obtain ⟨h1, rfl⟩ := Prod.mk.inj h
    cases h1
    exact hu
  · rw [run_pull] at h
    split at h
    · obtain ⟨h1, rfl⟩ := Prod.mk.inj h
      cases h1
      rfl
    · cases (Prod.mk.inj h).1

theorem run_remaining_le (x : Parse α) (s : TokenStream) : (x.run s).2.remaining ≤ s.remaining :=
  (x s).2.2

theorem pull_remaining_le {s s' : TokenStream} {t : Token} (h : pull.run s = (.ok t, s')) :
    s'.remaining ≤ s.cursor.remaining := by
  rw [run_pull] at h
  split at h
  · next hn =>
    obtain ⟨-, rfl⟩ := Prod.mk.inj h
    exact remaining_of_next hn
  · cases (Prod.mk.inj h).1

/-- A token that is eaten, other than the end of the input, leaves less to read. -/
theorem eat_remaining_lt {k : Kind} {s s' : TokenStream} {t : Token}
    (h : (eat k).run s = (.ok t, s')) (hk : k ≠ .endOfInput) : s'.remaining < s.remaining := by
  rw [eat, run_bind] at h
  have hle := run_remaining_le current s
  split at h
  · next u s1 hc =>
    have hl := current_lookahead hc
    replace hle : s1.remaining ≤ s.remaining := by rw [hc] at hle; exact hle
    split at h
    · next hu =>
      rw [run_bind] at h
      split at h
      · next v s2 hp =>
        obtain ⟨-, rfl⟩ : _ ∧ s2 = s' := Prod.mk.inj h
        have hp' := pull_remaining_le hp
        have h1 : s1.remaining = s1.cursor.remaining + 1 := by
          rw [TokenStream.remaining, TokenStream.pending.eq_def, hl]
          simp only
          rw [if_neg (by rw [hu]; exact hk)]
        omega
      · cases (Prod.mk.inj h).1
    · rw [refuse, run_bind] at h
      split at h <;> cases (Prod.mk.inj h).1
  · cases (Prod.mk.inj h).1

theorem eat_tail_lt {k : Kind} {s s' : TokenStream} {t : Token} {h' : s'.remaining ≤ s.remaining}
    (h : eat k s = (.ok t, ⟨s', h'⟩)) (hk : k ≠ .endOfInput) : s'.remaining < s.remaining :=
  eat_remaining_lt (by rw [run, h]) hk

/-- As long as the next token is of an accepted kind, takes it and goes on with `body`. -/
def loop (accepts : Kind → Option β) (body : α → Token → β → Parse α) (a : α) : Parse α := fun s =>
  match current s with
  | (.error e, s1) => (.error e, s1)
  | (.ok t, ⟨s1, h1⟩) =>
    match accepts t.kind with
    | none => (.ok a, ⟨s1, h1⟩)
    | some b =>
      if _hk : t.kind = .endOfInput then (.ok a, ⟨s1, h1⟩)
      else
        match _h2 : eat t.kind s1 with
        | (.error e, ⟨s2, h2⟩) => (.error e, ⟨s2, Nat.le_trans h2 h1⟩)
        | (.ok _, ⟨s2, h2⟩) =>
          match body a t b s2 with
          | (.error e, ⟨s3, h3⟩) => (.error e, ⟨s3, Nat.le_trans h3 (Nat.le_trans h2 h1)⟩)
          | (.ok a', ⟨s3, h3⟩) =>
            let (r, ⟨s4, h4⟩) := loop accepts body a' s3
            (r, ⟨s4, Nat.le_trans h4 (Nat.le_trans h3 (Nat.le_trans h2 h1))⟩)
termination_by s => s.remaining
decreasing_by
  have := eat_tail_lt ‹_› ‹_›
  omega

/-- One round of a loop. -/
theorem run_loop (accepts : Kind → Option β) (body : α → Token → β → Parse α) (a : α)
    (s : TokenStream) :
    (loop accepts body a).run s = (do
      let t ← current
      match accepts t.kind with
      | none => pure a
      | some b =>
        if t.kind = .endOfInput then pure a
        else do
          let _ ← eat t.kind
          let a' ← body a t b
          loop accepts body a' : Parse α).run s := by
  rw [run_bind]
  conv => lhs; rw [run]; unfold loop
  rw [run]
  rcases current s with ⟨_ | t, s1, h1⟩
  · rfl
  · dsimp only
    cases accepts t.kind with
    | none => rfl
    | some b =>
      dsimp only
      by_cases hk : t.kind = .endOfInput
      · rw [dif_pos hk, if_pos hk]; rfl
      · rw [dif_neg hk, if_neg hk, run_bind, run]
        generalize eat t.kind s1 = r
        rcases r with ⟨_ | u, s2, h2⟩
        · rfl
        · dsimp only
          rw [run_bind, run]
          rcases body a t b s2 with ⟨_ | a', s3, h3⟩ <;> rfl

end Parse

end BlockCalc
