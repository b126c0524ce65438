import BlockCalc.Proofs.Token.Segmentation

/-! # The state of a token stream

A stream has a cursor and at most one token of lookahead, and on faults of the text the two get out
of step: a token that was to be taken is still the lookahead, while the cursor already is behind the
fault or on it. What holds in spite of this is `TokenStream.Sound`: the cursor stands in the text, and
the lookahead is the token that a fresh reading at its offset gives, all of it before the cursor.

All that a parser does to its stream is to look at the next token and to take it. `TokenStream.after`
is the stream after a list of such steps, whether they succeeded or not, and `TokenStream.handed` lists
the tokens that were taken.

* `Sound.advances`, `Sound.advances_after`: steps keep a stream sound, and never go back.
* `pairwise_handed`: tokens are taken in the order in which they stand in the text. Only the end of
  the input is taken more than once.
* `eat_refused`, `eat_spoiled`: what a failing step leaves behind. -/

namespace BlockCalc

/-! ### Cursors in a text -/

namespace Cursor

/-- The cursor stands in the text, and what it has left is the rest of the text. -/
structure In (source : List Char) (c : Cursor) : Prop where
  offset_le : c.offset ≤ source.length
  rest_eq : c.rest = source.drop c.offset

theorem in_start (source : List Char) : (start source).In source where
  offset_le := Nat.zero_le _
  rest_eq := rfl

variable {source : List Char} {c c' : Cursor}

theorem In.advance {o : Nat} {text after : List Char} (h : In source ⟨o, text ++ after⟩) :
    In source ⟨o + text.length, after⟩ := by
  have hrest : text ++ after = source.drop o := h.rest_eq
  have hlen := congrArg List.length hrest
  have ho : o ≤ source.length := h.offset_le
  simp only [List.length_append, List.length_drop] at hlen
  constructor
  · dsimp only
    omega
  · dsimp only
    rw [← List.drop_drop, ← hrest, List.drop_left]

theorem In.next (h : In source c) : In source c.next.2 ∧ c.offset ≤ c.next.2.offset := by
  have hs := stepped_next c
  generalize c.next = r at hs
  cases hs with
  | @ended o gap hg =>
    rw [← List.append_nil gap] at h
    exact ⟨h.advance, Nat.le_add_right _ _⟩
  | token hg hw => exact ⟨h.advance.advance, by dsimp only; omega⟩
  | fault hg hw => exact ⟨h.advance.advance, by dsimp only; omega⟩

/-- **A token that is read** stands at or behind the cursor, is what a fresh reading at its offset
gives, and lies before the new cursor. The end of the input stands at the end of the text. -/
theorem In.token {t : Token} (h : In source c) (hn : c.next = (.ok t, c')) :
    ∃ o : Nat, t.offset = o ∧ c.offset ≤ o ∧ Cursor.next ⟨o, source.drop o⟩ = (.ok t, c') ∧
      (o < c'.offset ∨ t.kind = .endOfInput ∧ o = source.length) := by
  have hs := stepped_next c
  rw [hn] at hs
  generalize hr : (Except.ok t, c') = r at hs
  cases hs with
  | @ended o gap hg =>
    cases hr
    rw [← List.append_nil gap] at h
    have hin := h.advance
    refine ⟨o + gap.length, rfl, Nat.le_add_right _ _, ?_, .inr ⟨rfl, ?_⟩⟩
    · rw [← show [] = source.drop (o + gap.length) from hin.rest_eq]
      exact next_of_rest_nil rfl
    · have hlen := congrArg List.length hin.rest_eq
      have hle := hin.offset_le
      simp only [List.length_nil, List.length_drop] at hlen
      dsimp only at hle
      omega
  | @token o gap text after l hg hw =>
    cases hr
    have hin := h.advance
    refine ⟨o + gap.length, rfl, Nat.le_add_right _ _, ?_, .inl ?_⟩
    · rw [← show text ++ after = source.drop (o + gap.length) from hin.rest_eq]
      exact next_written hw _
    · have hpos := hw.length_pos
      dsimp only
      omega
  | fault hg hw => cases hr

/-- **A fault** is shown at the offset of what spoils the text. The cursor is left on an unknown
symbol, and behind a run that is no numeral. -/
theorem In.fault {e : SourceFault} (h : In source c) (hn : c.next = (.error e, c')) :
    ∃ (o : Nat) (text after : List Char), e.offset = o ∧ Spoils e.cause text after ∧
      source.drop o = text ++ after ∧ c' = ⟨o + text.length, after⟩ := by
  have hs := stepped_next c
  rw [hn] at hs
  generalize hr : (Except.error e, c') = r at hs
  cases hs with
  | ended hg => cases hr
  | token hg hw => cases hr
  | @fault o gap text after cause hg hw =>
    cases hr
    exact ⟨o + gap.length, text, after, rfl, hw, h.advance.rest_eq.symm, rfl⟩

end Cursor

/-! ### Sound streams -/

namespace TokenStream

/-- The cursor stands in the text. The lookahead is the token that a fresh reading at its offset
gives, and it ends at or before the cursor. -/
structure Sound (source : List Char) (s : TokenStream) : Prop where
  cursor : s.cursor.In source
  lookahead : ∀ t, s.lookahead = some t → ∃ (o : Nat) (c : Cursor), t.offset = o ∧
    Cursor.next ⟨o, source.drop o⟩ = (.ok t, c) ∧ c.offset ≤ s.cursor.offset

theorem sound_start (source : List Char) : (start source).Sound source where
  cursor := Cursor.in_start source
  lookahead := nofun

/-- The later stream is sound, and nothing of it lies before the earlier one. -/
structure Advances (source : List Char) (s s' : TokenStream) : Prop where
  sound : s'.Sound source
  offset_le : s.cursor.offset ≤ s'.cursor.offset
  front_le : s.front ≤ s'.front

variable {source : List Char} {s s' s'' : TokenStream} {t : Token} {k : Kind}

theorem Sound.refl (h : s.Sound source) : Advances source s s :=
  ⟨h, Nat.le_refl _, Int.le_refl _⟩

theorem Advances.trans (h : Advances source s s') (h' : Advances source s' s'') :
    Advances source s s'' :=
  ⟨h'.sound, Nat.le_trans h.offset_le h'.offset_le, Int.le_trans h.front_le h'.front_le⟩

/-- A token of a text ends in it, or is the end of the input and stands at its end. -/
def Fits (source : List Char) (t : Token) : Prop :=
  t.offset < source.length ∨ t.kind = .endOfInput ∧ t.offset = source.length

theorem Sound.lookahead_cases (h : s.Sound source) (ht : s.lookahead = some t) :
    t.offset ≤ s.cursor.offset ∧
      (t.offset < s.cursor.offset ∨ t.kind = .endOfInput ∧ t.offset = source.length) := by
  obtain ⟨o, c, ho, hn, hc⟩ := h.lookahead t ht
  -- A fresh reading starts in the text, as the lookahead ends there.
  have hin : Cursor.In source ⟨o, source.drop o⟩ := by
    refine ⟨?_, rfl⟩
    by_contra hlt
    rw [List.drop_eq_nil_of_le (by dsimp only at hlt; omega), Cursor.next_of_rest_nil rfl] at hn
    have hc' : c.offset = o := by cases hn; rfl
    have := h.cursor.offset_le
    dsimp only at hlt
    omega
  obtain ⟨o', ho', -, -, hlt⟩ := hin.token hn
  have hmono := hin.next.2
  rw [hn] at hmono
  dsimp only at hmono
  have : o' = o := by omega
  subst this
  refine ⟨by omega, ?_⟩
  rcases hlt with hlt | ⟨hk, hlt⟩
  · exact .inl (by omega)
  · exact .inr ⟨hk, by omega⟩

theorem Sound.fits (h : s.Sound source) (ht : s.lookahead = some t) : Fits source t := by
  have hle := h.cursor.offset_le
  rcases (h.lookahead_cases ht).2 with hlt | hend
  · exact .inl (by omega)
  · exact .inr hend

theorem Sound.front_le (h : s.Sound source) : s.front ≤ s.cursor.offset := by
  unfold front
  split
  · next t ht => exact (h.lookahead_cases ht).1
  · exact Int.le_refl _

theorem Sound.pull (h : s.Sound source) : Advances source s (Parse.pull.run s).2 := by
  rw [Parse.run_pull]
  obtain ⟨hin, hle⟩ := h.cursor.next
  rcases hn : s.cursor.next with ⟨e | t, c⟩
  · rw [hn] at hin hle
    refine ⟨⟨hin, fun t ht => ?_⟩, hle, ?_⟩
    · obtain ⟨o, c', ho, hf, hc⟩ := h.lookahead t ht
      exact ⟨o, c', ho, hf, Nat.le_trans hc hle⟩
    · unfold front
      dsimp only
      split
      · exact Int.le_refl _
      · exact Int.ofNat_le.mpr hle
  · rw [hn] at hin hle
    obtain ⟨o, ho, hco, hf, -⟩ := h.cursor.token hn
    refine ⟨⟨hin, fun u hu => ?_⟩, hle, ?_⟩
    · cases hu
      exact ⟨o, c, ho, hf, Nat.le_refl _⟩
    · have hfront := h.front_le
      have ht : (⟨c, some t⟩ : TokenStream).front = t.offset := rfl
      dsimp only
      omega

theorem Sound.current (h : s.Sound source) : Advances source s (Parse.current.run s).2 := by
  rw [Parse.run_current]
  split
  · exact h.refl
  · exact h.pull

end TokenStream

namespace Parse

open TokenStream

variable {source : List Char} {s s' : TokenStream} {t : Token} {k : Kind}

/-- Taking a token: what comes next is looked at, and if it is of the right kind, the token behind it
is read. -/
theorem run_eat (k : Kind) (s : TokenStream) :
    (eat k).run s = match current.run s with
      | (.error e, s1) => (.error e, s1)
      | (.ok t, s1) =>
        if t.kind = k then
          match pull.run s1 with
          | (.error e, s2) => (.error e, s2)
          | (.ok _, s2) => (.ok t, s2)
        else (.error (.fault ⟨.unexpectedToken (.exactly k) t.kind, t.offset⟩), s1) := by
  rw [eat, run_bind]
  rcases hc : current.run s with ⟨e | t, s1⟩
  · rfl
  · dsimp only
    split
    · rw [run_bind]
      rcases pull.run s1 with ⟨e | u, s2⟩ <;> rfl
    · rw [refuse, run_bind, run_current, current_lookahead hc]
      rfl

theorem advances_eat (h : s.Sound source) (k : Kind) : Advances source s ((eat k).run s).2 := by
  have hc := h.current
  rw [run_eat]
  generalize current.run s = r at hc
  rcases r with ⟨e | t, s1⟩
  · exact hc
  · dsimp only
    split
    · have hp := hc.trans hc.sound.pull
      dsimp only at hp
      generalize pull.run s1 = r at hp
      rcases r with ⟨e | u, s2⟩ <;> exact hp
    · exact hc

/-- **A token that is taken** was the next one. Everything else comes behind it, unless it is the end
of the input. -/
theorem eat_front (h : s.Sound source) (he : (eat k).run s = (.ok t, s')) :
    s.front ≤ t.offset ∧ Fits source t ∧ t.offset ≤ s'.front ∧
      (t.offset < s'.front ∨ t.kind = .endOfInput ∧ t.offset = source.length) := by
  have hc := h.current
  rw [run_eat] at he
  rcases hcur : current.run s with ⟨e | u, s1⟩
  · rw [hcur] at he
    cases he
  rw [hcur] at he hc
  have hl := current_lookahead hcur
  have hfront : s1.front = u.offset := by rw [front, hl]
  dsimp only at he hc
  split at he
  · have hp := hc.sound.pull
    rw [run_pull] at he hp
    rcases hn : s1.cursor.next with ⟨e | v, c⟩
    · rw [hn] at he
      cases he
    · rw [hn] at he hp
      cases he
      obtain ⟨o, ho, hco, -, -⟩ := hc.sound.cursor.token hn
      refine ⟨hfront ▸ hc.front_le, hc.sound.fits hl, hfront ▸ hp.front_le, ?_⟩
      rcases (hc.sound.lookahead_cases hl).2 with hlt | hend
      · left
        change t.offset < v.offset
        omega
      · exact .inr hend
  · cases he

/-- **A token that is refused** while it was the lookahead leaves the stream as it was. -/
theorem eat_refused {x : Expected} {j : Kind} {p : Int} (hl : s.lookahead = some t)
    (he : (eat k).run s = (.error (.fault ⟨.unexpectedToken x j, p⟩), s')) : s' = s := by
  rw [run_eat, run_current, hl] at he
  dsimp only at he
  split at he
  · rw [run_pull] at he
    rcases hn : s.cursor.next with ⟨e | u, c⟩
    · rw [hn] at he
      -- The fault of the text is not one of the grammar.
      have hf := Cursor.family_of_next hn
      cases he
      cases hf
    · rw [hn] at he
      cases he
  · cases he
    rfl

/-- **A fault behind the token that was to be taken** leaves this token the lookahead, and the cursor
on the unknown symbol or behind the run that is no numeral. -/
theorem eat_spoiled {s1 : TokenStream} {e : Stop SourceFault} (h : s.Sound source)
    (hc : current.run s = (.ok t, s1)) (hk : t.kind = k) (he : (eat k).run s = (.error e, s')) :
    s'.lookahead = some t ∧ ∃ (cause : Cause) (o : Nat) (text after : List Char),
      e = .fault ⟨cause, o⟩ ∧ Spoils cause text after ∧ source.drop o = text ++ after ∧
        s'.cursor = ⟨o + text.length, after⟩ := by
  have hs1 : s1.Sound source := by
    have := h.current.sound
    rwa [hc] at this
  have hl := current_lookahead hc
  rw [run_eat, hc] at he
  dsimp only at he
  rw [if_pos hk, run_pull] at he
  rcases hn : s1.cursor.next with ⟨⟨cause, p⟩ | u, c⟩
  · rw [hn] at he
    cases he
    obtain ⟨o, text, after, ho, hsp, hd, rfl⟩ := hs1.cursor.fault hn
    dsimp only at ho
    subst ho
    exact ⟨hl, cause, o, text, after, rfl, hsp, hd, rfl⟩
  · rw [hn] at he
    cases he

/-! ### Steps -/

/-- What a parser does to its stream: looking at the next token, or taking it. -/
inductive Step
  | look
  | eat (kind : Kind)

/-- The action of a step. -/
def Step.action : Step → Parse Token
  | look => current
  | eat k => Parse.eat k

end Parse

namespace TokenStream

open Parse (Step)

/-- The stream after steps, each of which may have failed. -/
def after (s : TokenStream) : List Step → TokenStream
  | [] => s
  | step :: steps => (step.action.run s).2.after steps

/-- The token that a step takes, if it does. -/
def taken (s : TokenStream) : Step → Option Token
  | .look => none
  | .eat k => ((Parse.eat k).run s).1.toOption

/-- The tokens that steps take, in order. -/
def handed (s : TokenStream) : List Step → List Token
  | [] => []
  | step :: steps => (s.taken step).toList ++ (step.action.run s).2.handed steps

theorem after_append (steps more : List Step) : ∀ s : TokenStream,
    s.after (steps ++ more) = (s.after steps).after more := by
  induction steps with
  | nil => exact fun _ => rfl
  | cons step steps ih => exact fun s => ih _

variable {source : List Char} {s : TokenStream}

/-- **A step keeps a stream sound and never goes back.** -/
theorem Sound.advances (h : s.Sound source) (step : Step) :
    Advances source s (step.action.run s).2 := by
  cases step with
  | look => exact h.current
  | eat k => exact Parse.advances_eat h k

theorem Sound.advances_after (steps : List Step) : ∀ {s : TokenStream}, s.Sound source →
    Advances source s (s.after steps) := by
  induction steps with
  | nil => exact fun h => h.refl
  | cons step steps ih => exact fun h => (h.advances step).trans (ih (h.advances step).sound)

/-- One token stands before another; only the end of the input comes again. -/
def Before (source : List Char) (t u : Token) : Prop :=
  t.offset < u.offset ∨ t.kind = .endOfInput ∧ u.kind = .endOfInput ∧
    t.offset = source.length ∧ u.offset = source.length

/-- **Tokens are taken in the order in which they stand in the text.** -/
theorem pairwise_handed (steps : List Step) : ∀ s : TokenStream, s.Sound source →
    (∀ t ∈ s.handed steps, s.front ≤ t.offset ∧ Fits source t) ∧
      (s.handed steps).Pairwise (Before source) := by
  induction steps with
  | nil => exact fun s _ => ⟨nofun, .nil⟩
  | cons step steps ih =>
    intro s h
    have hadv := h.advances step
    obtain ⟨hall, hpair⟩ := ih _ hadv.sound
    have hrest : ∀ t ∈ (step.action.run s).2.handed steps, s.front ≤ t.offset ∧ Fits source t :=
      fun t ht => ⟨Int.le_trans hadv.front_le (hall t ht).1, (hall t ht).2⟩
    rw [handed]
    rcases htaken : s.taken step with _ | t
    · exact ⟨hrest, hpair⟩
    · obtain ⟨k, rfl⟩ : ∃ k, step = .eat k := by
        cases step with
        | look => cases htaken
        | eat k => exact ⟨k, rfl⟩
      rcases he : (Parse.eat k).run s with ⟨e | u, s'⟩
      · rw [taken, he] at htaken
        cases htaken
      · rw [taken, he] at htaken
        cases htaken
        rw [show ((Step.eat k).action.run s) = (.ok t, s') from he] at hall hpair hrest ⊢
        obtain ⟨hfront, hfits, hle, hnext⟩ := Parse.eat_front h he
        refine ⟨fun u hu => ?_, List.pairwise_cons.mpr ⟨fun u hu => ?_, hpair⟩⟩
        · rcases List.mem_cons.mp hu with rfl | hu
          · exact ⟨hfront, hfits⟩
          · exact hrest u hu
        · obtain ⟨hu1, hu2⟩ := hall u hu
          rcases hnext with hlt | ⟨hk, hend⟩
          · exact .inl (Int.lt_of_lt_of_le hlt hu1)
          · -- Nothing stands behind the end of the text but the end of the input.
            dsimp only at hu1
            rcases hu2 with hu2 | ⟨hku, hu2⟩
            · omega
            · exact .inr ⟨hk, hku, hend, hu2⟩

end TokenStream

end BlockCalc
