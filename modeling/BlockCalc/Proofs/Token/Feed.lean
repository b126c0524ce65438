import BlockCalc.Proofs.Token.Reading
import BlockCalc.Token.Stream

/-! # What is still to come

A token stream reads lazily, so a token and the fault after it may both be still unread. The *feed*
of a cursor is everything it would hand out if it were asked to: tokens, and then either the end of
the input or the first fault of the text. `TokenStream.Holds s ts e` says that the stream `s`, its
lookahead included, still holds the tokens `ts`, and after them the fault `e` if there is one.

* `run_current_cons`, `run_current_nil`, `run_eat_ne`, `run_eat_cons`, `run_eat_last`,
  `run_eat_end`: what looking at a token and taking it do to what a stream holds.
* `Cursor.pairwise_feed`: the offsets of a feed increase.
* `Cursor.spelled_feed`: names and numbers of a feed are spelled as the language has them.
* `Cursor.feed_moved`: the feed of a text that stands further on. -/

namespace BlockCalc

namespace Cursor

/-! ### The feed of a cursor -/

theorem drain_of_error {c c' : Cursor} {e : SourceFault} (h : c.next = (.error e, c')) :
    c.drain = ([], some e, c') := by
  unfold drain
  split
  · next h' => rw [h] at h'; cases h'; rfl
  · next h' => rw [h] at h'; cases h'

theorem drain_of_end {c c' : Cursor} {t : Token} (h : c.next = (.ok t, c'))
    (ht : t.kind = .endOfInput) : c.drain = ([t], none, c') := by
  unfold drain
  split
  · next h' => rw [h] at h'; cases h'
  · next h' =>
    rw [h] at h'
    cases h'
    rw [dif_pos ht]

theorem drain_of_token {c c' : Cursor} {t : Token} (h : c.next = (.ok t, c'))
    (ht : t.kind ≠ .endOfInput) : c.drain = (t :: c'.drain.1, c'.drain.2.1, c'.drain.2.2) := by
  conv_lhs => unfold drain
  split
  · next h' => rw [h] at h'; cases h'
  · next h' =>
    rw [h] at h'
    cases h'
    rw [dif_neg ht]

/-- The tokens up to the end of the input or the first fault, and the fault. -/
def feed (c : Cursor) : List Token × Option SourceFault := (c.drain.1, c.drain.2.1)

theorem feed_of_error {c c' : Cursor} {e : SourceFault} (h : c.next = (.error e, c')) :
    c.feed = ([], some e) := by
  rw [feed, drain_of_error h]

theorem feed_of_end {c c' : Cursor} {t : Token} (h : c.next = (.ok t, c'))
    (ht : t.kind = .endOfInput) : c.feed = ([t], none) := by
  rw [feed, drain_of_end h ht]

theorem feed_of_token {c c' : Cursor} {t : Token} (h : c.next = (.ok t, c'))
    (ht : t.kind ≠ .endOfInput) : c.feed = (t :: c'.feed.1, c'.feed.2) := by
  rw [feed, drain_of_token h ht, feed]

/-- A property of feeds holds of all of them if it holds at a fault and at the end of the input, and
goes from what follows a token to the token with it. -/
theorem feed_induction {P : Cursor → List Token → Option SourceFault → Prop}
    (hfault : ∀ c c' e, c.next = (.error e, c') → P c [] (some e))
    (hend : ∀ c c' t, c.next = (.ok t, c') → t.kind = .endOfInput → P c [t] none)
    (htoken : ∀ c c' t, c.next = (.ok t, c') → t.kind ≠ .endOfInput →
      P c' c'.feed.1 c'.feed.2 → P c (t :: c'.feed.1) c'.feed.2) :
    ∀ c : Cursor, P c c.feed.1 c.feed.2 := by
  intro c
  induction hn : c.remaining using Nat.strongRecOn generalizing c with
  | ind n ih =>
    rcases h : c.next with ⟨e | t, c'⟩
    · rw [feed_of_error h]
      exact hfault c c' e h
    · by_cases ht : t.kind = .endOfInput
      · rw [feed_of_end h ht]
        exact hend c c' t h ht
      · rw [feed_of_token h ht]
        have hlt := next_remaining_lt h ht
        exact htoken c c' t h ht (ih _ (hn ▸ hlt) c' rfl)

theorem tokenize_eq_ok_iff {source : List Char} {ts : List Token} :
    tokenize source = .ok ts ↔ (start source).feed = (ts, none) := by
  unfold tokenize feed
  rcases (start source).drain with ⟨us, _ | e, c⟩ <;> simp

theorem tokenize_eq_error_iff {source : List Char} {e : SourceFault} :
    tokenize source = .error e ↔ (start source).feed.2 = some e := by
  unfold tokenize feed
  rcases (start source).drain with ⟨us, _ | f, c⟩ <;> simp

/-! ### Where a feed ends -/

/-- The end of the input comes last, and only where no fault comes. -/
theorem eq_nil_of_feed {c : Cursor} {vs : List Token} {t : Token} {e : Option SourceFault}
    (us : List Token) (h : c.feed = (us ++ t :: vs, e)) (ht : t.kind = .endOfInput) :
    vs = [] ∧ e = none := by
  have key : ∀ us, c.feed.1 = us ++ t :: vs → vs = [] ∧ c.feed.2 = none := by
    refine feed_induction (P := fun _ ts f => ∀ us, ts = us ++ t :: vs → vs = [] ∧ f = none)
      ?_ ?_ ?_ c
    · intro c c' e _ us hus
      simp at hus
    · intro c c' u _ _ us hus
      rcases us with _ | ⟨v, us⟩
      · exact ⟨(List.cons.inj hus).2.symm, rfl⟩
      · simp at hus
    · intro c c' u _ hu ih us hus
      rcases us with _ | ⟨v, us⟩
      · exact absurd (by rw [(List.cons.inj hus).1]; exact ht) hu
      · exact ih us (List.cons.inj hus).2
  have := key us (by rw [h])
  rwa [h] at this

/-- Without a fault, the end of the input does come. -/
theorem exists_end_of_feed {c : Cursor} {ts : List Token} (h : c.feed = (ts, none)) :
    ∃ us p, ts = us ++ [⟨.endOfInput, p⟩] := by
  have key : c.feed.2 = none → ∃ us p, c.feed.1 = us ++ [⟨.endOfInput, p⟩] := by
    refine feed_induction (P := fun _ ts f => f = none → ∃ us p, ts = us ++ [⟨.endOfInput, p⟩])
      ?_ ?_ ?_ c
    · intro c c' e _ hn
      cases hn
    · rintro c c' ⟨l, p⟩ _ ht _
      cases l <;> cases ht
      exact ⟨[], p, rfl⟩
    · intro c c' t _ _ ih hn
      obtain ⟨us, p, hus⟩ := ih hn
      exact ⟨t :: us, p, by rw [hus]; rfl⟩
  have := key (by rw [h])
  rwa [h] at this

theorem family_of_feed {c : Cursor} {e : SourceFault} (h : c.feed.2 = some e) :
    e.cause.family = .lexical := by
  have key : ∀ e, c.feed.2 = some e → e.cause.family = .lexical := by
    refine feed_induction (P := fun _ _ f => ∀ e, f = some e → e.cause.family = .lexical) ?_ ?_ ?_ c
    · rintro c c' e hn _ ⟨⟩
      exact family_of_next hn
    · intro c c' t _ _ e he
      cases he
    · intro c c' t _ _ ih
      exact ih
  exact key e h

/-! ### Offsets and spelling -/

theorem forall_offset_le_feed (c : Cursor) : ∀ t ∈ c.feed.1, (c.offset : Int) ≤ t.offset := by
  refine feed_induction (P := fun c ts _ => ∀ t ∈ ts, (c.offset : Int) ≤ t.offset) ?_ ?_ ?_ c
  · intro c c' e _ t ht
    cases ht
  · intro c c' t h _ u hu
    cases List.mem_singleton.mp hu
    exact offset_le_of_next h
  · intro c c' t h ht ih u hu
    have h1 := offset_le_of_next h
    rcases List.mem_cons.mp hu with rfl | hu
    · exact h1
    · have h2 := offset_lt_of_next h ht
      have h3 := ih u hu
      omega

theorem pairwise_feed (c : Cursor) : c.feed.1.Pairwise fun t u => t.offset < u.offset := by
  refine feed_induction (P := fun _ ts _ => ts.Pairwise fun t u => t.offset < u.offset) ?_ ?_ ?_ c
  · intro c c' e _
    exact .nil
  · intro c c' t _ _
    exact List.pairwise_singleton _ _
  · intro c c' t h ht ih
    refine .cons (fun u hu => ?_) ih
    have h1 := offset_lt_of_next h ht
    have h2 := forall_offset_le_feed c' u hu
    omega

theorem spelled_feed (c : Cursor) : ∀ t ∈ c.feed.1, t.lexeme.Spelled := by
  refine feed_induction (P := fun _ ts _ => ∀ t ∈ ts, t.lexeme.Spelled) ?_ ?_ ?_ c
  · intro c c' e _ t ht
    cases ht
  · intro c c' t h _ u hu
    cases List.mem_singleton.mp hu
    exact spelled_of_next h
  · intro c c' t h _ ih u hu
    rcases List.mem_cons.mp hu with rfl | hu
    · exact spelled_of_next h
    · exact ih u hu

end Cursor

/-! ### A text that stands further on -/

/-- The token, a number of characters further on. -/
def Token.moved (k : Nat) (t : Token) : Token := ⟨t.lexeme, t.offset + k⟩

/-- The fault, a number of characters further on. -/
def SourceFault.moved (k : Nat) (e : SourceFault) : SourceFault := ⟨e.cause, e.offset + k⟩

namespace Cursor

/-- The same text to read, a number of characters further on. -/
def moved (k : Nat) (c : Cursor) : Cursor := ⟨c.offset + k, c.rest⟩

theorem skip_moved (k : Nat) (p : Char → Bool) (c : Cursor) :
    (c.moved k).skip p = (c.skip p).moved k := by
  simp only [moved, skip, Cursor.mk.injEq, and_true]
  omega

theorem read_moved (k : Nat) (c : Cursor) : (c.moved k).read =
    ((c.read.1.map (Token.moved k)).mapError (SourceFault.moved k), c.read.2.moved k) := by
  have hoffset : ((c.moved k).offset : Int) = (c.offset : Int) + k := by simp [moved]
  have hrest : (c.moved k).rest = c.rest := rfl
  unfold read
  rw [hrest, hoffset, skip_moved, skip_moved]
  rcases c.rest with _ | ⟨x, rest⟩
  · rfl
  · dsimp only
    rcases Lexeme.ofSymbol? x with _ | l
    · dsimp only
      split_ifs <;> rfl
    · have hnext : c.offset + k + 1 = c.offset + 1 + k := by omega
      simp only [moved, hnext]
      rfl

theorem next_moved (k : Nat) (c : Cursor) : (c.moved k).next =
    ((c.next.1.map (Token.moved k)).mapError (SourceFault.moved k), c.next.2.moved k) := by
  unfold next
  rw [skip_moved, read_moved]

/-- **A text that stands further on has its tokens further on**, and its fault. -/
theorem feed_moved (k : Nat) (c : Cursor) :
    (c.moved k).feed = (c.feed.1.map (Token.moved k), c.feed.2.map (SourceFault.moved k)) := by
  refine feed_induction (P := fun c ts e => (c.moved k).feed =
    (ts.map (Token.moved k), e.map (SourceFault.moved k))) ?_ ?_ ?_ c
  · intro c c' e h
    have hnext := next_moved k c
    rw [h] at hnext
    exact feed_of_error hnext
  · intro c c' t h ht
    have hnext := next_moved k c
    rw [h] at hnext
    exact feed_of_end hnext ht
  · intro c c' t h ht ih
    have hnext := next_moved k c
    rw [h] at hnext
    have hfeed := feed_of_token hnext ht
    rw [ih] at hfeed
    exact hfeed

end Cursor

/-! ### The tokens that a stream holds -/

namespace TokenStream

/-- The stream still holds these tokens, and after them this fault if there is one. After the end of
the input nothing is left of the text. -/
inductive Holds : TokenStream → List Token → Option SourceFault → Prop
  | unread {c ts e} : c.feed = (ts, e) → Holds ⟨c, none⟩ ts e
  | ahead {c t ts e} : t.kind ≠ .endOfInput → c.feed = (ts, e) → Holds ⟨c, some t⟩ (t :: ts) e
  | ended {c t} : t.kind = .endOfInput → c.rest = [] → Holds ⟨c, some t⟩ [t] none

theorem holds_start (source : List Char) :
    (start source).Holds (Cursor.start source).feed.1 (Cursor.start source).feed.2 :=
  .unread rfl

theorem Holds.eq_nil {s : TokenStream} {t : Token} {ts : List Token} {e : Option SourceFault}
    (h : s.Holds (t :: ts) e) (ht : t.kind = .endOfInput) : ts = [] ∧ e = none := by
  cases h with
  | unread h => exact Cursor.eq_nil_of_feed [] h ht
  | ahead hn _ => exact absurd ht hn
  | ended _ _ => exact ⟨rfl, rfl⟩

/-- A last token with no fault after it is the end of the input. -/
theorem Holds.kind_of_last {s : TokenStream} {t : Token} (h : s.Holds [t] none) :
    t.kind = .endOfInput := by
  cases h with
  | unread h =>
    obtain ⟨us, p, hus⟩ := Cursor.exists_end_of_feed h
    rcases us with _ | ⟨u, us⟩
    · cases hus
      rfl
    · simp at hus
  | ahead _ h =>
    obtain ⟨us, p, hus⟩ := Cursor.exists_end_of_feed h
    simp at hus
  | ended ht _ => exact ht

end TokenStream

namespace Parse

variable {s : TokenStream} {t u : Token} {ts : List Token} {e : Option SourceFault}
  {f : SourceFault} {k : Kind}

theorem run_bind_ok {α β : Type} {s1 : TokenStream} {x : Parse α} {a : α}
    (h : x.run s = (.ok a, s1)) (f : α → Parse β) : (x >>= f).run s = (f a).run s1 := by
  rw [run_bind, h]

theorem run_bind_error {α β : Type} {s1 : TokenStream} {x : Parse α} {e : Stop SourceFault}
    (h : x.run s = (.error e, s1)) (f : α → Parse β) : (x >>= f).run s = (.error e, s1) := by
  rw [run_bind, h]

theorem run_pull_cons (h : s.cursor.feed = (t :: ts, e)) :
    ∃ s', pull.run s = (.ok t, s') ∧ s'.Holds (t :: ts) e := by
  rw [run_pull]
  rcases hn : s.cursor.next with ⟨f | u, c⟩
  · rw [Cursor.feed_of_error hn] at h
    simp at h
  · by_cases hu : u.kind = .endOfInput
    · rw [Cursor.feed_of_end hn hu] at h
      cases h
      exact ⟨_, rfl, .ended hu (Cursor.rest_of_end hn hu)⟩
    · rw [Cursor.feed_of_token hn hu] at h
      cases h
      exact ⟨_, rfl, .ahead hu rfl⟩

theorem run_pull_nil (h : s.cursor.feed = ([], e)) :
    ∃ f s', e = some f ∧ pull.run s = (.error (.fault f), s') := by
  rw [run_pull]
  rcases hn : s.cursor.next with ⟨f | u, c⟩
  · rw [Cursor.feed_of_error hn] at h
    cases h
    exact ⟨f, _, rfl, rfl⟩
  · by_cases hu : u.kind = .endOfInput
    · rw [Cursor.feed_of_end hn hu] at h
      simp at h
    · rw [Cursor.feed_of_token hn hu] at h
      simp at h

/-- A look at the next token takes nothing away. -/
theorem run_current_cons (h : s.Holds (t :: ts) e) :
    ∃ s', current.run s = (.ok t, s') ∧ s'.Holds (t :: ts) e := by
  rw [run_current]
  cases h with
  | unread h => exact run_pull_cons h
  | ahead ht h => exact ⟨_, rfl, .ahead ht h⟩
  | ended ht h => exact ⟨_, rfl, .ended ht h⟩

theorem run_current_nil (h : s.Holds [] e) :
    ∃ f s', e = some f ∧ current.run s = (.error (.fault f), s') := by
  rw [run_current]
  cases h with
  | unread h => exact run_pull_nil h

theorem run_refuse {α : Type} (expected : Expected) (h : s.Holds (t :: ts) e) :
    ∃ s', (refuse expected : Parse α).run s =
      (.error (.fault ⟨.unexpectedToken expected t.kind, t.offset⟩), s') := by
  obtain ⟨s', hc, -⟩ := run_current_cons h
  refine ⟨s', ?_⟩
  rw [refuse, run_bind, hc]
  rfl

theorem run_eat_ne (h : s.Holds (t :: ts) e) (hk : t.kind ≠ k) :
    ∃ s', (eat k).run s =
      (.error (.fault ⟨.unexpectedToken (.exactly k) t.kind, t.offset⟩), s') := by
  obtain ⟨s1, hc, h1⟩ := run_current_cons h
  obtain ⟨s2, hr⟩ := run_refuse (α := Token) (.exactly k) h1
  refine ⟨s2, ?_⟩
  rw [eat, run_bind, hc]
  dsimp only
  rw [if_neg hk, hr]

/-- A token of the kind asked for is taken once the token after it is read. -/
theorem run_eat_of_kind (h : s.Holds (t :: ts) e) (hk : t.kind = k) :
    ∃ s1, s1.Holds (t :: ts) e ∧ s1.lookahead = some t ∧
      (eat k).run s = match pull.run s1 with
        | (.ok _, s2) => (.ok t, s2)
        | (.error f, s2) => (.error f, s2) := by
  obtain ⟨s1, hc, h1⟩ := run_current_cons h
  refine ⟨s1, h1, current_lookahead hc, ?_⟩
  rw [eat, run_bind, hc]
  dsimp only
  rw [if_pos hk, run_bind]
  rcases pull.run s1 with ⟨f | v, s2⟩ <;> rfl

theorem feed_of_lookahead (h : s.Holds (t :: ts) e) (hl : s.lookahead = some t)
    (ht : t.kind ≠ .endOfInput) : s.cursor.feed = (ts, e) := by
  cases h with
  | unread _ => cases hl
  | ahead _ h => exact h
  | ended he _ => exact absurd he ht

theorem run_eat_cons (h : s.Holds (t :: u :: ts) e) (hk : t.kind = k) :
    ∃ s', (eat k).run s = (.ok t, s') ∧ s'.Holds (u :: ts) e := by
  have ht : t.kind ≠ .endOfInput := fun ht => by have := (h.eq_nil ht).1; simp at this
  obtain ⟨s1, h1, hl, hr⟩ := run_eat_of_kind h hk
  obtain ⟨s2, hp, h2⟩ := run_pull_cons (feed_of_lookahead h1 hl ht)
  exact ⟨s2, by rw [hr, hp], h2⟩

theorem run_eat_last (h : s.Holds [t] (some f)) (hk : t.kind = k) :
    ∃ s', (eat k).run s = (.error (.fault f), s') := by
  have ht : t.kind ≠ .endOfInput := fun ht => by have := (h.eq_nil ht).2; cases this
  obtain ⟨s1, h1, hl, hr⟩ := run_eat_of_kind h hk
  obtain ⟨g, s2, hg, hp⟩ := run_pull_nil (feed_of_lookahead h1 hl ht)
  cases hg
  exact ⟨s2, by rw [hr, hp]⟩

theorem run_eat_end (h : s.Holds [t] none) :
    ∃ s', (eat .endOfInput).run s = (.ok t, s') := by
  have ht := h.kind_of_last
  obtain ⟨s1, h1, hl, hr⟩ := run_eat_of_kind h ht
  cases h1 with
  | unread _ => cases hl
  | ahead hn _ => exact absurd ht hn
  | ended _ hrest => exact ⟨_, by rw [hr, run_pull, Cursor.next_of_rest_nil hrest]⟩

end Parse

end BlockCalc
