import BlockCalc.Proofs.Token.StreamState

/-! # Calls of a cursor

A cursor is asked for the next token, or for all tokens up to the end of the input or the first
fault, and it can be asked again after a fault (`Cursor.Call`). `Cursor.Upshot` says what asking for
the next token can come to, and in which of these cases the cursor moves on. At the end of the input
and on an unknown symbol it is at rest (`Cursor.Rests`): every later call has the same answer. A run
that is no numeral is passed over, so that reading goes on behind it.

What a call hands out and what is still to come after it make up what was to come before it
(`Cursor.proper_answer`), so the tokens of any calls are the first tokens of the text, up to a
fault.

* `Cursor.In.upshot`: a step, for a cursor in a text.
* `Cursor.drained_drain`: asking for all tokens is asking for the next one again and again, and this
  comes to an end.
* `cursor_progress`: what holds after any calls. -/

namespace BlockCalc

namespace Cursor

/-- What a cursor can be asked for. -/
inductive Call
  | next
  | drain

/-- The tokens that a call hands out, the fault with which it ends if there is one, and the cursor
after it. -/
def answer (c : Cursor) : Call → List Token × Option SourceFault × Cursor
  | .next =>
    match c.next with
    | (.ok t, c') => ([t], none, c')
    | (.error e, c') => ([], some e, c')
  | .drain => c.drain

/-- The cursor after calls, each of which may have failed. -/
def after (c : Cursor) : List Call → Cursor
  | [] => c
  | call :: calls => (c.answer call).2.2.after calls

/-- The tokens that calls hand out before the first fault. -/
def handed (c : Cursor) : List Call → List Token
  | [] => []
  | call :: calls =>
    match c.answer call with
    | (ts, none, c') => ts ++ c'.handed calls
    | (ts, some _, _) => ts

/-- The tokens other than the end of the input. -/
def proper (ts : List Token) : List Token := ts.filter fun t => t.kind ≠ .endOfInput

/-- Going on with the next token up to the end of the input or a fault. -/
inductive Drained : Cursor → List Token → Option SourceFault → Cursor → Prop
  | fault {c c' e} : c.next = (.error e, c') → Drained c [] (some e) c'
  | ended {c c' t} : c.next = (.ok t, c') → t.kind = .endOfInput → Drained c [t] none c'
  | more {c c' c'' t ts f} : c.next = (.ok t, c') → t.kind ≠ .endOfInput → Drained c' ts f c'' →
      Drained c (t :: ts) f c''

/-- Every later call hands out the same tokens, ends with the same fault, and leaves the cursor
where it is. -/
def Rests (c : Cursor) (ts : List Token) (f : Option SourceFault) : Prop :=
  ∀ calls call, (c.after calls).answer call = (ts, f, c)

/-- What asking for the next token can come to. -/
inductive Upshot (source : List Char) (c : Cursor) : Except SourceFault Token × Cursor → Prop
  /-- A token, and the cursor moves on. -/
  | token {t c'} : t.kind ≠ .endOfInput → c.offset < c'.offset → Upshot source c (.ok t, c')
  /-- The end of the input, now and ever after. -/
  | ended {c'} : c'.offset = source.length → Rests c' [⟨.endOfInput, source.length⟩] none →
      Upshot source c (.ok ⟨.endOfInput, source.length⟩, c')
  /-- An unknown symbol, on which the cursor stays. -/
  | stuck {x c'} : source[c'.offset]? = some x →
      Rests c' [] (some ⟨.unknownSymbol (String.singleton x), c'.offset⟩) →
      Upshot source c (.error ⟨.unknownSymbol (String.singleton x), c'.offset⟩, c')
  /-- A run that is no numeral, all of which is passed over. -/
  | passed {run rest o c'} : c.offset ≤ o → source.drop o = run ++ rest →
      Spoils (.malformedNumber (String.ofList run)) run rest → c'.offset = o + run.length →
      c.offset < c'.offset →
      Upshot source c (.error ⟨.malformedNumber (String.ofList run), (o : Nat)⟩, c')

variable {source : List Char} {c c' : Cursor} {t : Token} {ts : List Token} {e : SourceFault}
  {f : Option SourceFault}

theorem answer_next_ok (h : c.next = (.ok t, c')) : c.answer .next = ([t], none, c') := by
  rw [answer, h]

theorem answer_next_error (h : c.next = (.error e, c')) : c.answer .next = ([], some e, c') := by
  rw [answer, h]

/-! ### Asking for all tokens -/

/-- **Asking for all tokens ends.** -/
theorem drained_drain (c : Cursor) : Drained c c.drain.1 c.drain.2.1 c.drain.2.2 := by
  -- By induction on what is left to read: every token but the end of the input takes some of it.
  induction hn : c.remaining using Nat.strongRecOn generalizing c with
  | ind n ih =>
    rcases h : c.next with ⟨e | t, c'⟩
    · rw [drain_of_error h]
      exact .fault h
    · by_cases ht : t.kind = .endOfInput
      · rw [drain_of_end h ht]
        exact .ended h ht
      · have hlt := next_remaining_lt h ht
        rw [drain_of_token h ht]
        exact .more h ht (ih c'.remaining (by omega) c' rfl)

theorem Drained.rest_eq_nil (h : Drained c ts f c') (hf : f = none) : c'.rest = [] := by
  induction h with
  | fault _ => cases hf
  | ended hn ht => exact rest_of_end hn ht
  | more _ _ _ ih => exact ih hf

theorem In.offset_lt (h : In source c) (hn : c.next = (.ok t, c')) (ht : t.kind ≠ .endOfInput) :
    c.offset < c'.offset := by
  obtain ⟨o, -, hco, -, hlt⟩ := h.token hn
  rcases hlt with hlt | hend
  · omega
  · exact absurd hend.1 ht

theorem Drained.bounds (hd : Drained c ts f c') (h : In source c) :
    In source c' ∧ c.offset ≤ c'.offset ∧ c.offset + ts.length ≤ source.length + 1 := by
  induction hd with
  | fault hn =>
    have hle := h.offset_le
    have hnext := h.next
    rw [hn] at hnext
    exact ⟨hnext.1, hnext.2, by rw [List.length_nil]; omega⟩
  | ended hn _ =>
    have hle := h.offset_le
    have hnext := h.next
    rw [hn] at hnext
    exact ⟨hnext.1, hnext.2, by rw [List.length_singleton]; omega⟩
  | more hn ht _ ih =>
    have hlt := h.offset_lt hn ht
    have hnext := h.next
    rw [hn] at hnext
    obtain ⟨hin, hle, hlen⟩ := ih hnext.1
    exact ⟨hin, by omega, by rw [List.length_cons]; omega⟩

/-! ### Where calls lead -/

/-- **A call stays in the text and never goes back.** -/
theorem In.answer (h : In source c) (call : Call) :
    In source (c.answer call).2.2 ∧ c.offset ≤ (c.answer call).2.2.offset := by
  cases call with
  | next =>
    have hnext := h.next
    rcases hn : c.next with ⟨e | t, c'⟩
    · rw [answer_next_error hn]
      rwa [hn] at hnext
    · rw [answer_next_ok hn]
      rwa [hn] at hnext
  | drain =>
    obtain ⟨hin, hle, -⟩ := (drained_drain c).bounds h
    exact ⟨hin, hle⟩

theorem In.after : ∀ (calls : List Call) {c : Cursor}, In source c →
    In source (c.after calls) ∧ c.offset ≤ (c.after calls).offset
  | [], _, h => ⟨h, Nat.le_refl _⟩
  | call :: calls, c, h => by
    obtain ⟨hin, hle⟩ := h.answer call
    obtain ⟨hin', hle'⟩ := In.after calls hin
    exact ⟨hin', Nat.le_trans hle hle'⟩

theorem rests_of_answer (h : ∀ call, c.answer call = (ts, f, c)) : Rests c ts f := by
  intro calls
  induction calls with
  | nil => exact h
  | cons call calls ih => rwa [Cursor.after, h call]

theorem rests_of_end (h : c.rest = []) : Rests c [⟨.endOfInput, c.offset⟩] none := by
  have hn := next_of_rest_nil h
  refine rests_of_answer fun call => ?_
  cases call with
  | next => exact answer_next_ok hn
  | drain => exact drain_of_end hn rfl

theorem rests_of_error (h : c.next = (.error e, c)) : Rests c [] (some e) := by
  refine rests_of_answer fun call => ?_
  cases call with
  | next => exact answer_next_error h
  | drain => exact drain_of_error h

/-! ### The next token -/

theorem In.offset_of_nil (h : In source c) (hr : c.rest = []) : c.offset = source.length := by
  have hlen := congrArg List.length h.rest_eq
  have hle := h.offset_le
  rw [hr, List.length_nil, List.length_drop] at hlen
  omega

theorem In.getElem? {x : Char} {rest : List Char} (h : In source c) (hr : c.rest = x :: rest) :
    source[c.offset]? = some x := by
  have hget : (source.drop c.offset)[0]? = source[c.offset]? := by
    rw [List.getElem?_drop, Nat.add_zero]
  rw [← hget, ← h.rest_eq, hr]
  rfl

/-- **A step**: a token or a run that is no numeral moves the cursor on; otherwise it is at rest. -/
theorem In.upshot (h : In source c) : Upshot source c c.next := by
  have hin := h.next.1
  have hs := stepped_next c
  generalize c.next = r at hs hin
  cases hs with
  | @ended o gap hg =>
    have hend := hin.offset_of_nil rfl
    have hrests := rests_of_end (c := ⟨o + gap.length, []⟩) rfl
    dsimp only at hend hrests
    rw [hend] at hrests ⊢
    exact .ended rfl hrests
  | @token o gap text after l hg hw =>
    have hpos := hw.length_pos
    exact .token hw.kind_ne (by dsimp only; omega)
  | @fault o gap text after cause hg hspoils =>
    have hfresh := next_spoiled hspoils (o + gap.length)
    have hdrop : source.drop (o + gap.length) = text ++ after := h.advance.rest_eq.symm
    cases hspoils with
    | symbol hb hs hn hd => exact .stuck (hin.getElem? rfl) (rests_of_error hfresh)
    | number hr hs hstop =>
      have hpos : 0 < text.length := by
        rcases hs with rfl | hs
        · exact Nat.one_pos
        · have := List.count_le_length (a := '.') (l := text)
          omega
      exact .passed (Nat.le_add_right _ _) hdrop (.number hr hs hstop) rfl (by dsimp only; omega)

/-! ### What is handed out -/

theorem proper_append (ts us : List Token) : proper (ts ++ us) = proper ts ++ proper us :=
  List.filter_append ts us

theorem proper_drain_of_rest (h : c.rest = []) : proper c.drain.1 = [] := by
  rw [drain_of_end (next_of_rest_nil h) rfl]
  rfl

/-- **What a call hands out**, and after it what is still to come, is what was to come before it. If
the call is faulted, what it hands out comes first. -/
theorem proper_answer (c : Cursor) (call : Call) :
    ((c.answer call).2.1 = none →
      proper c.drain.1 = proper (c.answer call).1 ++ proper (c.answer call).2.2.drain.1) ∧
    proper (c.answer call).1 <+: proper c.drain.1 := by
  cases call with
  | next =>
    rcases hn : c.next with ⟨e | t, c'⟩
    · rw [answer_next_error hn]
      exact ⟨nofun, List.nil_prefix⟩
    · have hall : proper c.drain.1 = proper [t] ++ proper c'.drain.1 := by
        by_cases ht : t.kind = .endOfInput
        · rw [drain_of_end hn ht, proper_drain_of_rest (rest_of_end hn ht), List.append_nil]
        · rw [drain_of_token hn ht, ← proper_append, List.singleton_append]
      rw [answer_next_ok hn, hall]
      exact ⟨fun _ => rfl, List.prefix_append _ _⟩
  | drain =>
    refine ⟨fun hf => ?_, List.prefix_rfl⟩
    have hrest := (drained_drain c).rest_eq_nil hf
    rw [show c.answer .drain = c.drain from rfl, proper_drain_of_rest hrest, List.append_nil]

/-- **The tokens of any calls** are the first tokens of the text. -/
theorem proper_handed : ∀ (calls : List Call) (c : Cursor),
    proper (c.handed calls) <+: proper c.drain.1
  | [], _ => List.nil_prefix
  | call :: calls, c => by
    obtain ⟨hgood, hfirst⟩ := proper_answer c call
    have ih := proper_handed calls (c.answer call).2.2
    rw [handed]
    rcases hanswer : c.answer call with ⟨ts, _ | e, c'⟩
    · rw [hanswer] at hgood ih
      dsimp only
      rw [hgood rfl, proper_append]
      exact (List.prefix_append_right_inj _).mpr ih
    · rwa [hanswer] at hfirst

/-- What holds of a cursor over a source text, wherever calls have led it. -/
structure Proceeds (source : List Char) (c : Cursor) : Prop where
  /-- The cursor stands in the text. -/
  offset_le : c.offset ≤ source.length
  /-- The cursor never goes back. -/
  offset_mono : ∀ calls, c.offset ≤ (c.after calls).offset
  /-- Asking for the next token moves the cursor on or finds it at rest. -/
  next : Upshot source c c.next
  /-- Asking for all tokens comes to an end. -/
  drain : Drained c c.drain.1 c.drain.2.1 c.drain.2.2
  /-- There are no more tokens than characters left, and the end of the input. -/
  length_drain : c.drain.1.length ≤ source.length - c.offset + 1

theorem In.proceeds (h : In source c) : Proceeds source c where
  offset_le := h.offset_le
  offset_mono calls := (In.after calls h).2
  next := h.upshot
  drain := drained_drain c
  length_drain := by
    have hle := h.offset_le
    have hlen := ((drained_drain c).bounds h).2.2
    omega

end Cursor

open Cursor in
/-- **A cursor makes progress**, whatever it is asked for and whether or not that fails: after any
calls it is as `Cursor.Proceeds` says. The tokens that the calls hand out before the first fault are
the first of those that the text has before its end or its first fault. -/
theorem cursor_progress (source : List Char) (calls : List Call) :
    Proceeds source ((start source).after calls) ∧
      proper ((start source).handed calls) <+: proper (start source).drain.1 :=
  ⟨(In.after calls (in_start source)).1.proceeds, proper_handed calls (start source)⟩

end BlockCalc
