import BlockCalc.Proofs.Token.Feed

/-! # Gaps and lexemes

A text that has tokens is a sequence of lexemes with gaps of blanks between them, before the first
and behind the last. `Segmented o text ts p rest` says that a text at the offset `o` splits in this
way, that its lexemes are the tokens `ts`, and that `rest` is left at the offset `p`. What a lexeme
looks like is said by `Lexeme.Written`, which also looks at what comes behind it: a name is not
followed by a character that goes on with it, nor is a numeral. A text that has no tokens splits up
to a place where something stands that is no lexeme (`Spoils`).

These are statements about texts. `stands` says that one of them applies to every text that starts
with no blank, and `Cursor.stepped_next` that reading a token does as they say.

* `tokenize_iff_segmented`: a text has these tokens exactly if it splits into them, and it has this
  fault exactly if it splits up to it. -/

namespace BlockCalc

/-! ### What stands in a text -/

/-- The symbols, each with what it says. -/
def structural : List (Char × Lexeme) :=
  [('{', .openBrace), ('}', .closeBrace), (';', .semicolon), ('=', .equals), ('+', .plus),
    ('-', .minus), ('*', .times), ('/', .slash), ('(', .openParen), (')', .closeParen)]

/-- `l.Written text after`: the text, with `after` behind it, is the lexeme `l`. -/
inductive Lexeme.Written : Lexeme → List Char → List Char → Prop
  /-- A symbol stands for itself. -/
  | symbol {x l after} : (x, l) ∈ structural → Written l [x] after
  /-- A letter or underscore, then letters, underscores and digits as far as they go. -/
  | name {x xs after} : isNameStart x = true → (∀ y ∈ xs, isNameChar y = true) →
      (∀ y ∈ after.head?, isNameChar y = false) →
      Written (.name (String.ofList (x :: xs))) (x :: xs) after
  /-- Digits and at most one point as far as they go, with at least one digit. -/
  | numeral {run after} : (∀ y ∈ run, isNumberChar y = true) → run.count '.' ≤ 1 →
      (∃ y ∈ run, isDigit y = true) → (∀ y ∈ after.head?, isNumberChar y = false) →
      Written (.number (numeralValue run)) run after

/-- `Spoils cause text after`: where the text stands with `after` behind it, there is no lexeme, for
this cause. Of an unknown symbol nothing is passed over, so it is the first of what comes after. -/
inductive Spoils : Cause → List Char → List Char → Prop
  /-- A character that is no blank and starts no lexeme. -/
  | symbol {x after} : isBlank x = false → (∀ l, (x, l) ∉ structural) → isNameStart x = false →
      isNumberChar x = false → Spoils (.unknownSymbol (String.singleton x)) [] (x :: after)
  /-- Digits and points as far as they go, which are a point alone or have two points or more. -/
  | number {run after} : (∀ y ∈ run, isNumberChar y = true) → (run = ['.'] ∨ 2 ≤ run.count '.') →
      (∀ y ∈ after.head?, isNumberChar y = false) →
      Spoils (.malformedNumber (String.ofList run)) run after

/-- `Segmented o text ts p rest`: the text at the offset `o` is lexemes with gaps before them, which
are the tokens `ts`, and then `rest` at the offset `p`. -/
inductive Segmented : Nat → List Char → List Token → Nat → List Char → Prop
  | done {o rest} : Segmented o rest [] o rest
  | more {o gap text after l ts p rest} : (∀ x ∈ gap, isBlank x = true) → l.Written text after →
      Segmented (o + gap.length + text.length) after ts p rest →
      Segmented o (gap ++ (text ++ after)) (⟨l, (o + gap.length : Nat)⟩ :: ts) p rest

theorem mem_structural_iff {x : Char} {l : Lexeme} :
    (x, l) ∈ structural ↔ Lexeme.ofSymbol? x = some l := by
  constructor
  · intro h
    simp only [structural, List.mem_cons, Prod.mk.injEq, List.not_mem_nil, or_false] at h
    rcases h with ⟨rfl, rfl⟩ | ⟨rfl, rfl⟩ | ⟨rfl, rfl⟩ | ⟨rfl, rfl⟩ | ⟨rfl, rfl⟩ | ⟨rfl, rfl⟩ |
      ⟨rfl, rfl⟩ | ⟨rfl, rfl⟩ | ⟨rfl, rfl⟩ | ⟨rfl, rfl⟩ <;> rfl
  · intro h
    unfold Lexeme.ofSymbol? at h
    split at h <;> cases h <;> simp [structural]

theorem eq_replicate_of_no_digit {run : List Char} (hall : ∀ y ∈ run, isNumberChar y = true)
    (hd : ¬ ∃ y ∈ run, isDigit y = true) : run = List.replicate run.length '.' := by
  refine List.eq_replicate_of_mem fun y hy => ?_
  have h := hall y hy
  rw [isNumberChar, Bool.or_eq_true, beq_iff_eq] at h
  exact h.resolve_left fun hy' => hd ⟨y, hy, hy'⟩

theorem isNumeral_iff {run : List Char} (hne : run ≠ [])
    (hall : ∀ y ∈ run, isNumberChar y = true) :
    isNumeral run = true ↔ run.count '.' ≤ 1 ∧ ∃ y ∈ run, isDigit y = true := by
  rw [isNumeral, Bool.and_eq_true, decide_eq_true_iff, bne_iff_ne]
  refine and_congr_right fun hc => ⟨fun hp => ?_, ?_⟩
  · by_contra hd
    have hr := eq_replicate_of_no_digit hall hd
    have hlen : run.length = 1 := by
      have h1 : run.count '.' = run.length := by
        conv_lhs => rw [hr]
        exact List.count_replicate_self
      have h2 := List.length_pos_iff.mpr hne
      omega
    rw [hlen] at hr
    exact hp hr
  · rintro ⟨y, hy, hd⟩ rfl
    rw [List.mem_singleton.mp hy] at hd
    cases hd

theorem isNumeral_eq_false_iff {run : List Char} :
    isNumeral run = false ↔ run = ['.'] ∨ 2 ≤ run.count '.' := by
  rw [isNumeral, Bool.and_eq_false_iff, decide_eq_false_iff_not, bne_eq_false_iff_eq, or_comm,
    Nat.not_le, Nat.succ_le_iff]

theorem exists_run (p : Char → Bool) (text : List Char) :
    ∃ run after, text = run ++ after ∧ (∀ y ∈ run, p y = true) ∧ ∀ y ∈ after.head?, p y = false := by
  refine ⟨text.takeWhile p, text.dropWhile p, List.takeWhile_append_dropWhile.symm, ?_, ?_⟩
  · exact List.all_eq_true.mp List.all_takeWhile
  · exact Cursor.stops_dropWhile p text

theorem exists_run_cons {p : Char → Bool} {x : Char} (xs : List Char) (hx : p x = true) :
    ∃ run after, x :: xs = run ++ after ∧ run ≠ [] ∧ (∀ y ∈ run, p y = true) ∧
      ∀ y ∈ after.head?, p y = false := by
  obtain ⟨run, after, hs, hr, ha⟩ := exists_run p xs
  refine ⟨x :: run, after, by rw [hs]; rfl, List.cons_ne_nil _ _, fun y hy => ?_, ha⟩
  rcases List.mem_cons.mp hy with rfl | hy
  · exact hx
  · exact hr y hy

/-- **What stands in a text** that starts with no blank: nothing, a lexeme, or something that spoils
it. -/
theorem stands {text : List Char} (hb : ∀ x ∈ text.head?, isBlank x = false) :
    text = [] ∨ (∃ l lexeme after, text = lexeme ++ after ∧ Lexeme.Written l lexeme after) ∨
      ∃ cause passed after, text = passed ++ after ∧ Spoils cause passed after := by
  rcases text with _ | ⟨x, xs⟩
  · exact .inl rfl
  right
  rcases hs : Lexeme.ofSymbol? x with _ | l
  · rcases hn : isNameStart x with _ | _
    · rcases hd : isNumberChar x with _ | _
      · refine .inr ⟨_, [], x :: xs, rfl, .symbol (hb x rfl) (fun l hl => ?_) hn hd⟩
        rw [mem_structural_iff, hs] at hl
        cases hl
      · obtain ⟨run, after, ht, hne, hr, ha⟩ := exists_run_cons xs hd
        rcases hm : isNumeral run with _ | _
        · exact .inr ⟨_, run, after, ht, .number hr (isNumeral_eq_false_iff.mp hm) ha⟩
        · obtain ⟨hc, hy⟩ := (isNumeral_iff hne hr).mp hm
          exact .inl ⟨_, run, after, ht, .numeral hr hc hy ha⟩
    · obtain ⟨run, after, rfl, hr, ha⟩ := exists_run isNameChar xs
      exact .inl ⟨_, x :: run, after, rfl, .name hn hr ha⟩
  · exact .inl ⟨l, [x], xs, rfl, .symbol (mem_structural_iff.mpr hs)⟩

theorem Lexeme.Written.length_pos {l : Lexeme} {text after : List Char}
    (h : l.Written text after) : 0 < text.length := by
  cases h with
  | symbol _ => exact Nat.one_pos
  | name _ _ _ => exact Nat.succ_pos _
  | numeral _ _ hd _ =>
    obtain ⟨y, hy, -⟩ := hd
    exact List.length_pos_of_mem hy

theorem Lexeme.Written.kind_ne {l : Lexeme} {text after : List Char} (h : l.Written text after) :
    l.kind ≠ .endOfInput := by
  cases h with
  | symbol h => exact (Cursor.kind_of_ofSymbol? (mem_structural_iff.mp h)).1
  | name _ _ _ => exact nofun
  | numeral _ _ _ _ => exact nofun

theorem Segmented.kind_ne {o p : Nat} {text rest : List Char} {ts : List Token}
    (h : Segmented o text ts p rest) : ∀ t ∈ ts, t.kind ≠ .endOfInput := by
  induction h with
  | done =>
    intro t ht
    cases ht
  | more _ hw _ ih =>
    intro t ht
    rcases List.mem_cons.mp ht with rfl | ht
    · exact hw.kind_ne
    · exact ih t ht

/-- Nothing is lost: the offset goes on by as much as the text loses. -/
theorem Segmented.offset_add {o p : Nat} {text rest : List Char} {ts : List Token}
    (h : Segmented o text ts p rest) : o + text.length = p + rest.length := by
  induction h with
  | done => rfl
  | more _ _ _ ih =>
    rw [← ih]
    simp only [List.length_append]
    omega

/-! ### Reading what stands there -/

namespace Cursor

theorem next_gap (rest : List Char) : ∀ (gap : List Char) (o : Nat), (∀ x ∈ gap, isBlank x = true) →
    next ⟨o, gap ++ rest⟩ = next ⟨o + gap.length, rest⟩
  | [], _, _ => rfl
  | x :: gap, o, h => by
    have hx := h x List.mem_cons_self
    have hg := next_gap rest gap (o + 1) fun y hy => h y (List.mem_cons_of_mem _ hy)
    have ho : o + 1 + gap.length = o + (x :: gap).length := by
      rw [List.length_cons]
      omega
    rw [List.cons_append, next_blank hx, hg, ho]

theorem next_written {l : Lexeme} {text after : List Char} (h : l.Written text after) (o : Nat) :
    next ⟨o, text ++ after⟩ = (.ok ⟨l, o⟩, ⟨o + text.length, after⟩) := by
  cases h with
  | symbol h => exact next_symbol (mem_structural_iff.mp h) o after
  | @name x xs _ hx hxs ha =>
    refine next_name ?_ ha o
    rw [isName, hx, Bool.true_and, List.all_eq_true]
    exact hxs
  | @numeral run _ hr hc hd ha =>
    obtain ⟨y, hy, -⟩ := id hd
    have hne := List.ne_nil_of_mem hy
    exact next_numeral hne hr ((isNumeral_iff hne hr).mpr ⟨hc, hd⟩) ha o

theorem next_malformed {run rest : List Char} (hall : ∀ x ∈ run, isNumberChar x = true)
    (hs : run = ['.'] ∨ 2 ≤ run.count '.') (hr : Stops isNumberChar rest) (o : Nat) :
    next ⟨o, run ++ rest⟩ =
      (.error ⟨.malformedNumber (String.ofList run), o⟩, ⟨o + run.length, rest⟩) := by
  rcases run with _ | ⟨x, run⟩
  · rcases hs with hs | hs
    · cases hs
    · simp at hs
  · have hx := hall x List.mem_cons_self
    obtain ⟨hb, ho, hn⟩ := class_of_numberChar hx
    rw [← skip_append_stops o (x :: run) hall hr, List.cons_append,
      next_eq_read (stops_cons hb), read]
    dsimp only
    rw [ho, hn, if_neg Bool.false_ne_true, if_pos hx, ← List.cons_append,
      takeWhile_append_stops hall hr, isNumeral_eq_false_iff.mpr hs, if_neg Bool.false_ne_true]

theorem next_spoiled {cause : Cause} {text after : List Char} (h : Spoils cause text after)
    (o : Nat) : next ⟨o, text ++ after⟩ = (.error ⟨cause, o⟩, ⟨o + text.length, after⟩) := by
  cases h with
  | @symbol x after hb hs hn hd =>
    have ho : Lexeme.ofSymbol? x = none := by
      rw [Option.eq_none_iff_forall_ne_some]
      exact fun l hl => hs l (mem_structural_iff.mpr hl)
    rw [List.nil_append, next_eq_read (stops_cons hb), read]
    dsimp only
    rw [ho, hn, hd, if_neg Bool.false_ne_true, if_neg Bool.false_ne_true]
    rfl
  | number hr hs ha => exact next_malformed hr hs ha o

/-- What can stand at a cursor behind a gap, and what the next step then gives. -/
inductive Stepped : Cursor → Except SourceFault Token × Cursor → Prop
  | ended {o gap} : (∀ x ∈ gap, isBlank x = true) →
      Stepped ⟨o, gap⟩ (.ok ⟨.endOfInput, (o + gap.length : Nat)⟩, ⟨o + gap.length, []⟩)
  | token {o gap text after l} : (∀ x ∈ gap, isBlank x = true) → l.Written text after →
      Stepped ⟨o, gap ++ (text ++ after)⟩
        (.ok ⟨l, (o + gap.length : Nat)⟩, ⟨o + gap.length + text.length, after⟩)
  | fault {o gap text after cause} : (∀ x ∈ gap, isBlank x = true) → Spoils cause text after →
      Stepped ⟨o, gap ++ (text ++ after)⟩
        (.error ⟨cause, (o + gap.length : Nat)⟩, ⟨o + gap.length + text.length, after⟩)

theorem next_ended {gap : List Char} (o : Nat) (hg : ∀ x ∈ gap, isBlank x = true) :
    next ⟨o, gap⟩ = (.ok ⟨.endOfInput, (o + gap.length : Nat)⟩, ⟨o + gap.length, []⟩) := by
  have hn := next_gap [] gap o hg
  rw [List.append_nil] at hn
  exact hn.trans (next_of_rest_nil rfl)

/-- **A step is one of three.** -/
theorem stepped_next (c : Cursor) : Stepped c c.next := by
  obtain ⟨o, text⟩ := c
  obtain ⟨gap, rest, rfl, hg, hr⟩ := exists_run isBlank text
  rcases stands hr with rfl | ⟨l, lexeme, after, rfl, hw⟩ | ⟨cause, passed, after, rfl, hs⟩
  · rw [List.append_nil, next_ended o hg]
    exact .ended hg
  · rw [next_gap _ gap o hg, next_written hw]
    exact .token hg hw
  · rw [next_gap _ gap o hg, next_spoiled hs]
    exact .fault hg hs

theorem feed_segmented {o p : Nat} {text rest : List Char} {ts : List Token}
    (h : Segmented o text ts p rest) :
    feed ⟨o, text⟩ = (ts ++ (feed ⟨p, rest⟩).1, (feed ⟨p, rest⟩).2) := by
  induction h with
  | done => rfl
  | @more o gap text after l ts p rest hg hw _ ih =>
    have hn := (next_gap _ gap o hg).trans (next_written hw _)
    rw [feed_of_token hn hw.kind_ne, ih]
    rfl

theorem feed_gap {gap : List Char} (o : Nat) (hg : ∀ x ∈ gap, isBlank x = true) :
    feed ⟨o, gap⟩ = ([⟨.endOfInput, (o + gap.length : Nat)⟩], none) :=
  feed_of_end (next_ended o hg) rfl

theorem feed_spoiled {gap text after : List Char} {cause : Cause} (o : Nat)
    (hg : ∀ x ∈ gap, isBlank x = true) (h : Spoils cause text after) :
    feed ⟨o, gap ++ (text ++ after)⟩ = ([], some ⟨cause, (o + gap.length : Nat)⟩) :=
  feed_of_error ((next_gap _ gap o hg).trans (next_spoiled h _))

end Cursor

/-! ### All of a text -/

/-- **Every text splits**, to its end or up to what spoils it. -/
theorem exists_segmented (o : Nat) (text : List Char) : ∃ ts p gap rest,
    Segmented o text ts p (gap ++ rest) ∧ (∀ x ∈ gap, isBlank x = true) ∧
      (rest = [] ∨ ∃ cause passed after, rest = passed ++ after ∧ Spoils cause passed after) := by
  -- By induction on the length: a gap may be empty, but a lexeme is not.
  induction hn : text.length using Nat.strongRecOn generalizing o text with
  | ind n ih =>
    obtain ⟨gap, rest, rfl, hg, hr⟩ := exists_run isBlank text
    rcases stands hr with rfl | ⟨l, lexeme, after, rfl, hw⟩ | hs
    · exact ⟨[], o, gap, [], .done, hg, .inl rfl⟩
    · have hlt : after.length < n := by
        have hpos := hw.length_pos
        simp only [List.length_append] at hn
        omega
      obtain ⟨ts, p, gap', rest, hseg, hg', hend⟩ :=
        ih _ hlt (o + gap.length + lexeme.length) after rfl
      exact ⟨_, p, gap', rest, .more hg hw hseg, hg', hend⟩
    · exact ⟨[], o, gap, rest, .done, hg, .inr hs⟩

/-- **Lexing is exact.** A text has the tokens `ts` exactly if it splits into lexemes that are these
tokens, with gaps between them, and behind them the end of the input. It has the fault `e` exactly if
it splits up to something that spoils it there for the cause of `e`, and this is the place that is
shown. -/
theorem tokenize_iff_segmented (source : List Char) :
    (∀ ts, tokenize source = .ok ts ↔ ∃ us p gap, Segmented 0 source us p gap ∧
      (∀ x ∈ gap, isBlank x = true) ∧ (∀ t ∈ us, t.kind ≠ .endOfInput) ∧
      ts = us ++ [⟨.endOfInput, source.length⟩]) ∧
    ∀ e, tokenize source = .error e ↔ ∃ us p gap text after,
      Segmented 0 source us p (gap ++ (text ++ after)) ∧ (∀ x ∈ gap, isBlank x = true) ∧
      Spoils e.cause text after ∧ e.offset = (p + gap.length : Nat) ∧
      ∀ file, (e.locate source file).location =
        some (Location.ofOffset source (p + gap.length : Nat) file) := by
  have hok : ∀ {us p gap}, Segmented 0 source us p gap → (∀ x ∈ gap, isBlank x = true) →
      (Cursor.start source).feed = (us ++ [⟨.endOfInput, source.length⟩], none) := by
    intro us p gap hseg hg
    have hlen : source.length = p + gap.length := by
      have := hseg.offset_add
      omega
    rw [Cursor.start, Cursor.feed_segmented hseg, Cursor.feed_gap p hg, hlen]
  have herror : ∀ {us p gap text after cause}, Segmented 0 source us p (gap ++ (text ++ after)) →
      (∀ x ∈ gap, isBlank x = true) → Spoils cause text after →
      (Cursor.start source).feed = (us, some ⟨cause, (p + gap.length : Nat)⟩) := by
    intro us p gap text after cause hseg hg hs
    rw [Cursor.start, Cursor.feed_segmented hseg, Cursor.feed_spoiled p hg hs, List.append_nil]
  obtain ⟨us, p, gap, rest, hseg, hg, hend⟩ := exists_segmented 0 source
  constructor
  · intro ts
    rw [Cursor.tokenize_eq_ok_iff]
    constructor
    · intro hts
      rcases hend with rfl | ⟨cause, passed, after, rfl, hs⟩
      · rw [List.append_nil] at hseg
        rw [hok hseg hg] at hts
        cases hts
        exact ⟨us, p, gap, hseg, hg, hseg.kind_ne, rfl⟩
      · rw [herror hseg hg hs] at hts
        cases hts
    · rintro ⟨us, p, gap, hseg, hg, -, rfl⟩
      exact hok hseg hg
  · intro e
    rw [Cursor.tokenize_eq_error_iff]
    constructor
    · intro he
      rcases hend with rfl | ⟨cause, passed, after, rfl, hs⟩
      · rw [List.append_nil] at hseg
        rw [hok hseg hg] at he
        cases he
      · rw [herror hseg hg hs] at he
        cases he
        exact ⟨us, p, gap, passed, after, hseg, hg, hs, rfl, fun _ => rfl⟩
    · rintro ⟨us, p, gap, text, after, hseg, hg, hs, ho, -⟩
      rw [herror hseg hg hs, ← ho]

/-- Points end names and go on with numbers; two of them spoil one. -/
theorem tokenize_iff_segmented_points :
    (∃ us p gap, Segmented 0 "x1.5 12ab".toList us p gap ∧ (∀ x ∈ gap, isBlank x = true) ∧
      us.map Token.kind = [.name, .number, .number, .name]) ∧
    ∃ us p gap text after, Segmented 0 "a 1.2.3".toList us p (gap ++ (text ++ after)) ∧
      Spoils (.malformedNumber "1.2.3") text after := by
  have hk : (tokenize "x1.5 12ab".toList).map (List.map Token.kind) =
    .ok [.name, .number, .number, .name, .endOfInput] := by decide +kernel
  have he : tokenize "a 1.2.3".toList = .error ⟨.malformedNumber "1.2.3", 2⟩ := by decide +kernel
  constructor
  · rcases ht : tokenize "x1.5 12ab".toList with e | ts
    · rw [ht] at hk
      cases hk
    · obtain ⟨us, p, gap, hs, hg, -, rfl⟩ := ((tokenize_iff_segmented _).1 ts).mp ht
      rw [ht] at hk
      have hus := Except.ok.inj hk
      rw [List.map_append] at hus
      have hlast : us.map Token.kind ++ [.endOfInput] =
        [.name, .number, .number, .name] ++ [.endOfInput] := hus
      exact ⟨us, p, gap, hs, hg, List.append_cancel_right hlast⟩
  · obtain ⟨us, p, gap, text, after, hs, -, hsp, -⟩ := ((tokenize_iff_segmented _).2 _).mp he
    exact ⟨us, p, gap, text, after, hs, hsp⟩

end BlockCalc
