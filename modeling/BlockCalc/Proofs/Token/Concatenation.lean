import BlockCalc.Proofs.Layout
import BlockCalc.Proofs.Location

/-! # Texts put together

Two texts put together have the tokens of the first and then those of the second, further on, unless
a name or a numeral goes on from one into the other. That it does not is seen from the two
characters at the joint (`Parted`): only letters, digits, underscores and points go on with one
another. A gap between the texts parts them in any case.

What stands in the first text then stands in both of them together, lexemes as well as what spoils
the text, since only the last of them can see what comes behind the text (`Segmented.append`).

* `Cursor.feed_append`: the feed of two texts put together.
* `tokenize_append`: the tokens of two texts put together, or the fault of the first that has
  one. -/

namespace BlockCalc

open Cursor (isWordlike)

/-- The last character of a text and the first of another do not both belong to words. -/
def Parted (before more : List Char) : Prop :=
  ∀ x ∈ before.getLast?, ∀ y ∈ more.head?, ¬ (isWordlike x = true ∧ isWordlike y = true)

section

variable {a w b before run after more : List Char}

theorem Parted.right (h : Parted (before ++ after) more) : Parted after more := by
  by_cases hne : after = []
  · subst hne
    exact nofun
  · unfold Parted at h
    rwa [List.getLast?_append_of_ne_nil _ hne] at h

theorem parted_gap (hw : ∀ x ∈ w, isBlank x = true) (hj : w = [] → Parted a b) :
    Parted a (w ++ b) := by
  rcases w with _ | ⟨x, w⟩
  · exact hj rfl
  · intro z _ y hy hboth
    obtain rfl : x = y := Option.some.inj hy
    obtain ⟨hname, hnumber⟩ := class_of_blank (hw x List.mem_cons_self)
    have hx : isWordlike x = false := by rw [isWordlike, hname, hnumber, Bool.or_false]
    rw [hx] at hboth
    exact absurd hboth.2 Bool.false_ne_true

theorem Parted.stops {p : Char → Bool} (hp : ∀ x, p x = true → isWordlike x = true)
    (h : Parted (run ++ after) more) (hrun : ∀ x ∈ run, p x = true) (hne : run ≠ [])
    (hafter : ∀ x ∈ after.head?, p x = false) : ∀ y ∈ (after ++ more).head?, p y = false := by
  intro y hy
  rcases after with _ | ⟨z, after⟩
  · have hlast : p (run.getLast hne) = true := hrun _ (List.getLast_mem hne)
    rw [List.append_nil] at h
    by_contra hyp
    exact h _ (List.getLast?_eq_some_getLast hne) y hy ⟨hp _ hlast, hp y (by simpa using hyp)⟩
  · exact hafter y hy

theorem isWordlike_of_nameChar (x : Char) (h : isNameChar x = true) : isWordlike x = true := by
  rw [isWordlike, h, Bool.true_or]

theorem isWordlike_of_numberChar (x : Char) (h : isNumberChar x = true) : isWordlike x = true := by
  rw [isWordlike, h, Bool.or_true]

/-! ### What stands in the first text -/

theorem Lexeme.Written.append {l : Lexeme} {text : List Char} (h : l.Written text after)
    (hp : Parted (text ++ after) more) : l.Written text (after ++ more) := by
  cases h with
  | symbol h => exact .symbol h
  | @name x xs _ hx hxs hstop =>
    refine .name hx hxs (hp.stops isWordlike_of_nameChar ?_ (List.cons_ne_nil x xs) hstop)
    intro y hy
    rcases List.mem_cons.mp hy with rfl | hy
    · rw [isNameChar, hx, Bool.true_or]
    · exact hxs y hy
  | numeral hr hc hd hstop =>
    obtain ⟨y, hy, -⟩ := id hd
    exact .numeral hr hc hd (hp.stops isWordlike_of_numberChar hr (List.ne_nil_of_mem hy) hstop)

theorem Spoils.append {cause : Cause} {text : List Char} (h : Spoils cause text after)
    (hp : Parted (text ++ after) more) : Spoils cause text (after ++ more) := by
  cases h with
  | symbol hb hs hn hd => exact .symbol hb hs hn hd
  | number hr hs hstop =>
    refine .number hr hs (hp.stops isWordlike_of_numberChar hr ?_ hstop)
    rintro rfl
    simp at hs

/-- **Lexemes stay what they are** when a text comes behind that is parted from them. -/
theorem Segmented.append {o p : Nat} {text rest : List Char} {ts : List Token}
    (h : Segmented o text ts p rest) (hp : Parted text more) :
    Segmented o (text ++ more) ts p (rest ++ more) := by
  induction h with
  | done => exact .done
  | more hg hw _ ih =>
    have hlexeme := hw.append hp.right
    simp only [List.append_assoc]
    exact .more hg hlexeme (ih hp.right.right)

/-! ### The tokens of both -/

namespace Cursor

/-- **The feed of two texts put together.** If the first has a fault, the second does not count. If
it has none, the feed of the second takes the place of the end of the first. -/
theorem feed_append (hw : ∀ x ∈ w, isBlank x = true) (hj : w = [] → Parted a b) :
    (∀ e, (start a).feed.2 = some e →
      (start (a ++ (w ++ b))).feed = (start a).feed ∧ ∃ p ≤ a.length, e.offset = (p : Nat)) ∧
    ((start a).feed.2 = none → ∃ ts, (start a).feed.1 = ts ++ [⟨.endOfInput, a.length⟩] ∧
      (start (a ++ (w ++ b))).feed =
        (ts ++ (start b).feed.1.map (Token.moved (a.length + w.length)),
          (start b).feed.2.map (SourceFault.moved (a.length + w.length)))) := by
  have hparted := parted_gap hw hj
  obtain ⟨ts, p, gap, rest, hseg, hg, hend⟩ := exists_segmented 0 a
  have hboth := hseg.append hparted
  have hlen := hseg.offset_add
  have hfeed := feed_segmented hseg
  have hfeed' := feed_segmented hboth
  rcases hend with rfl | ⟨cause, passed, after, rfl, hs⟩
  · rw [List.append_nil, feed_gap p hg] at hfeed
    have hoffset : p + gap.length = a.length := by
      simp only [List.append_nil] at hlen
      omega
    have hb : feed ⟨a.length + w.length, b⟩ =
        ((start b).feed.1.map (Token.moved (a.length + w.length)),
          (start b).feed.2.map (SourceFault.moved (a.length + w.length))) := by
      have hmoved := feed_moved (a.length + w.length) (start b)
      rwa [moved, start, Nat.zero_add] at hmoved
    rw [List.append_nil, feed_after_gap hg, hoffset, feed_after_gap hw, hb] at hfeed'
    rw [start, hfeed, hoffset]
    refine ⟨?_, fun _ => ⟨ts, rfl, hfeed'⟩⟩
    rintro e ⟨⟩
  · have hspoils : Spoils cause passed (after ++ (w ++ b)) := by
      obtain ⟨before, rfl, -⟩ := hseg.cut
      exact hs.append hparted.right.right
    rw [feed_spoiled p hg hs] at hfeed
    rw [List.append_assoc, List.append_assoc, feed_spoiled p hg hspoils] at hfeed'
    rw [start, hfeed, start, hfeed']
    constructor
    · rintro e ⟨⟩
      refine ⟨rfl, p + gap.length, ?_, rfl⟩
      simp only [List.length_append] at hlen
      omega
    · rintro ⟨⟩

end Cursor

end

/-- **Tokenizing goes text by text.** Let `w` be blanks between two texts, of which there has to be
one if both its neighbours belong to words. The tokens of all are those of the first text without
its end, and then those of the second further on. A fault of the first text is the fault of all, at
the same line and column. If only the second has a fault, it is that of all, further on. -/
theorem tokenize_append (a w b : List Char) (hw : ∀ x ∈ w, isBlank x = true)
    (hj : w = [] → Parted a b) :
    (∀ ts us, tokenize a = .ok ts → tokenize b = .ok us →
      ∃ init, ts = init ++ [⟨.endOfInput, a.length⟩] ∧
        tokenize (a ++ w ++ b) = .ok (init ++ us.map (Token.moved (a.length + w.length)))) ∧
    (∀ e, tokenize a = .error e → tokenize (a ++ w ++ b) = .error e ∧ ∀ file, ∃ l l',
      (e.locate a file).location = some l ∧ (e.locate (a ++ w ++ b) file).location = some l' ∧
        l'.line = l.line ∧ l'.column = l.column) ∧
    ∀ ts e, tokenize a = .ok ts → tokenize b = .error e →
      tokenize (a ++ w ++ b) = .error (e.moved (a.length + w.length)) ∧
      ∀ file, ((e.moved (a.length + w.length)).locate (a ++ w ++ b) file).location =
        some (Location.ofOffset (a ++ w ++ b) (e.offset + (a.length + w.length)) file) := by
  obtain ⟨hfault, hgood⟩ := Cursor.feed_append hw hj
  rw [List.append_assoc]
  refine ⟨fun ts us ha hb => ?_, fun e ha => ?_, fun ts e ha hb => ?_⟩
  · rw [Cursor.tokenize_eq_ok_iff] at ha hb
    obtain ⟨init, hinit, hfeed⟩ := hgood (by rw [ha])
    rw [ha] at hinit
    rw [hb] at hfeed
    exact ⟨init, hinit, Cursor.tokenize_eq_ok_iff.mpr hfeed⟩
  · rw [Cursor.tokenize_eq_error_iff] at ha
    obtain ⟨hfeed, p, hp, hoffset⟩ := hfault e ha
    refine ⟨Cursor.tokenize_eq_error_iff.mpr (by rw [hfeed, ha]), fun file => ⟨_, _, rfl, rfl, ?_⟩⟩
    rw [hoffset]
    exact Location.ofOffset_append hp (w ++ b) file
  · rw [Cursor.tokenize_eq_ok_iff] at ha
    rw [Cursor.tokenize_eq_error_iff] at hb
    obtain ⟨init, -, hfeed⟩ := hgood (by rw [ha])
    refine ⟨Cursor.tokenize_eq_error_iff.mpr (by rw [hfeed, hb]; rfl), fun file => ?_⟩
    simp only [SourceFault.locate, SourceFault.moved, Nat.cast_add]

/-- A symbol goes on with no numeral, a run that is no numeral stays one before a symbol, and a line
break moves a fault on. -/
theorem tokenize_append_joints :
    tokenize "x 1+.5".toList = .ok [⟨.name "x", 0⟩, ⟨.number (numeralValue ['1']), 2⟩, ⟨.plus, 3⟩,
      ⟨.number (numeralValue ['.', '5']), 4⟩, ⟨.endOfInput, 6⟩] ∧
    tokenize "x 1.2.;y".toList = .error ⟨.malformedNumber "1.2.", 2⟩ ∧
    tokenize "x\n2 $".toList = .error ⟨.unknownSymbol "$", 4⟩ := by
  have hplus : Parted "x 1".toList "+.5".toList := by
    rintro _ ⟨⟩ _ ⟨⟩
    decide
  have hsemicolon : Parted "x 1.2.".toList ";y".toList := by
    rintro _ ⟨⟩ _ ⟨⟩
    decide
  obtain ⟨hok, -, -⟩ := tokenize_append "x 1".toList [] "+.5".toList nofun fun _ => hplus
  obtain ⟨-, hfirst, -⟩ := tokenize_append "x 1.2.".toList [] ";y".toList nofun fun _ => hsemicolon
  have hbreak : ∀ x ∈ ['\n'], isBlank x = true := by
    simp only [List.forall_mem_singleton]
    decide
  obtain ⟨-, -, hsecond⟩ := tokenize_append "x".toList ['\n'] "2 $".toList hbreak nofun
  have ha : tokenize "x 1".toList =
      .ok ([⟨.name "x", 0⟩, ⟨.number (numeralValue ['1']), 2⟩] ++ [⟨.endOfInput, 3⟩]) := by
    decide +kernel
  have hb : tokenize "+.5".toList =
      .ok [⟨.plus, 0⟩, ⟨.number (numeralValue ['.', '5']), 1⟩, ⟨.endOfInput, 3⟩] := by
    decide +kernel
  have hx : tokenize "x".toList = .ok [⟨.name "x", 0⟩, ⟨.endOfInput, 1⟩] := by decide +kernel
  have he : tokenize "2 $".toList = .error ⟨.unknownSymbol "$", 2⟩ := by decide +kernel
  refine ⟨?_, (hfirst _ (by decide +kernel)).1, (hsecond _ _ hx he).1⟩
  obtain ⟨init, hinit, hall⟩ := hok _ _ ha hb
  obtain rfl := List.append_cancel_right hinit
  exact hall

end BlockCalc
