import BlockCalc.Proofs.Parsing.SideBySide
import BlockCalc.Proofs.Token.Segmentation
import BlockCalc.Proofs.Tree.Spelling
import BlockCalc.Session
import Mathlib.Logic.Relation

/-! # Layout

Two sources correspond if they have the same tokens in the same order, wherever these stand, and
either both come to their end or both are faulted for the same cause after as many tokens
(`Corresponds`). What is not a token does not count then: all that parsing and running make of the
two sources is the same up to places (`Interchangeable`). The two parses go side by side, and
running a tree does not see its offsets (`execute_unplaced`).

Blanks at the border of a token are no part of it. `Respaced` puts blanks there, or other blanks in
the place of blanks. The tokens before such a place can be moved to another text as long as no
character comes next that goes on with the last of them (`Segmented.moved`).

* `layout_independent`: sources that correspond are interchangeable, and sources that differ in
  blanks at the borders of tokens correspond. -/

namespace BlockCalc

/-! ### Sources with the same tokens -/

/-- The tokens are the same, wherever they stand, and then comes the end of both sources or a fault
for the same cause in both. -/
def Corresponds (source source' : List Char) : Prop :=
  List.Forall₂ (fun t u => t.same u = true) (Cursor.start source).feed.1
    (Cursor.start source').feed.1 ∧
  (Cursor.start source).feed.2.map SourceFault.cause =
    (Cursor.start source').feed.2.map SourceFault.cause

/-- Equality of lexemes is identity where they are spelled as the language has them. -/
theorem Lexeme.same_iff {l m : Lexeme} (hl : l.Spelled) (hm : m.Spelled) :
    l.same m = true ↔ l = m := by
  cases l with
  | number x =>
    cases m with
    | number y =>
      have h := Tree.numEq_iff (Tree.isLiteral_of_spelled hl) (Tree.isLiteral_of_spelled hm)
      simp [same, h]
    | _ => simp [same]
  | name s => cases m <;> simp [same]
  | _ => cases m <;> simp [same]

theorem forall₂_same_iff : ∀ {ts us : List Token}, Tree.Spelled ts → Tree.Spelled us →
    (List.Forall₂ (fun t u => t.same u = true) ts us ↔
      ts.map Token.lexeme = us.map Token.lexeme)
  | [], [], _, _ => by simp
  | [], _ :: _, _, _ => by simp
  | _ :: _, [], _, _ => by simp
  | t :: ts, u :: us, ht, hu => by
    obtain ⟨ht, hts⟩ := List.forall_mem_cons.mp ht
    obtain ⟨hu, hus⟩ := List.forall_mem_cons.mp hu
    rw [List.forall₂_cons, forall₂_same_iff hts hus, Token.same, Lexeme.same_iff ht hu,
      List.map_cons, List.map_cons, List.cons.injEq]

/-- The lexemes of a feed, and the cause of its fault. -/
def lexemes (f : List Token × Option SourceFault) : List Lexeme × Option Cause :=
  (f.1.map Token.lexeme, f.2.map SourceFault.cause)

theorem corresponds_iff {source source' : List Char} : Corresponds source source' ↔
    lexemes (Cursor.start source).feed = lexemes (Cursor.start source').feed := by
  rw [Corresponds, forall₂_same_iff (Cursor.spelled_feed _) (Cursor.spelled_feed _), lexemes,
    lexemes, Prod.mk.injEq]

theorem equivalence_corresponds : Equivalence Corresponds where
  refl _ := corresponds_iff.mpr rfl
  symm h := corresponds_iff.mpr (corresponds_iff.mp h).symm
  trans h h' := corresponds_iff.mpr ((corresponds_iff.mp h).trans (corresponds_iff.mp h'))

theorem matched_fault {f g : Option SourceFault}
    (h : f.map SourceFault.cause = g.map SourceFault.cause) (hf : f ≠ none) (T : Rests) :
    Matched T [] f [] g := by
  rcases f with _ | f
  · exact absurd rfl hf
  · rcases g with _ | g
    · cases h
    · exact .fault (Option.some.inj h)

theorem matched_of_lexemes {c d : Cursor} (h : lexemes c.feed = lexemes d.feed) :
    Matched BothEnd c.feed.1 c.feed.2 d.feed.1 d.feed.2 := by
  obtain ⟨hl, hc⟩ := Prod.mk.inj h
  rcases hf : c.feed with ⟨ts, _ | f⟩
  · rcases hg : d.feed with ⟨us, _ | g⟩
    · rw [hf, hg] at hl
      obtain ⟨ts, p, rfl⟩ := Cursor.exists_end_of_feed hf
      obtain ⟨us, q, rfl⟩ := Cursor.exists_end_of_feed hg
      rw [List.map_append, List.map_append] at hl
      have hend : BothEnd [⟨.endOfInput, p⟩] none [⟨.endOfInput, q⟩] none :=
        ⟨p, q, rfl, rfl, rfl, rfl⟩
      exact Matched.append (.rest hend) (List.append_inj_left' hl rfl)
    · rw [hf, hg] at hc
      cases hc
  · rw [hf] at hl hc
    have hm := matched_fault hc nofun BothEnd
    rw [← List.append_nil ts, ← List.append_nil d.feed.1]
    exact hm.append hl

theorem Corresponds.beside {source source' : List Char} (h : Corresponds source source') :
    TokenStream.Beside BothEnd (TokenStream.start source) (TokenStream.start source') :=
  ⟨_, _, _, _, TokenStream.holds_start source, TokenStream.holds_start source',
    matched_of_lexemes (corresponds_iff.mp h)⟩

/-! ### Outcomes up to places -/

/-- A tree without its offsets, or a cause without its location. -/
def placeless (r : Except Fault Tree) : Except Cause Tree :=
  (r.map Tree.unplaced).mapError Fault.cause

theorem Parse.Tallies.placeless {x y : Parse Tree} {source source' : List Char}
    (h : Tallies BothEnd False False Likened (x.run (TokenStream.start source))
      (y.run (TokenStream.start source'))) (file file' : Option String) :
    BlockCalc.placeless (x.onSource source file) =
      BlockCalc.placeless (y.onSource source' file') := by
  unfold onSource
  generalize x.run (TokenStream.start source) = r, y.run (TokenStream.start source') = r' at h
  cases h with
  | ok h _ => exact congrArg Except.ok h
  | fault h => exact congrArg Except.error h
  | refused h =>
    obtain ⟨p, q, ht, hu, -, -⟩ := h
    cases ht
    cases hu
    rfl
  | deep => rfl
  | deepLeft h => exact h.elim
  | deepRight h => exact h.elim

namespace Tree

theorem value_unplaced (env : Environment) : ∀ (n : Nat) (t : Tree),
    value env n t.unplaced = value env n t
  | 0, _ => rfl
  | _ + 1, number _ _ => rfl
  | _ + 1, name _ _ => rfl
  | n + 1, binary _ _ l r => by
    simp only [unplaced, value, value_unplaced env n l, value_unplaced env n r]
  | n + 1, unary _ _ t => by simp only [unplaced, value, value_unplaced env n t]
  | _ + 1, assign _ _ _ _ => rfl
  | _ + 1, block _ _ => rfl
  | _ + 1, empty => rfl

theorem executeEach_unplaced {n : Nat} (h : ∀ t p, execute n t.unplaced p = execute n t p) :
    ∀ (ts : List Tree) (p : Progress),
      executeEach (execute n) (unplacedAll ts) p = executeEach (execute n) ts p
  | [], _ => rfl
  | t :: ts, p => by
    simp only [unplacedAll, executeEach, h t p]
    rcases execute n t p with ⟨e | _, q⟩
    · rfl
    · exact executeEach_unplaced h ts q

theorem execute_unplaced : ∀ (n : Nat) (t : Tree) (p : Progress),
    execute n t.unplaced p = execute n t p
  | 0, _, _ => rfl
  | n + 1, block _ cs, p => executeEach_unplaced (execute_unplaced n) cs p
  | n + 1, assign _ _ _ v, p => by
    simp only [unplaced, execute, value_unplaced p.environment n v]
  | _ + 1, empty, _ => rfl
  | _ + 1, number _ _, _ => rfl
  | _ + 1, name _ _, _ => rfl
  | _ + 1, binary _ _ _ _, _ => rfl
  | _ + 1, unary _ _ _, _ => rfl

end Tree

theorem runProgram_unplaced (limit : Nat) (r : String) (t : Tree) :
    runProgram limit r t.unplaced = runProgram limit r t := by
  rw [runProgram, runProgram, Tree.execute_unplaced]

/-- The outcome of a program, its failure without a location, and the session after it. -/
def Session.outcome (limit : Nat) (σ : Session) (source : List Char) (file : Option String) :
    Except Cause (Option Binary64) × Session :=
  ((σ.interpret limit source file).1.mapError Fault.cause, (σ.interpret limit source file).2)

theorem Session.outcome_eq (limit : Nat) (σ : Session) (source : List Char) (file : Option String) :
    σ.outcome limit source file = match placeless (parseProgram limit source file) with
      | .error c => (.error c, σ)
      | .ok t => σ.run limit t := by
  unfold outcome interpret
  rcases parseProgram limit source file with f | t
  · rfl
  · have hrun : σ.run limit t.unplaced = σ.run limit t := by
      rw [run, run, runProgram_unplaced]
    dsimp only [placeless, Except.map, Except.mapError]
    rw [hrun]
    rcases σ.run limit t with ⟨c | v, σ'⟩ <;> rfl

/-- Nothing tells two sources apart but the places that are shown: they parse to the same trees or
fail for the same causes, and in every session they have the same outcome and leave the same session
behind. -/
structure Interchangeable (limit : Nat) (source source' : List Char) : Prop where
  program : ∀ file file', placeless (parseProgram limit source file) =
    placeless (parseProgram limit source' file')
  expression : placeless (parseExpression limit source) = placeless (parseExpression limit source')
  outcome : ∀ (σ : Session) file file', σ.outcome limit source file = σ.outcome limit source' file'

theorem Corresponds.interchangeable {source source' : List Char} (h : Corresponds source source')
    (limit : Nat) : Interchangeable limit source source' := by
  have hprogram : ∀ file file', placeless (parseProgram limit source file) =
      placeless (parseProgram limit source' file') := by
    have hlt : limit < limit → False := Nat.lt_irrefl limit
    exact fun file file' => (Parse.parallel_program hlt hlt _ _ h.beside).placeless file file'
  refine ⟨hprogram, ?_, fun σ file file' => ?_⟩
  · have hlt : limit < limit → False := Nat.lt_irrefl limit
    exact (Parse.parallel_soleExpression hlt hlt _ _ h.beside).placeless none none
  · rw [Session.outcome_eq, Session.outcome_eq, hprogram file file']

/-! ### Moving tokens to another text -/

theorem class_of_blank {x : Char} (h : isBlank x = true) :
    isNameChar x = false ∧ isNumberChar x = false := by
  have hnumber : isNumberChar x = false := by
    by_contra hx
    rw [(class_of_numberChar (Bool.not_eq_false _ ▸ hx)).1] at h
    cases h
  have hname : isNameStart x = false := by
    by_contra hx
    rw [(class_of_nameStart (Bool.not_eq_false _ ▸ hx)).1] at h
    cases h
  refine ⟨?_, hnumber⟩
  rw [isNameChar, hname, (Bool.or_eq_false_iff.mp hnumber).1]
  rfl

/-- `rest'` goes on as `rest` does, or with a blank. -/
def GoesOn (rest rest' : List Char) : Prop := ∀ y ∈ rest'.head?, isBlank y = true ∨ y ∈ rest.head?

theorem goesOn_append {rest rest' : List Char} (h : GoesOn rest rest') :
    ∀ before : List Char, GoesOn (before ++ rest) (before ++ rest')
  | [] => h
  | _ :: _ => fun _ hy => .inr hy

theorem Lexeme.Written.moved {l : Lexeme} {text after after' : List Char}
    (h : l.Written text after) (ha : GoesOn after after') : l.Written text after' := by
  cases h with
  | symbol h => exact .symbol h
  | name hx hxs hstop =>
    refine .name hx hxs fun y hy => ?_
    rcases ha y hy with hb | hy
    · exact (class_of_blank hb).1
    · exact hstop y hy
  | numeral hr hc hd hstop =>
    refine .numeral hr hc hd fun y hy => ?_
    rcases ha y hy with hb | hy
    · exact (class_of_blank hb).2
    · exact hstop y hy

theorem Spoils.moved {cause : Cause} {text after : List Char} (h : Spoils cause text after)
    {more : List Char} (hm : ∀ y ∈ more.head?, isBlank y = true) :
    Spoils cause text (after ++ more) := by
  cases h with
  | symbol hb hs hn hd => exact .symbol hb hs hn hd
  | number hr hs hstop =>
    refine .number hr hs fun y hy => ?_
    rcases after with _ | ⟨z, after⟩
    · exact (class_of_blank (hm y hy)).2
    · exact hstop y hy

/-- **Tokens can be moved to another text**, at another offset and with another text behind them
that does not go on with the last of them. -/
theorem Segmented.moved {o p : Nat} {text rest rest' : List Char} {ts : List Token}
    (h : Segmented o text ts p rest) (hr : GoesOn rest rest') :
    ∃ before, text = before ++ rest ∧ ∀ o', ∃ ts' p', ts'.map Token.lexeme = ts.map Token.lexeme ∧
      Segmented o' (before ++ rest') ts' p' rest' := by
  -- By induction on the tokens: only the last of them can see that the text behind it is another.
  induction h with
  | done => exact ⟨[], rfl, fun o' => ⟨[], o', rfl, .done⟩⟩
  | @more o gap text after l ts p rest hg hw _ ih =>
    obtain ⟨before, rfl, hmoved⟩ := ih hr
    refine ⟨gap ++ (text ++ before), by simp only [List.append_assoc], fun o' => ?_⟩
    obtain ⟨ts', p', hts, hseg⟩ := hmoved (o' + gap.length + text.length)
    have hw' : l.Written text (before ++ rest') := hw.moved (goesOn_append hr before)
    refine ⟨⟨l, (o' + gap.length : Nat)⟩ :: ts', p', ?_, ?_⟩
    · rw [List.map_cons, List.map_cons, hts]
    · simp only [List.append_assoc]
      exact .more hg hw' hseg

theorem Segmented.parted {us : List Token} {p : Nat} {rest : List Char} :
    ∀ {ts : List Token} {o : Nat} {text : List Char}, Segmented o text (ts ++ us) p rest →
      ∃ q mid, Segmented o text ts q mid ∧ Segmented q mid us p rest
  | [], o, text, h => ⟨o, text, .done, h⟩
  | _ :: _, _, _, .more hg hw h => by
    obtain ⟨q, mid, h1, h2⟩ := h.parted
    exact ⟨q, mid, .more hg hw h1, h2⟩

theorem Segmented.cut {o p : Nat} {text rest : List Char} {ts : List Token}
    (h : Segmented o text ts p rest) :
    ∃ before, text = before ++ rest ∧ Segmented o before ts p [] := by
  have hend : GoesOn rest [] := nofun
  induction h with
  | done => exact ⟨[], rfl, .done⟩
  | @more o gap text after l ts p rest hg hw _ ih =>
    obtain ⟨before, rfl, hseg⟩ := ih hend
    have hw' : l.Written text before := by
      have := hw.moved (goesOn_append hend before)
      rwa [List.append_nil] at this
    exact ⟨gap ++ (text ++ before), by simp only [List.append_assoc], .more hg hw' hseg⟩

/-- **Tokens of a text are all the tokens of a part of it.** -/
theorem Cursor.exists_part {source : List Char} {before part after : List Token} {q : Int}
    (h : tokenize source = .ok (before ++ (part ++ after) ++ [⟨.endOfInput, q⟩])) :
    ∃ (c : Cursor) (p : Int), c.feed = (part ++ [⟨.endOfInput, p⟩], none) := by
  rw [tokenize_eq_ok_iff] at h
  obtain ⟨ts, p, gap, rest, hseg, hg, hend⟩ := exists_segmented 0 source
  have hts : ts = before ++ (part ++ after) := by
    rw [start, feed_segmented hseg] at h
    rcases hend with rfl | ⟨cause, passed, after, rfl, hs⟩
    · rw [List.append_nil, feed_gap p hg] at h
      exact List.append_inj_left' (Prod.mk.inj h).1 rfl
    · rw [feed_spoiled p hg hs] at h
      cases (Prod.mk.inj h).2
  subst hts
  obtain ⟨o, mid, -, hpart⟩ := hseg.parted
  obtain ⟨p', mid', hpart, -⟩ := hpart.parted
  obtain ⟨text, -, hcut⟩ := hpart.cut
  refine ⟨⟨o, text⟩, p', ?_⟩
  have hnil : feed ⟨p', []⟩ = ([⟨.endOfInput, p'⟩], none) := feed_of_end (next_of_rest_nil rfl) rfl
  rw [feed_segmented hcut, hnil]

theorem Cursor.lexemes_feed_offset (o o' : Nat) (text : List Char) :
    lexemes (feed ⟨o, text⟩) = lexemes (feed ⟨o', text⟩) := by
  have hstart : ∀ k, lexemes (feed ⟨k, text⟩) = lexemes (feed ⟨0, text⟩) := by
    intro k
    have hmoved := feed_moved k ⟨0, text⟩
    rw [moved, Nat.zero_add] at hmoved
    rw [hmoved]
    simp [lexemes, Function.comp_def, Token.moved, SourceFault.moved]
  rw [hstart o, hstart o']

/-! ### Blanks at the borders of tokens -/

/-- The blanks behind a token, or before the first, are replaced by others. Where there were none,
this puts blanks in; but none is taken away without another in its place. -/
inductive Respaced : List Char → List Char → Prop
  | gap {before gap gap' rest ts p} : Segmented 0 (before ++ (gap ++ rest)) ts p (gap ++ rest) →
      (∀ x ∈ gap, isBlank x = true) → (∀ x ∈ gap', isBlank x = true) → (gap' = [] → gap = []) →
      Respaced (before ++ (gap ++ rest)) (before ++ (gap' ++ rest))

theorem goesOn_gap {gap gap' rest : List Char} (hg : ∀ x ∈ gap', isBlank x = true)
    (hne : gap' = [] → gap = []) : GoesOn (gap ++ rest) (gap' ++ rest) := by
  rcases gap' with _ | ⟨x, gap'⟩
  · rw [hne rfl]
    exact fun _ hy => .inr hy
  · intro y hy
    cases hy
    exact .inl (hg x List.mem_cons_self)

theorem Cursor.feed_after_gap {gap : List Char} (hg : ∀ x ∈ gap, isBlank x = true) (o : Nat)
    (rest : List Char) : feed ⟨o, gap ++ rest⟩ = feed ⟨o + gap.length, rest⟩ :=
  feed_congr (next_gap rest gap o hg)

/-- **Blanks at the borders of tokens do not count.** -/
theorem Respaced.corresponds {source source' : List Char} (h : Respaced source source') :
    Corresponds source source' := by
  obtain ⟨hseg, hg, hg', hne⟩ := h
  rename_i before gap gap' rest ts p
  obtain ⟨before', hbefore, hmoved⟩ := hseg.moved (goesOn_gap hg' hne)
  obtain rfl := List.append_cancel_right hbefore
  obtain ⟨ts', p', hts, hseg'⟩ := hmoved 0
  have hrest := Cursor.lexemes_feed_offset (p + gap.length) (p' + gap'.length) rest
  obtain ⟨hrest1, hrest2⟩ := Prod.mk.inj hrest
  refine corresponds_iff.mpr ?_
  rw [Cursor.start, Cursor.start, Cursor.feed_segmented hseg, Cursor.feed_segmented hseg',
    Cursor.feed_after_gap hg, Cursor.feed_after_gap hg']
  simp only [lexemes, List.map_append, hts, hrest1, hrest2]

/-- **Layout does not count.** Sources with the same tokens give the same trees, results and
sessions, or fail for the same causes, whatever the places of their tokens are; and changes of the
blanks at the borders of tokens, any number of them and in either direction, leave the tokens the
same. -/
theorem layout_independent (limit : Nat) (source source' : List Char) :
    (Corresponds source source' → Interchangeable limit source source') ∧
    (Relation.EqvGen Respaced source source' → Corresponds source source') := by
  refine ⟨fun h => h.interchangeable limit, fun h => ?_⟩
  have hgen := h.mono fun _ _ => Respaced.corresponds
  exact equivalence_corresponds.eqvGen_iff.mp hgen

/-- A line break behind a brace does not count, nor do blanks and zeros before a fault. -/
theorem layout_independent_lines :
    (Relation.EqvGen Respaced "\x7bresult=2\x7d".toList "\x7b\n result=2\x7d".toList ∧
      Corresponds "\x7bresult=2\x7d".toList "\x7b\n result=2\x7d".toList) ∧
    Corresponds "\x7b x = 1.50 + $ \x7d".toList "\x7bx=01.5+$".toList ∧
    Interchangeable depthLimit "\x7b x = 1.50 + $ \x7d".toList "\x7bx=01.5+$".toList := by
  have hbrace : Segmented 0 "\x7bresult=2\x7d".toList [⟨.openBrace, 0⟩] 1 "result=2\x7d".toList :=
    @Segmented.more 0 [] ['{'] _ _ _ _ _ nofun (.symbol List.mem_cons_self) .done
  have hlines : Respaced "\x7bresult=2\x7d".toList "\x7b\n result=2\x7d".toList :=
    @Respaced.gap ['{'] [] ['\n', ' '] _ _ _ hbrace nofun (List.all_eq_true.mp rfl) nofun
  have hfault : Corresponds "\x7b x = 1.50 + $ \x7d".toList "\x7bx=01.5+$".toList :=
    corresponds_iff.mpr (by decide +kernel)
  have hgen := Relation.EqvGen.rel _ _ hlines
  exact ⟨⟨hgen, (layout_independent depthLimit _ _).2 hgen⟩, hfault,
    (layout_independent depthLimit _ _).1 hfault⟩

end BlockCalc
